import Varlink.Interface
import Varlink.Interface.Error

/-!
# Linking a document

Linking replaces every name by the number of the declaration it refers to and changes nothing else.
All declarations are known before the first reference is looked up, so a reference may point
forward, backward or to the declaration it stands in. The first failure in the order of the document
decides: the declarations' names, their bodies, then methods and errors.
-/

namespace Varlink

namespace TypeExpr

variable {α : Type}

mutual

/-- Looks up the references of a type in which at most `levels` types stand inside each other. -/
def link (find : String → Option α) :
    TypeExpr String → (levels : Nat) → Except ResolveError (TypeExpr α)
  | _, 0 => .error .nestingTooDeep
  | .reference name, _ + 1 =>
    match find name with
    | some target => .ok (.reference target)
    | none => .error (.unresolvedReference name)
  | .builtin leaf, _ + 1 => .ok (.builtin leaf)
  | .modified modifier inner, levels + 1 => do
    let inner ← link find inner levels
    return .modified modifier inner
  | .struct fields, levels + 1 => do
    let fields ← linkFields find fields levels
    return .struct fields
  | .enum members, _ + 1 => .ok (.enum members)

/-- Looks up the references of fields, in order. -/
def linkFields (find : String → Option α) :
    List (String × TypeExpr String) → (levels : Nat) →
      Except ResolveError (List (String × TypeExpr α))
  | [], _ => .ok []
  | (name, type) :: rest, levels => do
    let type ← link find type levels
    let rest ← linkFields find rest levels
    return (name, type) :: rest

end

end TypeExpr

namespace Document

/-- Fails at the first name that occurred before. -/
def checkDistinct (seen : List String) : List String → Except ResolveError Unit
  | [] => .ok ()
  | name :: rest =>
    if name ∈ seen then .error (.duplicateTypedef name) else checkDistinct (name :: seen) rest

/-- The number of the type declared under a name. -/
def typedefIndex? (document : Document) (name : String) : Option Nat :=
  document.typedefs.findIdx? fun typedef => typedef.name = name

/-- Links a declaration, whose body has to be a group. Its fields may nest one level deeper than
those of a signature. -/
def linkTypedef (find : String → Option Nat) (typedef : TypeDef) : Except ResolveError Typedef :=
  match typedef.body with
  | .struct fields => do
    let fields ← TypeExpr.linkFields find fields (maxNesting + 1)
    return ⟨typedef.name, .struct fields⟩
  | .enum members => .ok ⟨typedef.name, .enum members⟩
  | _ => .error (.invalidTypedef typedef.name)

/-- Whether the number is that of a struct. -/
def isStruct (typedefs : List Typedef) (index : Nat) : Bool :=
  typedefs[index]?.any fun typedef => typedef.body.kind = .struct

/-- Links what a method or error takes or gives, given the linked declarations. -/
def linkSignature (find : String → Option Nat) (typedefs : List Typedef) (site : SignatureSite) :
    TypeExpr String → Except ResolveError Signature
  | .struct fields => do
    let fields ← TypeExpr.linkFields find fields maxNesting
    return .inline fields
  | .reference name =>
    match find name with
    | none => .error (.unresolvedReference name)
    | some index =>
      if isStruct typedefs index then .ok (.declared index)
      else .error (.expectedStruct name site)
  | other => .error (.expectedStruct other.constructorText site)

/-- Links a method: parameters before results. -/
def linkMethod (find : String → Option Nat) (typedefs : List Typedef) (method : MethodDef) :
    Except ResolveError Method := do
  let parameters ←
    linkSignature find typedefs (.methodParameters method.name) method.parameters
  let results ← linkSignature find typedefs (.methodResults method.name) method.results
  return ⟨method.name, parameters, results⟩

/-- Links an error. -/
def linkError (find : String → Option Nat) (typedefs : List Typedef) (error : ErrorDef) :
    Except ResolveError ErrorCase := do
  let parameters ← linkSignature find typedefs (.errorParameters error.name) error.parameters
  return ⟨error.name, parameters⟩

/-- The interface with the references of a document looked up. -/
def link (document : Document) : Except ResolveError Interface := do
  checkDistinct [] (document.typedefs.map (·.name))
  let typedefs ← document.typedefs.mapM (linkTypedef document.typedefIndex?)
  let methods ← document.methods.mapM (linkMethod document.typedefIndex? typedefs)
  let errors ← document.errors.mapM (linkError document.typedefIndex? typedefs)
  return ⟨document.name, typedefs, methods, errors⟩

end Document

end Varlink
