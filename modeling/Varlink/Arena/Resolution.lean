import Varlink.Arena
import Varlink.Interface.Linking

/-!
# Resolving a document in an arena

A document is turned into an arena in two passes. The first reserves a slot for every declared type
and then fills in the types as they are written, the inner ones before the outer. The second goes
through what has been declared and gives names to the structs and enums in place; it changes them
where they lie, and keeps account of the slots it has been at, since types may lead back to
themselves.
-/

namespace Varlink

/-- A step of the first pass. -/
abbrev Build (α : Type) : Type := StateT Slots Work α

namespace Build

/-- Takes a new slot and leaves it empty. -/
def reserve : Build Nat := fun slots =>
  if slots.length + 1 < UInt32.size then return (slots.length + 1, slots ++ [none])
  else throw (.unmet .numbered)

/-- Fills a slot. -/
def fill (number : Nat) (slot : Slot) : Build Unit := do
  set (← (← get).write slot number)

/-- Takes a new slot and fills it. -/
def create (slot : Slot) : Build Nat := do
  let number ← reserve
  fill number slot
  return number

/-- Takes the slots of the built-in types. -/
def builtins : Build Unit :=
  forM Builtin.all fun leaf => discard (create ⟨none, .builtin, .builtin leaf⟩)

/-- Reserves a slot for a declaration, unless there is one of its name. -/
def register (names : List (String × Nat)) (name : String) : Build (List (String × Nat)) := do
  if names.any (·.1 = name) then throw (.error (.duplicateTypedef name))
  let number ← reserve
  return names ++ [(name, number)]

/-- The slot of a declaration. -/
def resolve (names : List (String × Nat)) (name : String) : Build Nat :=
  match names.lookup name with
  | some number => return number
  | none => throw (.error (.unresolvedReference name))

mutual

/-- Puts a type into slots, `depth` types inside others, and returns its number. -/
def lower (names : List (String × Nat)) (depth : Nat) (type : TypeExpr String) : Build Nat :=
  if maxNesting < depth then throw (.error .nestingTooDeep)
  else match type with
  | .reference name => resolve names name
  | .builtin leaf => return leaf.number
  | .modified modifier inner => do
    let inner ← lower names (depth + 1) inner
    create ⟨none, .anonymous, .modified modifier inner⟩
  | .struct fields => do
    let members ← lowerFields names (depth + 1) fields
    create ⟨none, .anonymous, .group .struct members⟩
  | .enum members =>
    create ⟨none, .anonymous, .group .enum (members.map fun name => (name, none))⟩

/-- Puts the types of fields into slots. -/
def lowerFields (names : List (String × Nat)) (depth : Nat) :
    List (String × TypeExpr String) → Build (List (String × Option TypeRef))
  | [] => return []
  | (name, type) :: rest => do
    let number ← lower names depth type
    let rest ← lowerFields names depth rest
    return (name, some number) :: rest

end

/-- Fills the slot of a declaration. -/
def lowerTypedef (names : List (String × Nat)) (number : Nat) (typedef : TypeDef) :
    Build Unit := do
  let kind ← match typedef.body with
    | .struct fields => SlotKind.group .struct <$> lowerFields names 0 fields
    | .enum members => pure (.group .enum (members.map fun name => (name, none)))
    | _ => throw (.error (.invalidTypedef typedef.name))
  fill number ⟨some typedef.name, .typedef, kind⟩

/-- Puts what a method or error takes or gives into slots. A declared type has to be a struct. -/
def lowerSignature (names : List (String × Nat)) (site : SignatureSite) :
    TypeExpr String → Build Nat
  | .struct fields => do
    let members ← lowerFields names 1 fields
    create ⟨none, .wrapper, .group .struct members⟩
  | .reference name => do
    let number ← resolve names name
    let slot ← (← get).read number
    match slot.kind with
    | .group .struct _ => return number
    | _ => throw (.error (.expectedStruct name site))
  | other => throw (.error (.expectedStruct other.constructorText site))

/-- Puts the types of a method into slots. -/
def lowerMethod (names : List (String × Nat)) (method : MethodDef) : Build ArenaMethod := do
  let parameters ← lowerSignature names (.methodParameters method.name) method.parameters
  let results ← lowerSignature names (.methodResults method.name) method.results
  return ⟨method.name, parameters, results⟩

/-- Puts the types of an error into slots. -/
def lowerError (names : List (String × Nat)) (error : ErrorDef) : Build ArenaError := do
  let parameters ← lowerSignature names (.errorParameters error.name) error.parameters
  return ⟨error.name, parameters⟩

/-- The first pass: the numbers of the declared types, the methods and the errors. -/
def all (document : Document) : Build (List TypeRef × List ArenaMethod × List ArenaError) := do
  builtins
  let names ← document.typedefs.foldlM (fun names typedef => register names typedef.name) []
  forM (names.zip document.typedefs) fun reserved => lowerTypedef names reserved.1.2 reserved.2
  let methods ← document.methods.mapM (lowerMethod names)
  let errors ← document.errors.mapM (lowerError names)
  return (names.map (·.2), methods, errors)

end Build

/-- What the second pass works on. -/
structure Namer where
  slots : Slots
  /-- The names that are taken. -/
  names : List String
  /-- The slots whose members have been looked at. -/
  visited : List Nat
  /-- The slots that got a name and are declarations now, in order. -/
  registered : List Nat

/-- A step of the second pass. -/
abbrev Naming (α : Type) : Type := StateT Namer Work α

namespace Naming

/-- The second pass starts with the names of the declared types. -/
def start (slots : Slots) (typedefs : List TypeRef) : Work Namer := do
  let named ← typedefs.mapM fun number => return (← slots.read number).name
  return ⟨slots, named.reduceOption, [], []⟩

/-- The slot with a number. -/
def read (number : Nat) : Naming Slot := do
  (← get).slots.read number

/-- Changes a slot. -/
def change (number : Nat) (f : Slot → Slot) : Naming Unit := do
  let namer ← get
  set { namer with slots := ← namer.slots.change f number }

/-- Gives a slot a new name and registers it. -/
def give (number : Nat) (name : String) : Naming Unit := do
  if name ∈ (← get).names then throw (.error (.nameCollision name))
  modify fun namer => { namer with names := name :: namer.names }
  change number fun slot => { slot with name := some name }
  modify fun namer => { namer with registered := namer.registered ++ [number] }

end Naming

namespace TypeRef

mutual

/-- Names a struct or an enum, unless it has a name, and what is inside it. -/
def nameType (number : TypeRef) (suggested : String) : Naming Unit := do
  if (← Naming.read number).name.isNone then Naming.give number suggested
  number |>.visitMembers
partial_fixpoint

/-- Names what the members of a slot lead to, unless this has been done. -/
def visitMembers (number : TypeRef) : Naming Unit := do
  if number ∈ (← get).visited then return
  modify fun namer => { namer with visited := number :: namer.visited }
  let slot ← Naming.read number
  match slot.name with
  | none => return
  | some parent =>
    slot.members.forM fun (member, type) =>
      match type with
      | some type => type |>.visitMember (memberPath parent member)
      | none => return
partial_fixpoint

/-- Names what the type of a member leads to. -/
def visitMember (number : TypeRef) (suggested : String) : Naming Unit := do
  match (← Naming.read number).kind with
  | .builtin _ => return
  | .modified _ inner => inner |>.visitMember suggested
  | .group .. => number |>.nameType suggested
partial_fixpoint

end

end TypeRef

namespace Naming

/-- Names what a method or an error takes or gives, unless it has a name. A struct without fields is
suppressed. -/
def nameWrapper (number : TypeRef) (name : String) : Naming Unit := do
  let slot ← read number
  if slot.name.isSome then return
  if slot.members.isEmpty then
    change number fun slot => { slot with name := some name, origin := .suppressedWrapper }
  else number.nameType name

/-- Names the types of a method. -/
def nameMethod (method : ArenaMethod) : Naming Unit := do
  nameWrapper method.parameters (method.name ++ "Args")
  nameWrapper method.results (method.name ++ "Result")

/-- Names the type of an error. -/
def nameError (error : ArenaError) : Naming Unit :=
  nameWrapper error.parameters (error.name ++ "Args")

/-- The second pass. -/
def all (typedefs : List TypeRef) (methods : List ArenaMethod) (errors : List ArenaError) :
    Naming Unit := do
  forM typedefs TypeRef.visitMembers
  forM methods nameMethod
  forM errors nameError

end Naming

/-- The arena of a document. -/
def Document.assemble (document : Document) : Work Arena := do
  let ((typedefs, methods, errors), slots) ← (Build.all document).run []
  let namer ← Naming.start slots typedefs
  let ((), namer) ← (Naming.all typedefs methods errors).run namer
  match namer.slots.mapM id with
  | some slots =>
    return ⟨document.name, methods, typedefs ++ namer.registered, errors, slots⟩
  | none => throw (.unmet .filled)

end Varlink
