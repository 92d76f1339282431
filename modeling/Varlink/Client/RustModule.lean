import Varlink.Client.Outline
import Varlink.Client.RustName
import Varlink.Graph

/-!
# Rust clients

A module with a declaration for every struct and enum, an enum of the errors, and a client with a
function for each call, as data: every name in it is one that Rust can write. An interface with a name
that cannot be written in Rust has no such module.

A struct may not be a part of itself, since it would have no size. A field through which its struct
could be reached as a part is therefore boxed, and no other field is.
-/

namespace Varlink

/-- A type of the generated code. -/
inductive RustType where
  | named (name : RustName)
  | builtin (leaf : Builtin)
  | option (inner : RustType)
  | vec (inner : RustType)
  | map (inner : RustType)
  | boxed (inner : RustType)
  deriving DecidableEq, Repr

/-- A field of a struct. -/
structure RustField where
  name : RustName
  /-- The member's name, if the field's name does not tell. -/
  rename : Option String
  /-- Whether the field may be left out. -/
  isOptional : Bool
  type : RustType
  deriving DecidableEq, Repr

/-- A variant of an enum. -/
structure RustVariant where
  name : RustName
  /-- The member's name, if the variant's name does not tell. -/
  rename : Option String
  deriving DecidableEq, Repr

/-- The body of a declaration. -/
inductive RustBody where
  | struct (fields : List RustField)
  | enum (variants : List RustVariant)
  deriving DecidableEq, Repr

/-- A struct or an enum. -/
structure RustDeclaration where
  name : RustName
  body : RustBody
  deriving DecidableEq, Repr

/-- A case of the enum of errors. -/
structure RustErrorCase where
  name : RustName
  /-- The name the error is sent by. -/
  qualified : String
  parameters : Option RustName
  deriving DecidableEq, Repr

/-- The enum of errors. -/
structure RustErrors where
  name : RustName
  cases : List RustErrorCase
  deriving DecidableEq, Repr

/-- A function of the client. -/
structure RustMethod where
  name : RustName
  /-- The name the method is called by. -/
  qualified : String
  parameters : Option RustName
  results : Option RustName
  deriving DecidableEq, Repr

/-- A module. -/
structure RustModule where
  interfaceName : String
  declarations : List RustDeclaration
  /-- The enum of errors, unless there are none. -/
  errors : Option RustErrors
  client : RustName
  methods : List RustMethod
  deriving DecidableEq, Repr

namespace RustType

/-- The type for the type of a member. -/
def ofMemberType : MemberType → Option RustType
  | .named name => (RustName.ofString? name).map named
  | .builtin leaf => some (builtin leaf)
  | .modified .maybe inner => (ofMemberType inner).map option
  | .modified .array inner => (ofMemberType inner).map vec
  | .modified .dictionary inner => (ofMemberType inner).map map

/-- The type with a box around the value, inside of what says that there may be none. -/
def box : RustType → RustType
  | option inner => option (boxed inner)
  | other => boxed other

end RustType

namespace Members

/-- The structs and enums that a declaration has as parts of itself. -/
def partNames (declarations : List (String × Members)) (name : String) : List String :=
  match declarations.lookup name with
  | some members => members.fields.filterMap fun field => field.2.part?
  | none => []

/-- Whether a value of the type has a value of the declaration as a part. -/
def hasPart (declarations : List (String × Members)) (type : MemberType) (name : String) : Bool :=
  Graph.reaches (declarations.map (·.1)) (partNames declarations) type.part?.toList name

end Members

/-- The field for a member of a struct. -/
def RustField.ofMember (declarations : List (String × Members)) (owner : String)
    (member : String × MemberType) : Option RustField := do
  let name ← RustName.ofString? (Text.snakeCase member.1)
  let type ← RustType.ofMemberType member.2
  return ⟨name, name.rename? member.1, member.2.isOptional,
    if Members.hasPart declarations member.2 owner then type.box else type⟩

/-- The variant for a member of an enum. -/
def RustVariant.ofMember (member : String) : Option RustVariant := do
  let name ← RustName.ofString? (Text.pascalCase member)
  return ⟨name, name.rename? member⟩

/-- The declaration for a struct or an enum. -/
def RustDeclaration.ofMembers (declarations : List (String × Members)) (name : String) :
    Members → Option RustDeclaration
  | .struct fields => do
    let rustName ← RustName.ofString? name
    let fields ← fields.mapM (RustField.ofMember declarations name)
    return ⟨rustName, .struct fields⟩
  | .enum members => do
    let rustName ← RustName.ofString? name
    let variants ← members.mapM RustVariant.ofMember
    return ⟨rustName, .enum variants⟩

/-- The name for a name that may be left out. -/
def RustName.ofOptional? : Option String → Option (Option RustName)
  | none => some none
  | some text => (RustName.ofString? text).map some

/-- The case for an error. -/
def RustErrorCase.ofOutline (error : ErrorOutline) : Option RustErrorCase := do
  let name ← RustName.ofString? error.name
  let parameters ← RustName.ofOptional? error.parameters
  return ⟨name, error.qualified, parameters⟩

/-- The enum of errors, unless there are none. -/
def RustErrors.ofOutline (outline : Outline) : Option (Option RustErrors) :=
  if outline.errors.isEmpty then some none
  else do
    let name ← RustName.ofString? outline.errorTypeName
    let cases ← outline.errors.mapM RustErrorCase.ofOutline
    return some ⟨name, cases⟩

namespace RustMethod

/-- The functions every client has. -/
def constructors : List String := ["new", "connect"]

/-- The name of the function for a method, which gives way to the functions every client has. -/
def functionName (method : String) : Option RustName :=
  let name := Text.snakeCase method
  if name ∈ constructors then some ⟨name ++ "_", false⟩ else RustName.ofString? name

/-- The function for a call. -/
def ofOutline (call : CallOutline) : Option RustMethod := do
  let name ← functionName call.name
  let parameters ← RustName.ofOptional? call.parameters
  let results ← RustName.ofOptional? call.results
  return ⟨name, call.qualified, parameters, results⟩

end RustMethod

/-- The module for a client, if all names can be written. -/
def RustModule.ofOutline (outline : Outline) : Option RustModule := do
  let declarations ← outline.declarations.mapM fun (name, members) =>
    RustDeclaration.ofMembers outline.declarations name members
  let errors ← RustErrors.ofOutline outline
  let client ← RustName.ofString? outline.clientName
  let methods ← outline.calls.mapM RustMethod.ofOutline
  return ⟨outline.interfaceName, declarations, errors, client, methods⟩

end Varlink
