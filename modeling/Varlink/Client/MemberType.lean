import Varlink.Interface.Naming

/-!
# Types of members

In generated code every struct and enum is a declaration of its own, so the type of a member is never
a group: it is a name, a built-in type, or a modifier applied to such a type. The name of a group
written in place is the path that leads to it.
-/

namespace Varlink

/-- The type of a member. -/
inductive MemberType where
  | named (name : String)
  | builtin (leaf : Builtin)
  | modified (modifier : Modifier) (inner : MemberType)
  deriving DecidableEq, Repr

namespace MemberType

/-- Whether a member of this type may be absent. -/
def isOptional : MemberType → Bool
  | modified .maybe _ => true
  | _ => false

/-- The name of the struct or enum that a value of the type has as a part of itself. Lists and maps
keep their elements elsewhere. -/
def part? : MemberType → Option String
  | named name => some name
  | modified .maybe inner => inner.part?
  | _ => none

end MemberType

/-- The type of a member that has the given path. -/
def TypeExpr.toMemberType (typedefName : Nat → String) (path : String) : LinkedType → MemberType
  | .reference index => .named (typedefName index)
  | .builtin leaf => .builtin leaf
  | .modified modifier inner => .modified modifier (inner.toMemberType typedefName path)
  | .struct _ | .enum _ => .named path

/-- The members of a declaration: of a struct with their types, of an enum by name alone. -/
inductive Members where
  | struct (fields : List (String × MemberType))
  | enum (members : List String)
  deriving DecidableEq, Repr

/-- The fields of a struct; an enum has none. -/
def Members.fields : Members → List (String × MemberType)
  | struct fields => fields
  | enum _ => []

namespace Interface

/-- The members of a declaration. -/
def members (interface : Interface) (declaration : Declaration) : Members :=
  match declaration.body with
  | .struct fields =>
    .struct (fields.map fun (name, type) =>
      (name, type.toMemberType interface.typedefName (memberPath declaration.name name)))
  | .enum members => .enum members

/-- All declarations with their members. -/
def declaredMembers (interface : Interface) : List (String × Members) :=
  interface.declarations.map fun declaration => (declaration.name, interface.members declaration)

end Interface

end Varlink
