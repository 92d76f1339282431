import Varlink.TypeExpr

/-!
# Interfaces

An interface is a definition whose references are resolved: a reference is the number of a declared
type, in the order of declaration and counted from zero. Declared types are structs or enums, and
what a method or error takes or gives is either a struct written in place or a declared one.

Nothing here is a graph. A type that refers to itself does so through its number, and every other
type stands where it was written, so what is said about all types of an interface follows the
structure of the expressions.
-/

namespace Varlink

/-- A type of an interface. -/
abbrev LinkedType : Type := TypeExpr Nat

/-- The fields of a struct. -/
abbrev Fields : Type := List (String × LinkedType)

/-- A struct or an enum. -/
inductive Group where
  | struct (fields : Fields)
  | enum (members : List String)
  deriving DecidableEq, Repr

namespace Group

/-- The fields of a struct; an enum has none. -/
def fields : Group → Fields
  | struct fields => fields
  | enum _ => []

/-- The group as a type. -/
def toType : Group → LinkedType
  | struct fields => .struct fields
  | enum members => .enum members

/-- The kind of the group. -/
def kind : Group → GroupKind
  | struct _ => .struct
  | enum _ => .enum

end Group

/-- What a method or an error takes or gives: a struct written in place, or a declared type. -/
inductive Signature where
  | inline (fields : Fields)
  | declared (index : Nat)
  deriving DecidableEq, Repr

/-- The signature as a type. -/
def Signature.toType : Signature → LinkedType
  | inline fields => .struct fields
  | declared index => .reference index

/-- A declared type. -/
structure Typedef where
  name : String
  body : Group
  deriving DecidableEq, Repr

/-- A method. -/
structure Method where
  name : String
  parameters : Signature
  results : Signature
  deriving DecidableEq, Repr

/-- An error a method may answer with. -/
structure ErrorCase where
  name : String
  parameters : Signature
  deriving DecidableEq, Repr

/-- An interface. -/
structure Interface where
  name : String
  typedefs : List Typedef
  methods : List Method
  errors : List ErrorCase
  deriving DecidableEq, Repr

namespace Interface

/-- The name of a declared type. Every number in an interface is that of a declaration, so the empty
name is never used. -/
def typedefName (interface : Interface) (index : Nat) : String :=
  match interface.typedefs[index]? with
  | some typedef => typedef.name
  | none => ""

/-- The first method of that name. -/
def method? (interface : Interface) (name : String) : Option Method :=
  interface.methods.find? fun method => method.name = name

/-- The structs that stand for parameters and results, with the name each would get, in the order
in which they are met. -/
def signatures (interface : Interface) : List (String × Signature) :=
  interface.methods.flatMap (fun method =>
    [(method.name ++ "Args", method.parameters), (method.name ++ "Result", method.results)])
  ++ interface.errors.map fun error => (error.name ++ "Args", error.parameters)

end Interface

end Varlink
