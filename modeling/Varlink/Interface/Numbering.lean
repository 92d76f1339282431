import Varlink.Interface
import Varlink.Text.Case

/-!
# The types of an interface, numbered

Every type of an interface has a number, counted from one: first the built-in types, then one for
each declaration, then one for each group or modifier that is written in place, numbered after the
types inside it. The types in place come in the order of the document: those inside the
declarations, those of the methods, parameters before results, and those of the errors. A reference
has the number of its declaration and a built-in type its own, so neither takes a new one.

Groups in place have a name all the same: that of the declaration or signature they stand in,
followed by the capitalized names of the members on the way to them.
-/

namespace Varlink

/-- The number of a built-in type. -/
def Builtin.number : Builtin → Nat
  | bool => 1
  | int => 2
  | float => 3
  | string => 4
  | object => 5

/-- The number of a declared type. -/
def typedefNumber (index : Nat) : Nat := 6 + index

/-- The name of a group in place that a member of a named type leads to. -/
def memberPath (path : String) (member : String) : String :=
  path ++ Text.capitalize member

namespace TypeExpr

variable {α : Type}

mutual

/-- How many numbers a type takes. -/
def numberCount : TypeExpr α → Nat
  | .reference _ => 0
  | .builtin _ => 0
  | .modified _ inner => numberCount inner + 1
  | .struct fields => fieldsNumberCount fields + 1
  | .enum _ => 1

/-- How many numbers the types of fields take. -/
def fieldsNumberCount : List (String × TypeExpr α) → Nat
  | [] => 0
  | (_, type) :: rest => numberCount type + fieldsNumberCount rest

end

/-- The number of a type whose own numbers start at `first`. -/
def number (first : Nat) : LinkedType → Nat
  | .reference index => typedefNumber index
  | .builtin leaf => leaf.number
  | .modified _ inner => first + numberCount inner
  | .struct fields => first + fieldsNumberCount fields
  | .enum _ => first

/-- The fields with the numbers of their types. -/
def fieldNumbers (first : Nat) : Fields → List (String × Nat)
  | [] => []
  | (name, type) :: rest =>
    (name, type.number first) :: fieldNumbers (first + numberCount type) rest

end TypeExpr

/-- Where a numbered type comes from. -/
inductive Origin where
  | builtin
  | typedef
  | anonymous
  /-- The parameters or results of a method, or the parameters of an error. -/
  | wrapper
  /-- A wrapper without fields, which stands for no parameters or results at all. -/
  | suppressedWrapper
  deriving DecidableEq, Repr

/-- A type whose inner types are given by their numbers. -/
inductive Shape where
  | builtin (leaf : Builtin)
  | modified (modifier : Modifier) (inner : Nat)
  | struct (fields : List (String × Nat))
  | enum (members : List String)
  deriving DecidableEq, Repr

/-- An entry of the table of types. -/
structure TypeEntry where
  name : Option String
  origin : Origin
  shape : Shape
  /-- The type as it is written where it is used. -/
  written : LinkedType
  deriving DecidableEq, Repr

namespace TypeEntry

/-- Whether the entry is a struct or an enum. -/
def isDeclaration (entry : TypeEntry) : Bool :=
  match entry.shape with
  | .struct _ | .enum _ => true
  | _ => false

/-- Whether the entry is left out of what is declared. -/
def isSuppressed (entry : TypeEntry) : Bool :=
  entry.origin = .suppressedWrapper

end TypeEntry

namespace TypeExpr

mutual

/-- The entries a type takes, the inner ones first. -/
def entries (path : String) (first : Nat) : LinkedType → List TypeEntry
  | .reference _ => []
  | .builtin _ => []
  | .modified modifier inner =>
    entries path first inner ++
      [⟨none, .anonymous, .modified modifier (inner.number first), .modified modifier inner⟩]
  | .struct fields =>
    fieldEntries path first fields ++
      [⟨some path, .anonymous, .struct (fieldNumbers first fields), .struct fields⟩]
  | .enum members => [⟨some path, .anonymous, .enum members, .enum members⟩]

/-- The entries the types of fields take. -/
def fieldEntries (path : String) (first : Nat) : Fields → List TypeEntry
  | [] => []
  | (name, type) :: rest =>
    entries (memberPath path name) first type ++ fieldEntries path (first + numberCount type) rest

end

end TypeExpr

/-- Gives each item the number it starts at, when it takes `size` numbers. -/
def numberFrom {α : Type} (size : α → Nat) (first : Nat) : List α → List (Nat × α)
  | [] => []
  | item :: rest => (first, item) :: numberFrom size (first + size item) rest

namespace Group

/-- How many numbers the types inside a group take. -/
def numberCount (group : Group) : Nat :=
  TypeExpr.fieldsNumberCount group.fields

/-- The shape of a group whose inner numbers start at `first`. -/
def shape (first : Nat) : Group → Shape
  | struct fields => .struct (TypeExpr.fieldNumbers first fields)
  | enum members => .enum members

end Group

namespace Signature

/-- How many numbers a signature takes. -/
def numberCount : Signature → Nat
  | inline fields => TypeExpr.fieldsNumberCount fields + 1
  | declared _ => 0

/-- The number of a signature whose own numbers start at `first`. -/
def number (first : Nat) : Signature → Nat
  | inline fields => first + TypeExpr.fieldsNumberCount fields
  | declared index => typedefNumber index

/-- The entries a signature takes. -/
def entries (path : String) (first : Nat) : Signature → List TypeEntry
  | inline fields =>
    TypeExpr.fieldEntries path first fields ++
      [⟨some path, if fields.isEmpty then .suppressedWrapper else .wrapper,
        .struct (TypeExpr.fieldNumbers first fields), .struct fields⟩]
  | declared _ => []

end Signature

namespace Interface

/-- The first number of a type in place. -/
def firstInner (interface : Interface) : Nat :=
  typedefNumber interface.typedefs.length

/-- The declared types with the numbers at which the types inside them start. -/
def numberedTypedefs (interface : Interface) : List (Nat × Typedef) :=
  numberFrom (fun typedef => typedef.body.numberCount) interface.firstInner interface.typedefs

/-- The first number of a type in a signature. -/
def firstSignature (interface : Interface) : Nat :=
  interface.typedefs.foldl (fun first typedef => first + typedef.body.numberCount)
    interface.firstInner

/-- The signatures with the numbers at which they start. -/
def numberedSignatures (interface : Interface) : List (Nat × String × Signature) :=
  numberFrom (fun signature => signature.2.numberCount) interface.firstSignature
    interface.signatures

/-- The numbers of the signatures, in their order: parameters and results of each method, then the
parameters of each error. -/
def signatureNumbers (interface : Interface) : List Nat :=
  interface.numberedSignatures.map fun (first, _, signature) => signature.number first

/-- The entries of the built-in types. -/
def builtinEntries : List TypeEntry :=
  Builtin.all.map fun leaf => ⟨none, .builtin, .builtin leaf, .builtin leaf⟩

/-- The entries of the declared types. -/
def typedefEntries (interface : Interface) : List TypeEntry :=
  interface.numberedTypedefs.mapIdx fun index (first, typedef) =>
    ⟨some typedef.name, .typedef, typedef.body.shape first, .reference index⟩

/-- The table of types: the entry of number `n` is the `n`-th one. -/
def types (interface : Interface) : List TypeEntry :=
  builtinEntries ++ interface.typedefEntries
  ++ interface.numberedTypedefs.flatMap (fun (first, typedef) =>
    TypeExpr.fieldEntries typedef.name first typedef.body.fields)
  ++ interface.numberedSignatures.flatMap fun (first, path, signature) =>
    signature.entries path first

/-- The entry with a number. -/
def type? (interface : Interface) : Nat → Option TypeEntry
  | 0 => none
  | index + 1 => interface.types[index]?

end Interface

end Varlink
