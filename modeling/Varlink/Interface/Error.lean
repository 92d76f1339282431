import Varlink.Document
import Varlink.Text.Quoted

/-!
# Errors of resolution

A document may be well formed and still make no interface: a name may be declared twice or not at
all, a declaration may have no members, or a name made up for an inline type may be taken.
-/

namespace Varlink

/-- Why a document is no interface. -/
inductive ResolveError where
  | unresolvedReference (name : String)
  | duplicateTypedef (name : String)
  | nameCollision (name : String)
  /-- `found` is the name of a declared type, or the type itself in constructor notation. -/
  | expectedStruct (found : String) (site : SignatureSite)
  | invalidTypedef (name : String)
  | nestingTooDeep
  deriving DecidableEq, Repr

/-- The error as it is shown. -/
def ResolveError.message : ResolveError → String
  | unresolvedReference name => "unresolved type reference `" ++ name ++ "`"
  | duplicateTypedef name => "type `" ++ name ++ "` is declared more than once"
  | nameCollision name =>
    "synthesized type name `" ++ name ++ "` collides with another type"
  | expectedStruct found site => site.describe ++ " must be a struct, but `" ++ found ++ "` is not"
  | invalidTypedef name => "type `" ++ name ++ "` must be declared as a struct or an enum"
  | nestingTooDeep => "types nested deeper than " ++ toString maxNesting ++ " levels"

/-- A built-in type in constructor notation. -/
def Builtin.constructorText : Builtin → String
  | bool => "Bool"
  | int => "Int"
  | float => "Float"
  | string => "String"
  | object => "Object"

/-- A modifier in constructor notation. -/
def Modifier.constructorText : Modifier → String
  | maybe => "Maybe"
  | array => "Array"
  | dictionary => "Dictionary"

namespace TypeExpr

mutual

/-- A type in constructor notation, which shows how it is built rather than how it is written. -/
def constructorText : TypeExpr String → String
  | .reference name => "Alias(" ++ Text.quoted name ++ ")"
  | .builtin leaf => leaf.constructorText
  | .modified modifier inner =>
    modifier.constructorText ++ "(" ++ constructorText inner ++ ")"
  | .struct fields => "Struct([" ++ ", ".intercalate (fieldTexts fields) ++ "])"
  | .enum members => "Enum([" ++ ", ".intercalate (members.map Text.quoted) ++ "])"

/-- Fields in constructor notation. -/
def fieldTexts : List (String × TypeExpr String) → List String
  | [] => []
  | (name, type) :: rest =>
    ("Field \x7b name: " ++ Text.quoted name ++ ", type_: " ++ constructorText type ++ " \x7d")
      :: fieldTexts rest

end

end TypeExpr

end Varlink
