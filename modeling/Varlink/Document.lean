import Varlink.TypeExpr

/-!
# Interface definitions as written

A document is the syntax of one interface definition: its name and its members, each kind in the
order of the text. References are still the names that were written, and the types of members may
have any shape; whether they make sense is decided when the document is linked.
-/

namespace Varlink

/-- A method with the types of its parameters and results. -/
structure MethodDef where
  name : String
  parameters : TypeExpr String
  results : TypeExpr String
  deriving Repr

/-- A named type. -/
structure TypeDef where
  name : String
  body : TypeExpr String
  deriving Repr

/-- An error with the type of its parameters. -/
structure ErrorDef where
  name : String
  parameters : TypeExpr String
  deriving Repr

/-- An interface definition. -/
structure Document where
  name : String
  methods : List MethodDef
  typedefs : List TypeDef
  errors : List ErrorDef
  deriving Repr

/-- The deepest nesting of groups and modifiers in one type. -/
def maxNesting : Nat := 256

/-- A place that takes a struct or the name of one. -/
inductive SignatureSite where
  | methodParameters (method : String)
  | methodResults (method : String)
  | errorParameters (error : String)
  deriving DecidableEq, Repr

/-- The place as messages name it. -/
def SignatureSite.describe : SignatureSite → String
  | methodParameters method => "parameters of method `" ++ method ++ "`"
  | methodResults method => "results of method `" ++ method ++ "`"
  | errorParameters error => "parameters of error `" ++ error ++ "`"

/-- A member of an interface definition, of any kind. -/
inductive Member where
  | method (definition : MethodDef)
  | typedef (definition : TypeDef)
  | error (definition : ErrorDef)
  deriving Repr

namespace Member

/-- The method a member defines, if it defines one. -/
def method? : Member → Option MethodDef
  | method definition => some definition
  | _ => none

/-- The type a member defines, if it defines one. -/
def typedef? : Member → Option TypeDef
  | typedef definition => some definition
  | _ => none

/-- The error a member defines, if it defines one. -/
def error? : Member → Option ErrorDef
  | error definition => some definition
  | _ => none

end Member

/-- The document with the given members, each kind kept in their order. -/
def Document.ofMembers (name : String) (members : List Member) : Document where
  name := name
  methods := members.filterMap Member.method?
  typedefs := members.filterMap Member.typedef?
  errors := members.filterMap Member.error?

end Varlink
