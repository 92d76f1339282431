import Varlink.Client.MemberType
import Varlink.Client.Name

/-!
# The outline of a client

What a client consists of in every language: the declarations with the types of their members, the
errors, and the calls. All types in it are names of declarations or built from them, and a struct
without fields that is written in place of parameters or results is left out.
-/

namespace Varlink

/-- An error in the outline of a client. -/
structure ErrorOutline where
  name : String
  /-- The name the error is sent by. -/
  qualified : String
  parameters : Option String
  deriving DecidableEq, Repr

/-- A call in the outline of a client. -/
structure CallOutline where
  name : String
  /-- The name the method is called by. -/
  qualified : String
  parameters : Option String
  results : Option String
  deriving DecidableEq, Repr

/-- The outline of a client. -/
structure Outline where
  interfaceName : String
  declarations : List (String × Members)
  clientName : String
  errorTypeName : String
  errors : List ErrorOutline
  calls : List CallOutline
  deriving DecidableEq, Repr

namespace Interface

/-- The name of what a method or error takes or gives, where `path` is the name it gets if it is
written in place. -/
def signatureName? (interface : Interface) (path : String) : Signature → Option String
  | .inline [] => none
  | .inline _ => some path
  | .declared index => some (interface.typedefName index)

/-- The full name of a method or error. -/
def qualified (interface : Interface) (name : String) : String := interface.name ++ "." ++ name

/-- The outline of an error. -/
def errorOutline (interface : Interface) (error : ErrorCase) : ErrorOutline where
  name := error.name
  qualified := interface.qualified error.name
  parameters := interface.signatureName? (error.name ++ "Args") error.parameters

/-- The outline of a call. -/
def callOutline (interface : Interface) (method : Method) : CallOutline where
  name := method.name
  qualified := interface.qualified method.name
  parameters := interface.signatureName? (method.name ++ "Args") method.parameters
  results := interface.signatureName? (method.name ++ "Result") method.results

/-- The outline of the client for an interface. -/
def outline (interface : Interface) : Outline where
  interfaceName := interface.name
  declarations := interface.declaredMembers
  clientName := interface.clientName
  errorTypeName := interface.clientErrorName
  errors := interface.errors.map interface.errorOutline
  calls := interface.methods.map interface.callOutline

end Interface

end Varlink
