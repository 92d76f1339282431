import Varlink.Interface.Naming

/-!
# Interfaces as text

An interface is written as a definition again: its declared types, then its errors, then its
methods. References to declared types are written by name, and every other type is written in place,
so the text stands for the same interface.
-/

namespace Varlink

namespace Interface

/-- A type as it is written where it is used. -/
def printType (interface : Interface) (type : LinkedType) : String :=
  type.print interface.typedefName

/-- The text of a declared type. -/
def printTypedef (interface : Interface) (typedef : Typedef) : String :=
  "\ntype " ++ typedef.name ++ " " ++ interface.printType typedef.body.toType ++ "\n"

/-- The text of an error. -/
def printError (interface : Interface) (error : ErrorCase) : String :=
  "\nerror " ++ error.name ++ " " ++ interface.printType error.parameters.toType ++ "\n"

/-- The text of a method. -/
def printMethod (interface : Interface) (method : Method) : String :=
  "\nmethod " ++ method.name ++ " " ++ interface.printType method.parameters.toType ++ " -> "
    ++ interface.printType method.results.toType ++ "\n"

/-- The text of an interface. -/
def print (interface : Interface) : String :=
  "interface " ++ interface.name ++ "\n"
    ++ String.join (interface.typedefs.map interface.printTypedef)
    ++ String.join (interface.errors.map interface.printError)
    ++ String.join (interface.methods.map interface.printMethod)

end Interface

end Varlink
