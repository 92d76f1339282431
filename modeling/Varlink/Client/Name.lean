import Varlink.Interface.Naming
import Varlink.Text.Words

/-!
# The name of a client

A client is named after the last segment of the interface's name. The declared types keep their names,
so the client's name gives way to them: it is lengthened until neither it nor the name of the error
type made from it is taken. Every declaration stands in the way of at most one of the candidates, so
there is a free one among the first ones, one more than there are declarations.
-/

namespace Varlink

namespace Interface

/-- What follows the last dot of a name. -/
def lastSegment (name : String) : String :=
  String.ofList (name.toList.reverse.takeWhile (· ≠ '.')).reverse

/-- The last segment of the interface's name as the beginning of a name that starts with a letter. -/
def clientStem (interface : Interface) : String :=
  let stem := Text.pascalCase (lastSegment interface.name)
  if stem.toList.head?.any Text.isAlphabetic then stem else "Interface" ++ stem

/-- The stem, lengthened so many times. -/
def clientCandidate (interface : Interface) (count : Nat) : String :=
  interface.clientStem ++ String.join (List.replicate count "Client")

/-- The name of the error type that belongs to a client. -/
def errorTypeName (client : String) : String := client ++ "Error"

/-- Whether neither a client's name nor that of its error type is taken. -/
def isFree (interface : Interface) (client : String) : Bool :=
  let names := interface.declarations.map (·.name)
  !names.contains client && !names.contains (errorTypeName client)

/-- How often the stem is lengthened. -/
def clientCount (interface : Interface) : Nat :=
  ((List.range (interface.declarations.length + 1)).find? fun count =>
    interface.isFree (interface.clientCandidate count)).getD 0

/-- The name of the client. -/
def clientName (interface : Interface) : String :=
  interface.clientCandidate interface.clientCount

/-- The name of the client's error type. -/
def clientErrorName (interface : Interface) : String := errorTypeName interface.clientName

end Interface

/-- The name and version that generated code is signed with. -/
def generatorSignature : String := "varlink-generator 0.1.0"

end Varlink
