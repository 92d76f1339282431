/-!
# Addresses of services

An address is a scheme, a colon and a target. What follows a semicolon in the target are parameters,
which are ignored. Both kinds of targets are kept as they are written.
-/

namespace Varlink

/-- Where a service listens. -/
inductive Address where
  /-- At a socket in the file system. -/
  | unix (path : String)
  /-- At an address of the network. -/
  | tcp (target : String)
  deriving DecidableEq, Repr

namespace Address

/-- The scheme before the first colon of a text and what follows the colon. -/
def splitScheme? (text : List Char) : Option (List Char × List Char) :=
  match text.dropWhile (· ≠ ':') with
  | [] => none
  | _ :: rest => some (text.takeWhile (· ≠ ':'), rest)

/-- The target without its parameters. -/
def dropParameters (text : List Char) : List Char := text.takeWhile (· ≠ ';')

/-- Reads an address. A target may not be empty. -/
def parse? (text : String) : Option Address := do
  let (scheme, rest) ← splitScheme? text.toList
  let target := String.ofList (dropParameters rest)
  if target.isEmpty then none
  else if scheme = "unix".toList then some (.unix target)
  else if scheme = "tcp".toList then some (.tcp target)
  else none

end Address

end Varlink
