import Varlink.Run.Host

/-!
# Files and directories

A tree of files, directories and sockets, and the way a path leads through it. A path is followed name
by name: every name but the last has to be a directory's, a dot stays where it is and two dots lead
back. Where a name is missing, too long, or followed in something that is no directory, the way ends
with the error that tells so, and the first such place decides.
-/

namespace Varlink

/-- Something with a name in a directory. -/
inductive Node where
  | file (content : List UInt8)
  | directory (entries : List (String × Node))
  /-- A socket at which a service listens that delivers the given bytes. -/
  | socket (replies : List UInt8)
  deriving Repr

namespace Node

/-- The entries with one of them set. -/
def setEntry (name : String) (node : Node) : List (String × Node) → List (String × Node)
  | [] => [(name, node)]
  | (other, old) :: rest =>
    if other = name then (name, node) :: rest else (other, old) :: setEntry name node rest

/-- The entries of a directory; other nodes have none. -/
def entries : Node → List (String × Node)
  | directory entries => entries
  | _ => []

/-- Whether the node is a directory. -/
def isDirectory : Node → Bool
  | directory _ => true
  | _ => false

/-- The node that names lead to. -/
def follow? (node : Node) : List String → Option Node
  | [] => some node
  | name :: rest =>
    match node.entries.lookup name with
    | some child => child.follow? rest
    | none => none

/-- The tree with another node where the names lead to, and directories on the way to it. -/
def put (new : Node) : List String → Node → Node
  | [], _ => new
  | name :: rest, node =>
    directory
      (setEntry name (put new rest ((node.entries.lookup name).getD (directory []))) node.entries)

end Node

namespace Path

/-- The number of bytes that a name may have. -/
def maxName : Nat := 255

/-- The number of bytes that a path may have. -/
def maxLength : Nat := 4095

/-- The names of a path. A slash at its end is followed by no name. -/
def names (path : String) : List String :=
  ((path.toList.splitOn '/').map String.ofList).filter fun name => !name.isEmpty

/-- Whether a path begins at the root. -/
def isAbsolute (path : String) : Bool := path.startsWith "/"

/-- The names of a path that has to be a directory's if it ends in a slash. -/
def namesOfTarget (path : String) : List String :=
  if path.endsWith "/" then names path ++ ["."] else names path

/-- Where a path begins, in a tree in which `here` is the working directory. -/
def start (here : List String) (path : String) : Except SystemError (List String) :=
  if path.toList.contains '\x00' then .error .nulInPath
  else if path.isEmpty then .error .notFound
  else if maxLength < path.utf8ByteSize then .error .nameTooLong
  else .ok (if isAbsolute path then [] else here)

/-- Follows names through a tree, from the place that the names `here` lead to. -/
def walk (root : Node) : (here : List String) → List String → Except SystemError (List String)
  | here, [] => .ok here
  | here, name :: rest =>
    match root.follow? here with
    | some (.directory entries) =>
      if name = "." then walk root here rest
      else if name = ".." then walk root here.dropLast rest
      else if maxName < name.utf8ByteSize then .error .nameTooLong
      else
        match entries.lookup name with
        | some _ => walk root (here ++ [name]) rest
        | none => .error .notFound
    | some _ => .error .notDirectory
    | none => .error .notFound

/-- The place a path leads to and what is there. -/
def find (root : Node) (here : List String) (path : String) : Except SystemError Node := do
  let start ← start here path
  let place ← walk root start (namesOfTarget path)
  match root.follow? place with
  | some node => return node
  | none => throw .notFound

/-- The directory that the last name of a path stands in, and this name, if it is one that something
new could have. -/
def findParent (root : Node) (here : List String) (path : String) :
    Except SystemError (List String × Option String) := do
  let start ← start here path
  let names := names path
  match names.getLast? with
  | none => return (start, none)
  | some name => do
    let place ← walk root start (names.dropLast ++ ["."])
    if name = "." || name = ".." then return (place, none)
    else if maxName < name.utf8ByteSize then throw .nameTooLong
    else return (place, some name)

/-- The path and the paths of the directories it stands in, the nearest first. The working directory
and the root are left out, and so are dots after the first name. -/
def ancestors (path : String) : List String :=
  let names := names path
  let names := names.take 1 ++ (names.drop 1).filter (· ≠ ".")
  let names := if isAbsolute path then names.filter (· ≠ ".") else names
  let root := if isAbsolute path then "/" else ""
  let parents := (List.range names.length).reverse.map fun count =>
    root ++ "/".intercalate (names.take count)
  if names.isEmpty then [] else path :: parents.dropLast

end Path

end Varlink
