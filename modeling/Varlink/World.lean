import Varlink.World.Folder

/-!
# A world as a value

A world holds a tree of files, the working directory, and what a run has left behind outside of files:
its output, the events it told about, and the connections it gave back. There is no web in it and no
network, only services at sockets in the tree.
-/

namespace Varlink

/-- A world in which a run takes place. -/
structure World where
  root : Node
  /-- The names that lead to the working directory. -/
  here : List String
  /-- What was printed. -/
  output : String
  /-- What was told about. -/
  events : List Event
  /-- The connections that were given back. -/
  connections : List Connection

namespace World

/-- A world in which nothing has happened. -/
def ofTree (root : Node) (here : List String) : World := ⟨root, here, "", [], []⟩

/-- What is at a path. -/
def find (world : World) (path : String) : Except SystemError Node :=
  Path.find world.root world.here path

/-- The text of the file at a path. -/
def readFile (world : World) (path : String) : Except SystemError String := do
  match ← world.find path with
  | .directory _ => throw .isDirectory
  | .socket _ => throw .noDevice
  | .file content =>
    match utf8Text? content with
    | some text => return text
    | none => throw .notUtf8

/-- The world with a text in the file at a path. -/
def writeFile (world : World) (path content : String) : Except SystemError World := do
  let (place, name) ← Path.findParent world.root world.here path
  match name with
  | none => throw .isDirectory
  | some name =>
    let target := place ++ [name]
    match world.root.follow? target with
    | some (.directory _) => throw .isDirectory
    | some (.socket _) => throw .noDevice
    | _ => return { world with root := Node.put (.file (utf8Bytes content)) target world.root }

/-- The world with a new directory at a path. -/
def makeDirectory (world : World) (path : String) : Except SystemError World := do
  let (place, name) ← Path.findParent world.root world.here path
  match name with
  | none => throw .alreadyExists
  | some name =>
    let target := place ++ [name]
    match world.root.follow? target with
    | some _ => throw .alreadyExists
    | none => return { world with root := Node.put (.directory []) target world.root }

/-- Whether a path leads to a directory. -/
def isDirectory (world : World) (path : String) : Bool :=
  match world.find path with
  | .ok node => node.isDirectory
  | .error _ => false

/-- A directory that is there already is as good as a new one. -/
def allowExisting (world : World) (path : String) (error : SystemError) :
    Except SystemError World :=
  if error = .alreadyExists && world.isDirectory path then .ok world else .error error

/-- Makes the first of the directories, after those behind it if it cannot be made without them. What
was made before a failure stays. -/
def makeAll (world : World) : List String → World × Except SystemError Unit
  | [] => (world, .ok ())
  | path :: parents =>
    let settle (world : World) (error : SystemError) : World × Except SystemError Unit :=
      match world.allowExisting path error with
      | .ok world => (world, .ok ())
      | .error error => (world, .error error)
    match world.makeDirectory path with
    | .ok world => (world, .ok ())
    | .error .notFound =>
      match world.makeAll parents with
      | (world, .error error) => (world, .error error)
      | (world, .ok ()) =>
        match world.makeDirectory path with
        | .ok world => (world, .ok ())
        | .error error => settle world error
    | .error error => settle world error

/-- The number of bytes that the path of a socket may have. -/
def maxSocketPath : Nat := 107

/-- The connection to the service at an address. -/
def connect (world : World) : Address → Except SystemError Connection
  | .tcp _ => .error .connectionRefused
  | .unix path =>
    if path.toList.contains '\x00' then .error .nulInSocketPath
    else if maxSocketPath < path.utf8ByteSize then .error .socketPathTooLong
    else do
      match ← world.find path with
      | .socket replies => return .delivering [replies]
      | _ => throw .connectionRefused

/-- What the services were sent, message by message. -/
def requests (world : World) : List (List UInt8) :=
  world.connections.flatMap fun connection => messages connection.sent

instance : Host (StateM World) where
  readFile path := return (← get).readFile path
  fetch _ := return .error (.other "there is no web")
  makeDirectories path := do
    let (world, outcome) := (← get).makeAll (Path.ancestors path)
    set world
    return outcome
  writeFile path content := do
    match (← get).writeFile path content with
    | .error error => return .error error
    | .ok world => do
      set world
      return .ok ()
  connect address := return (← get).connect address
  disconnect connection :=
    modify fun world => { world with connections := world.connections ++ [connection] }
  print content := modify fun world => { world with output := world.output ++ content }
  record event := modify fun world => { world with events := world.events ++ [event] }

end World

end Varlink
