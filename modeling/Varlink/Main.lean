import Varlink.Run

/-!
# The program

The outer layer: a run in the real world, where files are files and events are lines on standard
error. Web addresses and services are out of reach here, so an input of that kind fails as one that
cannot be connected to.
-/

namespace Varlink

namespace Program

/-- The error of the system behind a failed operation. -/
def systemError : IO.Error → SystemError
  | .noFileOrDirectory .. => .notFound
  | .alreadyExists .. => .alreadyExists
  | other => .other (toString other)

/-- Does something that may fail. -/
def attempt {α : Type} (action : IO α) : IO (Except SystemError α) := do
  match ← action.toBaseIO with
  | .ok value => return .ok value
  | .error error => return .error (systemError error)

/-- The text of a file. -/
def readText (path : String) : IO (Except SystemError String) := do
  match ← attempt (IO.FS.readBinFile path) with
  | .error error => return .error error
  | .ok bytes =>
    match String.fromUTF8? bytes with
    | some text => return .ok text
    | none => return .error .notUtf8

/-- An event as a line. -/
def eventLine (event : Event) : String :=
  " ".intercalate
    (event.level.text :: event.message :: event.fields.map fun (name, value) => name ++ "=" ++ value)

instance : Host IO where
  readFile := readText
  fetch _ := return .error (.other "no connection to the web")
  makeDirectories path := attempt (IO.FS.createDirAll path)
  writeFile path content := attempt (IO.FS.writeFile path content)
  connect _ := return .error .connectionRefused
  disconnect _ := return ()
  print content := IO.print content
  record event := IO.eprintln (eventLine event)

/-- Runs the program and gives its exit status. -/
def main (arguments : List String) : IO UInt32 := do
  match CommandLine.parse arguments with
  | .error error => do
    if error.exitStatus = 0 then IO.println error.message
    else IO.eprintln ("error: " ++ error.message)
    return error.exitStatus.toUInt32
  | .ok commandLine =>
    match ← Run.run commandLine with
    | .succeeded => return 0
    | .failed error => do
      IO.eprintln (Level.error.text ++ " " ++ error.report)
      return 1
    | .unnameable => do
      IO.eprintln (Level.error.text ++ " a name of the interface cannot be written")
      return 101

end Program

end Varlink

/-- The entry point. -/
def main (arguments : List String) : IO UInt32 := Varlink.Program.main arguments
