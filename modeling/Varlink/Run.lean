import Varlink.CommandLine
import Varlink.Run.Definition

/-!
# A run

The definitions of the input are turned into clients one after the other. A client is written to a file
named after its interface, or printed if no directory is given. An interface that fails is told about
and skipped, and the others are not affected; only the outcome of the run tells how many failed.

An interface whose names cannot be written in the chosen language ends the run at once, with everything
that was done before it left in place.
-/

namespace Varlink

/-- What became of one definition. -/
inductive Emission where
  | emitted
  | failed (error : RunError)
  /-- Its names cannot be written in the chosen language. -/
  | unnameable

/-- How a run ended. -/
inductive RunOutcome where
  | succeeded
  | failed (error : RunError)
  /-- At an interface whose names cannot be written in the chosen language. -/
  | unnameable

namespace Run

/-- The path of a name seen from a directory. A name that is a path from the root stands for itself. -/
def joinPath (directory name : String) : String :=
  if name.startsWith "/" then name
  else if directory.isEmpty || directory.endsWith "/" then directory ++ name
  else directory ++ "/" ++ name

/-- The file for a client of the interface with that name. -/
def outputPath (generator : Generator) (directory interface : String) : String :=
  joinPath directory (interface ++ "." ++ generator.extension)

variable {m : Type → Type} [Monad m] [Host m]

/-- Writes a client to its file. -/
def writeClient (directory path code : String) : m Emission := do
  match ← Host.makeDirectories directory with
  | .error cause => return .failed (.cannotWrite path cause)
  | .ok () =>
    match ← Host.writeFile path code with
    | .error cause => return .failed (.cannotWrite path cause)
    | .ok () => do
      Host.record (.written path)
      return .emitted

/-- Turns a definition into a client. -/
def emit (generator : Generator) (outputDir : Option String) (definition : Definition) :
    m Emission := do
  match definition.text with
  | .error error => return .failed error
  | .ok text =>
    match (Interface.parse text).outcome with
    | .error error => return .failed (.invalidDefinition definition.origin error)
    | .ok interface =>
      match generator.generate interface with
      | none => return .unnameable
      | some code =>
        match outputDir with
        | none => do
          Host.print code
          return .emitted
        | some directory =>
          writeClient directory (outputPath generator directory interface.name) code

/-- Turns definitions into clients and counts those that failed, unless the run ends early. -/
def emitAll (generator : Generator) (outputDir : Option String) : List Definition → m (Option Nat)
  | [] => return some 0
  | definition :: rest => do
    match ← emit generator outputDir definition with
    | .emitted => emitAll generator outputDir rest
    | .failed error => do
      Host.record (.skippedInterface definition.origin error.report)
      let failed ← emitAll generator outputDir rest
      return failed.map (· + 1)
    | .unnameable => return none

/-- Does what the command line asks for. -/
def run (commandLine : CommandLine) : m RunOutcome := do
  match ← Definition.load (.parse commandLine.input) with
  | .error error => return .failed error
  | .ok definitions => do
    match ← emitAll commandLine.chosenGenerator commandLine.outputDir definitions with
    | none => return .unnameable
    | some 0 => return .succeeded
    | some failed => return .failed (.incomplete failed definitions.length)

end Run

end Varlink
