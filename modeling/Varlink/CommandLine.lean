import Varlink.Client

/-!
# The command line

The program takes one input and two options. An option's value is the next argument, or is attached to
the option, with an equals sign after a long name and with or without one after a short one. Two dashes
by themselves end the options, and a single dash is an ordinary argument.

A value in the next argument is looked at only when something else that makes sense follows, or when
the arguments end. An argument that makes no sense is therefore reported before a missing or wrong
value ahead of it.
-/

namespace Varlink

/-- The options with values. -/
inductive ValueOption where
  | generator
  | outputDir
  deriving DecidableEq, Repr

/-- The long name of an option. -/
def ValueOption.longName : ValueOption → String
  | generator => "generator"
  | outputDir => "output-dir"

/-- Why the program does not start its work. -/
inductive CommandLineError where
  | missingInput
  | unknownArgument (argument : String)
  /-- The value of an option is missing, empty or not one of the possible ones. -/
  | invalidValue (option : ValueOption)
  /-- A value is attached to something that takes none. -/
  | unneededValue (argument : String)
  | repeatedOption (option : ValueOption)
  | helpRequested
  | versionRequested
  deriving DecidableEq, Repr

namespace CommandLineError

/-- The exit status of the program. Asking for help is no failure. -/
def exitStatus : CommandLineError → Nat
  | helpRequested | versionRequested => 0
  | _ => 2

/-- The error as it is shown. -/
def message : CommandLineError → String
  | missingInput => "the input is missing"
  | unknownArgument argument => "unexpected argument '" ++ argument ++ "'"
  | invalidValue option => "invalid value for '--" ++ option.longName ++ "'"
  | unneededValue argument => "'" ++ argument ++ "' takes no value"
  | repeatedOption option => "'--" ++ option.longName ++ "' is given more than once"
  | helpRequested =>
    "Usage: varlink-generator [-g rust|typescript] [-o OUTPUT_DIR] INPUT"
  | versionRequested => generatorSignature

end CommandLineError

/-- What the command line asks for. -/
structure CommandLine where
  input : String
  generator : Option Generator
  outputDir : Option String
  deriving DecidableEq, Repr

namespace CommandLine

/-- The arguments read so far. -/
structure Progress where
  input : Option String
  generator : Option Generator
  outputDir : Option String
  /-- An option that has not been looked at, with its value if that has been read. -/
  pending : Option (ValueOption × Option String)
  deriving DecidableEq, Repr

namespace Progress

/-- Before the first argument. -/
def start : Progress := ⟨none, none, none, none⟩

/-- Takes the value of an option. An option that occurred before is reported ahead of a value that is
not possible. -/
def assign (progress : Progress) (option : ValueOption) (value : String) :
    Except CommandLineError Progress :=
  match option with
  | .generator =>
    if progress.generator.isSome then .error (.repeatedOption option)
    else
      match Generator.ofName? value with
      | some generator => .ok { progress with generator := some generator }
      | none => .error (.invalidValue option)
  | .outputDir =>
    if progress.outputDir.isSome then .error (.repeatedOption option)
    else if value.isEmpty then .error (.invalidValue option)
    else .ok { progress with outputDir := some value }

/-- Looks at the pending option. -/
def settle (progress : Progress) : Except CommandLineError Progress :=
  match progress.pending with
  | none => .ok progress
  | some (option, none) => .error (.invalidValue option)
  | some (option, some value) => { progress with pending := none }.assign option value

/-- Reads an option with the value attached to it, if there is one. -/
def readOption (progress : Progress) (option : ValueOption) (attached : Option String) :
    Except CommandLineError Progress := do
  let progress ← progress.settle
  match attached with
  | some value => progress.assign option value
  | none => return { progress with pending := some (option, none) }

/-- Reads an argument that ends the program with something other than its work. -/
def readRequest (progress : Progress) (request : CommandLineError) :
    Except CommandLineError Progress := do
  let _ ← progress.settle
  throw request

/-- Reads an argument that is no option. -/
def readInput (progress : Progress) (argument : String) : Except CommandLineError Progress :=
  match progress.input with
  | some _ => .error (.unknownArgument argument)
  | none => do
    let progress ← progress.settle
    return { progress with input := some argument }

/-- Reads an argument that follows an option whose value is still to come, or no option. -/
def readPlain (progress : Progress) (argument : String) : Except CommandLineError Progress :=
  match progress.pending with
  | some (option, none) => .ok { progress with pending := some (option, some argument) }
  | _ => progress.readInput argument

/-- Reads an option by its long name. -/
def readLong (progress : Progress) (argument name : String) (attached : Option String) :
    Except CommandLineError Progress :=
  match name with
  | "generator" => progress.readOption .generator attached
  | "output-dir" => progress.readOption .outputDir attached
  | "help" =>
    if attached.isSome then .error (.unneededValue argument) else progress.readRequest .helpRequested
  | "version" =>
    if attached.isSome then .error (.unneededValue argument)
    else progress.readRequest .versionRequested
  | _ => .error (.unknownArgument argument)

/-- Reads an option by its letter, with what follows it in the same argument. -/
def readShort (progress : Progress) (argument : String) (letter : Char) (rest : List Char) :
    Except CommandLineError Progress :=
  let attached := match rest with
    | [] => none
    | '=' :: value => some (String.ofList value)
    | value => some (String.ofList value)
  match letter with
  | 'g' => progress.readOption .generator attached
  | 'o' => progress.readOption .outputDir attached
  | 'h' => progress.readRequest .helpRequested
  | 'V' => progress.readRequest .versionRequested
  | _ => .error (.unknownArgument argument)

/-- Reads an argument that may be an option. -/
def readArgument (progress : Progress) (argument : String) : Except CommandLineError Progress :=
  match argument.toList with
  | '-' :: '-' :: rest =>
    let attached := match rest.dropWhile (· ≠ '=') with
      | [] => none
      | _ :: value => some (String.ofList value)
    progress.readLong argument (String.ofList (rest.takeWhile (· ≠ '='))) attached
  | '-' :: letter :: rest => progress.readShort argument letter rest
  | _ => progress.readPlain argument

/-- Reads arguments that are no options. -/
def readInputs (progress : Progress) : List String → Except CommandLineError Progress
  | [] => .ok progress
  | argument :: rest => do
    let progress ← progress.readInput argument
    progress.readInputs rest

/-- Reads arguments. -/
def readArguments (progress : Progress) : List String → Except CommandLineError Progress
  | [] => .ok progress
  | "--" :: rest => progress.readInputs rest
  | argument :: rest => do
    let progress ← progress.readArgument argument
    progress.readArguments rest

/-- The command line when the arguments end. -/
def finish (progress : Progress) : Except CommandLineError CommandLine := do
  let progress ← progress.settle
  match progress.input with
  | some input => return ⟨input, progress.generator, progress.outputDir⟩
  | none => throw .missingInput

end Progress

/-- What the arguments ask for. -/
def parse (arguments : List String) : Except CommandLineError CommandLine := do
  let progress ← Progress.start.readArguments arguments
  progress.finish

/-- The generator to use. -/
def chosenGenerator (commandLine : CommandLine) : Generator :=
  commandLine.generator.getD .standard

end CommandLine

end Varlink
