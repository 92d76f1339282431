/-!
# Errors of the system

What the world outside answers when a file cannot be read or written or a connection cannot be made.
The program only passes these errors on, so all there is to know about one is its text.
-/

namespace Varlink

/-- An error of the system. -/
inductive SystemError where
  | notFound
  | noDevice
  | alreadyExists
  | notDirectory
  | isDirectory
  | brokenPipe
  | nameTooLong
  | connectionRefused
  /-- A path with a NUL, which no system call takes. -/
  | nulInPath
  | nulInSocketPath
  | socketPathTooLong
  /-- A file whose bytes are no text. -/
  | notUtf8
  /-- Any other error, with its text. -/
  | other (text : String)
  deriving DecidableEq, Repr

namespace SystemError

/-- An error with the number the system knows it by. -/
def numbered (text : String) (number : Nat) : String :=
  text ++ " (os error " ++ toString number ++ ")"

/-- The error as it is shown. -/
def message : SystemError → String
  | notFound => numbered "No such file or directory" 2
  | noDevice => numbered "No such device or address" 6
  | alreadyExists => numbered "File exists" 17
  | notDirectory => numbered "Not a directory" 20
  | isDirectory => numbered "Is a directory" 21
  | brokenPipe => numbered "Broken pipe" 32
  | nameTooLong => numbered "File name too long" 36
  | connectionRefused => numbered "Connection refused" 111
  | nulInPath => "file name contained an unexpected NUL byte"
  | nulInSocketPath => "paths must not contain interior null bytes"
  | socketPathTooLong => "path must be shorter than SUN_LEN"
  | notUtf8 => "stream did not contain valid UTF-8"
  | other text => text

end SystemError

end Varlink
