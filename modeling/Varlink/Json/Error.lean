import Varlink.Json.Writer
import Varlink.Text.Quoted

/-!
# Errors of JSON

Reading a text fails because it ends early or because it is malformed. Making something of a value
fails because the value is not of the right form, and writing something as a text fails because it
has no form as JSON or refuses to be written. Errors of the text have a place, a line and a column
counted in bytes; the others have none.
-/

namespace Varlink

/-- The broad reason of a failure. -/
inductive JsonCategory where
  /-- The text ended early. -/
  | endOfText
  /-- The text is malformed. -/
  | malformed
  /-- The value is not what was asked for. -/
  | mismatch
  deriving DecidableEq, Repr

/-- A value of another form than the expected one. -/
inductive JsonMismatch where
  | missingField (name : String)
  | duplicateField (name : String)
  /-- `found` describes what was found. -/
  | invalidType (found expected : String)
  | invalidLength (length : Nat) (expected : String)
  deriving DecidableEq, Repr

/-- The mismatch as it is shown. -/
def JsonMismatch.message : JsonMismatch → String
  | missingField name => "missing field `" ++ name ++ "`"
  | duplicateField name => "duplicate field `" ++ name ++ "`"
  | invalidType found expected => "invalid type: " ++ found ++ ", expected " ++ expected
  | invalidLength length expected =>
    "invalid length " ++ toString length ++ ", expected " ++ expected

/-- Why a text is not the JSON asked for, or why there is no text. -/
inductive JsonFault where
  | endInList
  | endInObject
  | endInString
  | endInValue
  | expectedColon
  | expectedCommaOrBracket
  | expectedCommaOrBrace
  | expectedIdentifier
  | expectedValue
  | invalidEscape
  | invalidNumber
  | numberOutOfRange
  | invalidUnicode
  | controlCharacter
  | keyMustBeString
  | loneSurrogate
  | trailingComma
  | trailingCharacters
  | unexpectedEndOfEscape
  | nestingTooDeep
  | mismatch (reason : JsonMismatch)
  /-- What something that refuses to be written says about it. -/
  | refused (reason : String)
  deriving DecidableEq, Repr

namespace JsonFault

/-- The broad reason of a fault. -/
def category : JsonFault → JsonCategory
  | endInList | endInObject | endInString | endInValue => .endOfText
  | mismatch _ | refused _ => .mismatch
  | _ => .malformed

/-- The fault as it is shown. -/
def message : JsonFault → String
  | endInList => "EOF while parsing a list"
  | endInObject => "EOF while parsing an object"
  | endInString => "EOF while parsing a string"
  | endInValue => "EOF while parsing a value"
  | expectedColon => "expected `:`"
  | expectedCommaOrBracket => "expected `,` or `]`"
  | expectedCommaOrBrace => "expected `,` or `\x7d`"
  | expectedIdentifier => "expected ident"
  | expectedValue => "expected value"
  | invalidEscape => "invalid escape"
  | invalidNumber => "invalid number"
  | numberOutOfRange => "number out of range"
  | invalidUnicode => "invalid unicode code point"
  | controlCharacter =>
    "control character (\\u0000-\\u001F) found while parsing a string"
  | keyMustBeString => "key must be a string"
  | loneSurrogate => "lone leading surrogate in hex escape"
  | trailingComma => "trailing comma"
  | trailingCharacters => "trailing characters"
  | unexpectedEndOfEscape => "unexpected end of hex escape"
  | nestingTooDeep => "recursion limit exceeded"
  | mismatch reason => reason.message
  | refused reason => reason

end JsonFault

/-- A fault with the number of bytes between its place and the end of the text. -/
structure JsonPlacedFault where
  fault : JsonFault
  left : Nat
  deriving DecidableEq, Repr

/-- A fault, with its place if it has one. -/
structure JsonError where
  fault : JsonFault
  place : Option (Nat × Nat)
  deriving DecidableEq, Repr

namespace JsonError

/-- The line and column of the end of a text, counted in bytes; lines count from one. -/
def placeAfter (text : List UInt8) : Nat × Nat :=
  text.foldl (fun (place : Nat × Nat) (byte : UInt8) =>
    if byte = 0x0A then (place.1 + 1, 0) else (place.1, place.2 + 1)) (1, 0)

/-- The error of a fault in a text. -/
def ofPlaced (text : List UInt8) (fault : JsonPlacedFault) : JsonError :=
  ⟨fault.fault, some (placeAfter (text.take (text.length - fault.left)))⟩

/-- The error of a value that does not fit. -/
def ofMismatch (mismatch : JsonMismatch) : JsonError := ⟨.mismatch mismatch, none⟩

/-- The error as it is shown. -/
def message (error : JsonError) : String :=
  match error.place with
  | none => error.fault.message
  | some (line, column) =>
    error.fault.message ++ " at line " ++ toString line ++ " column " ++ toString column

end JsonError

/-- A value as mismatches describe it. -/
def Json.describe : Json → String
  | .null => "null"
  | .bool value => "boolean `" ++ toString value ++ "`"
  | .number (.integer value) => "integer `" ++ toString value ++ "`"
  | .number (.double value) => "floating point `" ++ Json.printDouble value ++ "`"
  | .string value => "string " ++ Text.quoted value
  | .array _ => "sequence"
  | .object _ => "map"

end Varlink
