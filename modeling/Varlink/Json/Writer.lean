import Varlink.Json
import Varlink.Json.Bytes
import Varlink.Binary64.Shortest

/-!
# Writing JSON

Values are written without blanks. In strings only quotes, backslashes and the control characters
below U+0020 are escaped, so no byte of a written value is zero. Doubles are written with the fewest
digits that read back.
-/

namespace Varlink

namespace Json

/-- Doubles are positional from 1e-5 up to, but not including, 1e16. -/
def doubleFormat : Decimal.Format := ⟨-5, 15, 'e'⟩

/-- The text of a double. -/
def printDouble (x : Binary64) : String :=
  String.ofList ((if x.negative then ['-'] else []) ++
    (if x.mantissa = 0 then ['0', '.', '0'] else x.shortest.trim.print doubleFormat))

/-- The text of a number. -/
def printNumber : JsonNumber → String
  | .integer value => toString value
  | .double value => printDouble value

/-- A hexadecimal digit as it is written in escapes. -/
def hexDigit (value : Nat) : UInt8 :=
  if value < 10 then UInt8.ofNat (0x30 + value) else UInt8.ofNat (0x61 + (value - 10))

/-- A byte of a string as it is written between quotes. -/
def escapeByte (byte : UInt8) : List UInt8 :=
  if byte = quote then [backslash, quote]
  else if byte = backslash then [backslash, backslash]
  else if byte = 0x08 then [backslash, lowerB]
  else if byte = 0x09 then [backslash, lowerT]
  else if byte = 0x0A then [backslash, lowerN]
  else if byte = 0x0C then [backslash, lowerF]
  else if byte = 0x0D then [backslash, lowerR]
  else if byte < 0x20 then
    [backslash, lowerU, zero, zero, hexDigit (byte.toNat / 16), hexDigit (byte.toNat % 16)]
  else [byte]

/-- A string between quotes. -/
def encodeString (text : String) : List UInt8 :=
  quote :: ((utf8Bytes text).flatMap escapeByte ++ [quote])

mutual

/-- The bytes of a value. -/
def encode : Json → List UInt8
  | .null => utf8Bytes "null"
  | .bool true => utf8Bytes "true"
  | .bool false => utf8Bytes "false"
  | .number value => utf8Bytes (printNumber value)
  | .string value => encodeString value
  | .array items => openBracket :: ([comma].intercalate (encodeItems items) ++ [closeBracket])
  | .object members => openBrace :: ([comma].intercalate (encodeMembers members) ++ [closeBrace])

/-- The bytes of each value of a list. -/
def encodeItems : List Json → List (List UInt8)
  | [] => []
  | item :: rest => encode item :: encodeItems rest

/-- The bytes of each member of an object. -/
def encodeMembers : List (String × Json) → List (List UInt8)
  | [] => []
  | (key, value) :: rest => (encodeString key ++ colon :: encode value) :: encodeMembers rest

end

end Json

end Varlink
