/-!
# Bytes of JSON texts

JSON texts are read and written as bytes: messages are, and text inside strings may turn out not to
be UTF-8 at all, in which case the first byte that is not can be found. The bytes with a meaning have
names here.
-/

namespace Varlink

/-- The UTF-8 bytes of a text. -/
def utf8Bytes (text : String) : List UInt8 := text.toUTF8.data.toList

/-- The text with the given UTF-8 bytes, if they are UTF-8. -/
def utf8Text? (bytes : List UInt8) : Option String :=
  String.fromUTF8? ⟨bytes.toArray⟩

/-- The bytes that continue a character beyond ASCII. -/
def isContinuation (byte : UInt8) : Bool := 0x80 ≤ byte && byte ≤ 0xBF

/-- The least and the greatest byte that may follow the first byte of a character, and how many more
continue it. The bounds keep out longer forms than needed, surrogates and what lies beyond the last
code point. -/
def continuation? (first : UInt8) : Option (UInt8 × UInt8 × Nat) :=
  if 0xC2 ≤ first && first ≤ 0xDF then some (0x80, 0xBF, 0)
  else if first = 0xE0 then some (0xA0, 0xBF, 1)
  else if first = 0xED then some (0x80, 0x9F, 1)
  else if 0xE1 ≤ first && first ≤ 0xEF then some (0x80, 0xBF, 1)
  else if first = 0xF0 then some (0x90, 0xBF, 2)
  else if 0xF1 ≤ first && first ≤ 0xF3 then some (0x80, 0xBF, 2)
  else if first = 0xF4 then some (0x80, 0x8F, 2)
  else none

/-- The number of bytes that continue the character which a first byte begins, given the bytes that
follow it, if they do form a character. -/
def continuationLength? (first : UInt8) (rest : List UInt8) : Option Nat :=
  if first < 0x80 then some 0
  else
    match continuation? first, rest with
    | some (least, greatest, more), second :: rest =>
      if least ≤ second && second ≤ greatest && (rest.take more).length = more
          && (rest.take more).all isContinuation then some (more + 1)
      else none
    | _, _ => none

/-- The bytes from the first one on that belongs to no character, where `skip` bytes more belong to
the character before. -/
def fromInvalid (skip : Nat) : List UInt8 → List UInt8
  | [] => []
  | byte :: rest =>
    match skip with
    | skip + 1 => fromInvalid skip rest
    | 0 =>
      match continuationLength? byte rest with
      | some length => fromInvalid length rest
      | none => byte :: rest

namespace Json

abbrev quote : UInt8 := 0x22
abbrev plus : UInt8 := 0x2B
abbrev comma : UInt8 := 0x2C
abbrev minus : UInt8 := 0x2D
abbrev point : UInt8 := 0x2E
abbrev slash : UInt8 := 0x2F
abbrev zero : UInt8 := 0x30
abbrev colon : UInt8 := 0x3A
abbrev upperE : UInt8 := 0x45
abbrev openBracket : UInt8 := 0x5B
abbrev backslash : UInt8 := 0x5C
abbrev closeBracket : UInt8 := 0x5D
abbrev lowerB : UInt8 := 0x62
abbrev lowerE : UInt8 := 0x65
abbrev lowerF : UInt8 := 0x66
abbrev lowerN : UInt8 := 0x6E
abbrev lowerR : UInt8 := 0x72
abbrev lowerT : UInt8 := 0x74
abbrev lowerU : UInt8 := 0x75
abbrev openBrace : UInt8 := 0x7B
abbrev closeBrace : UInt8 := 0x7D

/-- The blanks between the parts of a text. -/
def isSpace (byte : UInt8) : Bool :=
  byte = 0x20 || byte = 0x0A || byte = 0x09 || byte = 0x0D

/-- Decimal digits. -/
def isDigit (byte : UInt8) : Bool := 0x30 ≤ byte && byte ≤ 0x39

/-- The value of a decimal digit. -/
def digitValue (byte : UInt8) : Nat := byte.toNat - 0x30

/-- The value of a hexadecimal digit in either case. -/
def hexValue? (byte : UInt8) : Option Nat :=
  if isDigit byte then some (byte.toNat - 0x30)
  else if 0x41 ≤ byte && byte ≤ 0x46 then some (byte.toNat - 0x41 + 10)
  else if 0x61 ≤ byte && byte ≤ 0x66 then some (byte.toNat - 0x61 + 10)
  else none

/-- The text after its leading blanks. -/
def skipSpace (input : List UInt8) : List UInt8 := input.dropWhile isSpace

theorem skipSpace_length (input : List UInt8) : (skipSpace input).length ≤ input.length :=
  (List.dropWhile_suffix isSpace).length_le

end Json

end Varlink
