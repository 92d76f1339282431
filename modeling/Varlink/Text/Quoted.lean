import Varlink.Text.Printable

/-!
# Quoted text

A quoted text stands between double quotes. Quotes and backslashes are escaped, and so is every
character that cannot be shown by itself: controls and other unprintable characters, and the marks
that would attach to the quote or character before them. A single quote is left as it is.
-/

namespace Varlink.Text

/-- The digits of a code point in lowercase hexadecimal, without padding. -/
def hexDigits (code : Nat) : List Char :=
  Nat.toDigits 16 code

/-- A character as it is written between quotes. -/
def escape (c : Char) : List Char :=
  match c with
  | '\x00' => ['\\', '0']
  | '\t' => ['\\', 't']
  | '\r' => ['\\', 'r']
  | '\n' => ['\\', 'n']
  | '"' => ['\\', '"']
  | '\\' => ['\\', '\\']
  | c =>
    if isGraphemeExtend c || !isPrintable c then
      ['\\', 'u', '\x7b'] ++ hexDigits c.toNat ++ ['\x7d']
    else [c]

/-- The text between double quotes. -/
def quoted (text : String) : String :=
  String.ofList ('"' :: text.toList.flatMap escape ++ ['"'])

/-- The inner part of a string literal: as between quotes, but a NUL before an octal digit is
written out so that the digit cannot be read as part of the escape. -/
def escapeLiteral : List Char → List Char
  | [] => []
  | c :: rest =>
    let octalNext := match rest with
      | next :: _ => '0' ≤ next && next ≤ '7'
      | [] => false
    (if c = '\x00' && octalNext then ['\\', 'x', '0', '0'] else escape c) ++ escapeLiteral rest

/-- The text as a string literal. -/
def stringLiteral (text : String) : String :=
  String.ofList ('"' :: escapeLiteral text.toList ++ ['"'])

end Varlink.Text
