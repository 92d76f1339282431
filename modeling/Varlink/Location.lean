import Varlink.Token

/-!
# Lines and columns

A location is a line and a column, both counted from one; columns count characters, not bytes. A
carriage return directly before a line feed belongs to that line end and takes no column. The
location of an offset depends only on the text before it, so a carriage return that ends this text
is a line end of its own.
-/

namespace Varlink

/-- A position in a source text as a person would name it. -/
structure Location where
  line : Nat
  column : Nat
  deriving DecidableEq, Repr

namespace Location

/-- Where a text begins. -/
def start : Location := ⟨1, 1⟩

/-- The beginning of the next line. -/
def nextLine (location : Location) : Location := ⟨location.line + 1, 1⟩

/-- The next column of the same line. -/
def nextColumn (location : Location) : Location := ⟨location.line, location.column + 1⟩

/-- The location reached by reading a text. -/
def advance (location : Location) : List Char → Location
  | [] => location
  | '\r' :: '\n' :: rest => advance location.nextLine rest
  | c :: rest =>
    if isLineEnd c then advance location.nextLine rest else advance location.nextColumn rest

/-- The characters that fit into the first `size` bytes of a text. -/
def charsWithin (size : Nat) : List Char → List Char
  | [] => []
  | c :: rest => if c.utf8Size ≤ size then c :: charsWithin (size - c.utf8Size) rest else []

/-- The location of a byte offset; offsets past the end stand for the end. -/
def ofOffset (source : String) (offset : Nat) : Location :=
  start.advance (charsWithin offset source.toList)

/-- Whether a byte offset lies between two characters of a text, or past its end. -/
def isBoundary (offset : Nat) : List Char → Bool
  | [] => true
  | c :: rest => offset = 0 || c.utf8Size ≤ offset && isBoundary (offset - c.utf8Size) rest

/-- The location as messages write it. -/
def text (location : Location) : String :=
  s!"{location.line}:{location.column}"

end Location

end Varlink
