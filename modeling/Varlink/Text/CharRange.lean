/-!
# Ranges of code points

A property of characters is given by the characters that have it. Beyond ASCII these are listed
as ranges: plain ones by their two ends, and ranges that take every second character, as the
letters of many cased scripts do, with a stride as well. A property decided by such a table holds
of a character exactly when one of the ranges does.
-/

namespace Varlink.Text

/-- Every `stride`-th code point from `first` to `last`, both included. -/
structure CharRange where
  first : Nat
  last : Nat
  stride : Nat
  deriving Repr

namespace CharRange

/-- Membership of a code point in a range. -/
def contains (range : CharRange) (code : Nat) : Bool :=
  range.first ≤ code && code ≤ range.last && (code - range.first) % range.stride == 0

end CharRange

/-- Whether a character lies in one of the ranges, each given by its inclusive ends. -/
def inRanges (ranges : List (Nat × Nat)) (c : Char) : Bool :=
  ranges.any fun range => range.1 ≤ c.toNat && c.toNat ≤ range.2

/-- Whether a character lies in one of the strided ranges. -/
def inStrides (ranges : List CharRange) (c : Char) : Bool :=
  ranges.any fun range => range.contains c.toNat

/-- The characters below U+0080, for which the tables hold nothing. -/
def isAscii (c : Char) : Bool :=
  c.toNat < 0x80

end Varlink.Text
