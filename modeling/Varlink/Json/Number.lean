import Varlink.Found
import Varlink.Json.Error

/-!
# Reading JSON numbers

A number is first read as a literal: digits, perhaps a fraction, perhaps an exponent. Its value is an
integer if neither of the latter is there and it fits into 64 bits. Otherwise it is a double, made
from the longest run of leading digits that fits into 64 unsigned bits and a power of ten, with one
rounding for each of the two and one for their product or quotient; a number too large for that is
out of range.
-/

namespace Varlink

namespace Json

/-- A reader of JSON. -/
abbrev Reading (α : Type) (input : List UInt8) : Type :=
  Except JsonPlacedFault (Found α input)

/-- A fault at the start of the input. -/
def failAt {α : Type} (fault : JsonFault) (input : List UInt8) : Except JsonPlacedFault α :=
  .error ⟨fault, input.length⟩

/-- A number as it is written, without its sign. -/
structure NumberLiteral where
  whole : List UInt8
  fraction : Option (List UInt8)
  exponent : Option (Bool × List UInt8)
  deriving Repr

theorem dropDigits_length (first : UInt8) (rest : List UInt8) :
    (rest.dropWhile isDigit).length < (first :: rest).length :=
  Nat.lt_succ_of_le (List.dropWhile_suffix isDigit).length_le

/-- The first byte and the digits that follow it. -/
def takeDigits (first : UInt8) (rest : List UInt8) : Found (List UInt8) (first :: rest) :=
  ⟨first :: rest.takeWhile isDigit, rest.dropWhile isDigit, dropDigits_length first rest⟩

/-- Reads the digits of a whole part: one zero, or digits that start with another one. `atEnd` is
the fault for an input that ends here. -/
def readWhole (atEnd : JsonFault) (input : List UInt8) : Reading (List UInt8) input :=
  match input with
  | [] => failAt atEnd []
  | byte :: rest =>
    if byte = zero then
      match rest with
      | next :: after =>
        if isDigit next then failAt .invalidNumber after
        else pure (.head [byte])
      | [] => pure (.head [byte])
    else if isDigit byte then pure (takeDigits byte rest)
    else failAt .invalidNumber rest

/-- Reads an exponent after its mark, as whether it is negative and its digits. -/
def readExponent (atEnd : JsonFault) (input : List UInt8) :
    Reading (Bool × List UInt8) input :=
  match input with
  | [] => failAt atEnd []
  | byte :: rest =>
    if byte = plus || byte = minus then
      match rest with
      | [] => failAt atEnd []
      | first :: after =>
        if isDigit first then
          pure ((takeDigits first after).map fun digits => (byte == minus, digits)).afterHead
        else failAt .invalidNumber after
    else if isDigit byte then pure ((takeDigits byte rest).map fun digits => (false, digits))
    else failAt .invalidNumber rest

/-- Reads what may follow the digits of a number: an exponent or nothing. -/
def readTail {start : List UInt8} (atEnd : JsonFault) (whole : List UInt8)
    (fraction : Option (List UInt8)) (input : List UInt8) (shorter : input.length < start.length) :
    Reading NumberLiteral start :=
  match input, shorter with
  | byte :: rest, shorter =>
    if byte = lowerE || byte = upperE then do
      let exponent ← readExponent atEnd rest
      pure ((exponent.map fun exponent => ⟨whole, fraction, some exponent⟩).afterHead.behind shorter)
    else pure ⟨⟨whole, fraction, none⟩, byte :: rest, shorter⟩
  | [], shorter => pure ⟨⟨whole, fraction, none⟩, [], shorter⟩

/-- Reads a number after its sign. -/
def readLiteral (atEnd : JsonFault) (input : List UInt8) : Reading NumberLiteral input := do
  let ⟨whole, rest, shorter⟩ ← readWhole atEnd input
  match rest, shorter with
  | byte :: after, shorter =>
    if byte = point then
      match after, shorter with
      | [], _ => failAt atEnd []
      | first :: more, shorter =>
        if isDigit first then
          match takeDigits first more with
          | ⟨digits, next, further⟩ =>
            readTail atEnd whole (some digits) next (length_lt_of_lt_cons further shorter)
        else failAt .invalidNumber more
    else readTail atEnd whole none (byte :: after) shorter
  | [], shorter => readTail atEnd whole none [] shorter

/-- The greatest number of 64 unsigned bits. -/
def maxSignificand : Nat := 0xFFFFFFFFFFFFFFFF

/-- The greatest magnitude of a negative integer. -/
def maxNegative : Nat := 0x8000000000000000

/-- Adds digits to a number while it fits into 64 unsigned bits, and tells how many were added. -/
def significand (value : Nat) : List UInt8 → Nat × Nat
  | [] => (value, 0)
  | digit :: rest =>
    let next := value * 10 + digitValue digit
    if next ≤ maxSignificand then
      let (result, count) := significand next rest
      (result, count + 1)
    else (value, 0)

theorem scaleDown_decreasing {exponent : Int} (h : exponent < -308) :
    (-(exponent + 308)).toNat < (-exponent).toNat := by omega

/-- Divides by the largest power of ten of the format until the exponent is within its range, as
long as something is left of the number. -/
def scaleDown (x : Binary64) (exponent : Int) : Option (Binary64 × Int) :=
  if h : exponent < -308 then
    if x.mantissa = 0 then some (x, 0)
    else do
      let scale ← Binary64.ofNat (Nat.pow 10 308)
      let smaller ← x.divide scale
      scaleDown smaller (exponent + 308)
  else some (x, exponent)
termination_by (-exponent).toNat
decreasing_by exact scaleDown_decreasing h

/-- The double nearest to `digits`, scaled by a power of ten. -/
def scaled (digits : Nat) (exponent : Int) : Option Binary64 := do
  let x ← Binary64.ofNat digits
  if 308 < exponent then
    if x.mantissa = 0 then return x else none
  else
    let (x, exponent) ← scaleDown x exponent
    let scale ← Binary64.ofNat (Nat.pow 10 exponent.natAbs)
    if 0 ≤ exponent then x.multiply scale else x.divide scale

/-- The value of a literal, or nothing if it is out of range. -/
def NumberLiteral.value? (negative : Bool) (literal : NumberLiteral) : Option JsonNumber :=
  let (whole, used) := significand 0 literal.whole
  let dropped := literal.whole.length - used
  match literal.fraction, literal.exponent, dropped with
  | none, none, 0 =>
    if negative then
      if whole = 0 || maxNegative < whole then
        (Binary64.ofNat whole).map fun x => .double x.negate
      else some (.integer (-whole))
    else some (.integer whole)
  | fraction, exponent, dropped =>
    let (digits, places) := significand whole (fraction.getD [])
    let written : Int := match exponent with
      | none => 0
      | some (negative, digits) =>
        let value : Int := digits.foldl (fun value digit => value * 10 + digitValue digit) 0
        if negative then -value else value
    (scaled digits (dropped - places + written)).map fun x =>
      .double (if negative then x.negate else x)

/-- The largest exponent that is read to its end. -/
def maxExponent : Nat := 0x7FFFFFFF

/-- The digits of an exponent that are left once its value is too large to go on. -/
def unreadDigits (value : Nat) : List UInt8 → List UInt8
  | [] => []
  | digit :: rest =>
    let next := value * 10 + digitValue digit
    if maxExponent < next then rest else unreadDigits next rest

/-- Reads a number after its sign. A number is out of range as soon as its exponent is, and otherwise
at its end. -/
def readNumber (negative : Bool) (input : List UInt8) : Reading JsonNumber input := do
  let literal ← readLiteral .endInValue input
  match literal.value.value? negative with
  | some value => pure ⟨value, literal.rest, literal.shorter⟩
  | none =>
    let unread := match literal.value.exponent with
      | some (false, digits) => unreadDigits 0 digits
      | _ => []
    failAt .numberOutOfRange (unread ++ literal.rest)

end Json

end Varlink
