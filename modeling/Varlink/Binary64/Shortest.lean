import Varlink.Binary64

/-!
# The shortest decimal that reads back

Among the decimals that round to a given number, the shortest one has the fewest digits, and is the
nearest of those. The numbers that round to it form an interval around it, whose ends belong to it
if the mantissa is even. A decimal with a given number of digits lies in this interval only if one
of the two such decimals next to the number does, so it is enough to try these two for one digit,
for two, and so on.
-/

namespace Varlink

/-- The decimal `digits * 10 ^ exponent`. -/
structure Decimal where
  digits : Nat
  exponent : Int
  deriving DecidableEq, Repr

namespace Binary64

/-- The number of decimal digits of a natural number; zero has one. -/
def digitCount (n : Nat) : Nat := (Nat.toDigits 10 n).length

/-- The greatest `e` with `10 ^ e ≤ num / den`, for positive numbers. -/
def floorLog10 (num den : Nat) : Int :=
  if den ≤ num then (digitCount (num / den) : Int) - 1
  else -(digitCount ((den - 1) / num) : Int)

/-- Whether `num / den` rounds to the magnitude of `x`. The ends of the interval are half-way to the
neighbours; below a power of two the neighbour is only half as far. -/
def roundsTo (x : Binary64) (num den : Nat) : Bool :=
  let quarter := fun steps : Nat =>
    (steps * scale (x.exponent - 2), scale (-(x.exponent - 2)))
  let below :=
    if x.mantissa = scale (precision - 1) && minExponent < x.exponent then 1 else 2
  let (lowNum, lowDen) := quarter (4 * x.mantissa - below)
  let (highNum, highDen) := quarter (4 * x.mantissa + 2)
  if x.mantissa % 2 = 0 then
    lowNum * den ≤ num * lowDen && num * highDen ≤ highNum * den
  else
    lowNum * den < num * lowDen && num * highDen < highNum * den

/-- The decimal with the given exponent that rounds to `x` and is the nearest to it, if one does. -/
def decimalAt? (x : Binary64) (exponent : Int) : Option Decimal :=
  let (num, den) := x.ratio
  let scale := Nat.pow 10 exponent.toNat
  let unscale := Nat.pow 10 (-exponent).toNat
  let low := num * unscale / (den * scale)
  let isNear := fun digits : Nat => x.roundsTo (digits * scale) unscale
  let nearest := roundDiv (num * unscale) (den * scale)
  let farther := if nearest = low then low + 1 else low
  if isNear nearest then some ⟨nearest, exponent⟩
  else if isNear farther then some ⟨farther, exponent⟩
  else none

/-- The shortest decimal that rounds to the magnitude of a number other than zero; 17 digits are
always enough. -/
def shortest (x : Binary64) : Decimal :=
  let leading := floorLog10 x.ratio.1 x.ratio.2
  match (List.range 17).findSome? fun count : Nat => x.decimalAt? (leading - count) with
  | some decimal => decimal
  | none => ⟨0, 0⟩

end Binary64

namespace Decimal

/-- The decimal without zeros at its end. -/
def trim (decimal : Decimal) : Decimal :=
  if h : decimal.digits ≠ 0 ∧ decimal.digits % 10 = 0 then
    have : decimal.digits / 10 < decimal.digits := by omega
    trim ⟨decimal.digits / 10, decimal.exponent + 1⟩
  else decimal
termination_by decimal.digits

/-- How decimals are written: positionally while the exponent of the leading digit is between two
bounds, else with the point after the leading digit and the exponent, with its sign, behind a
mark. -/
structure Format where
  leastPositional : Int
  greatestPositional : Int
  exponentMark : Char
  deriving Repr

/-- An exponent with its sign. -/
def printExponent (exponent : Int) : List Char :=
  (if exponent < 0 then '-' else '+') :: Nat.toDigits 10 exponent.natAbs

/-- The text of a decimal. Positional notation has at least one digit on each side of the point. -/
def print (format : Format) (decimal : Decimal) : List Char :=
  let digits := Nat.toDigits 10 decimal.digits
  let leading : Int := decimal.exponent + digits.length - 1
  if format.leastPositional ≤ leading && leading ≤ format.greatestPositional then
    if leading < 0 then
      ['0', '.'] ++ List.replicate (-leading - 1).toNat '0' ++ digits
    else
      let whole := leading.toNat + 1
      digits.take whole ++ List.replicate (whole - digits.length) '0' ++ ['.']
        ++ (if digits.length ≤ whole then ['0'] else digits.drop whole)
  else
    digits.take 1 ++ (if digits.length = 1 then [] else '.' :: digits.drop 1)
      ++ format.exponentMark :: printExponent leading

end Decimal

end Varlink
