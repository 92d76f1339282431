/-!
# Binary floating point

A finite number with a sign, a mantissa of at most 53 bits and an exponent of two, held exactly. The
operations take the exact result as a ratio of natural numbers and round it once, to the nearest
number of the format and in a tie to the one with an even mantissa. There is no infinity: a result
beyond the largest number is no result.
-/

namespace Varlink

/-- The number `mantissa * 2 ^ exponent`, negated if `negative`. -/
structure Binary64 where
  negative : Bool
  mantissa : Nat
  exponent : Int
  deriving DecidableEq, Repr

/-- The quotient rounded to the nearest natural number, a half to the even one. -/
def roundDiv (num den : Nat) : Nat :=
  let quotient := num / den
  let twice := 2 * (num % den)
  if den < twice || (twice = den && quotient % 2 = 1) then quotient + 1 else quotient

namespace Binary64

/-- A power of two; the exponents of scales are integers, and a negative one counts as zero. -/
def scale (exponent : Int) : Nat := Nat.pow 2 exponent.toNat

/-- The number of bits of a mantissa. -/
def precision : Nat := 53

/-- The least exponent of a number. -/
def minExponent : Int := -1074

/-- The greatest exponent of a number. -/
def maxExponent : Int := 971

/-- Zero with a sign. -/
def zero (negative : Bool) : Binary64 := ⟨negative, 0, minExponent⟩

/-- The greatest `e` with `2 ^ e ≤ num / den`, for positive numbers. -/
def floorLog2 (num den : Nat) : Int :=
  let guess : Int := num.log2 - den.log2
  if den * scale guess ≤ num * scale (-guess) then guess else guess - 1

/-- The number nearest to `num / den`, unless it is too large. -/
def ofRatio (negative : Bool) (num den : Nat) : Option Binary64 :=
  if num = 0 then some (zero negative)
  else
    let exponent := max (floorLog2 num den - (precision - 1)) minExponent
    let mantissa := roundDiv (num * scale (-exponent)) (den * scale exponent)
    let (mantissa, exponent) :=
      if mantissa = scale precision then (scale (precision - 1), exponent + 1)
      else (mantissa, exponent)
    if exponent ≤ maxExponent then some ⟨negative, mantissa, exponent⟩ else none

/-- The magnitude as a ratio. -/
def ratio (x : Binary64) : Nat × Nat :=
  (x.mantissa * scale x.exponent, scale (-x.exponent))

/-- The number with the opposite sign. -/
def negate (x : Binary64) : Binary64 := { x with negative := !x.negative }

/-- The rounded product. -/
def multiply (x y : Binary64) : Option Binary64 :=
  ofRatio (x.negative != y.negative) (x.ratio.1 * y.ratio.1) (x.ratio.2 * y.ratio.2)

/-- The rounded quotient by a number other than zero. -/
def divide (x y : Binary64) : Option Binary64 :=
  ofRatio (x.negative != y.negative) (x.ratio.1 * y.ratio.2) (x.ratio.2 * y.ratio.1)

/-- The number nearest to a natural number. -/
def ofNat (n : Nat) : Option Binary64 := ofRatio false n 1

end Binary64

end Varlink
