/-!
# Binary floating-point numbers of 64 bits

A finite number is kept as a sign, a whole significand below 2^53 and a power of two, so that every
operation is exact arithmetic on natural numbers followed by one rounding to nearest, ties to even.
A result too large to be finite is `none`.
-/

namespace MemorySentry

/-- The finite number `±significand · 2^exponent`. -/
structure Binary64 where
  /-- Whether the sign is minus. -/
  negative : Bool
  /-- The digits; at least 2^52 unless the exponent is the least one. -/
  significand : Nat
  /-- The power of two of the last digit. -/
  exponent : Int
deriving DecidableEq

namespace Binary64

/-- The least power of two of a last digit. -/
def minExponent : Int := -1074

/-- The greatest power of two of a last digit. -/
def maxExponent : Int := 971

/-- The number zero. -/
def zero : Binary64 := ⟨false, 0, minExponent⟩

/-- The same number with the opposite sign. -/
def neg (x : Binary64) : Binary64 :=
  { x with negative := !x.negative }

/-- Whether the number is zero, of either sign. -/
def isZero (x : Binary64) : Bool :=
  x.significand == 0

/-- The quotient rounded to the nearest whole number, an exact half to the even one. -/
def divNearest (num den : Nat) : Nat :=
  let q := num / den
  let twice := 2 * (num % den)
  if den < twice || (twice == den && q % 2 == 1) then q + 1 else q

/-- The greatest `k` with `2^k ≤ num / den`, for positive `num` and `den`. -/
def floorLog2 (num den : Nat) : Int :=
  let k : Int := num.log2 - den.log2
  if num <<< (-k).toNat < den <<< k.toNat then k - 1 else k

/-- The nonnegative number nearest to `num / den`. -/
def ofRatio? (num den : Nat) : Option Binary64 :=
  if num = 0 then some zero else
    let e := max (floorLog2 num den - 52) minExponent
    let m := divNearest (num <<< (-e).toNat) (den <<< e.toNat)
    let x : Binary64 := if m = 1 <<< 53 then ⟨false, 1 <<< 52, e + 1⟩ else ⟨false, m, e⟩
    if maxExponent < x.exponent then none else some x

/-- The numerator of the absolute value as a fraction. -/
def numerator (x : Binary64) : Nat :=
  x.significand <<< x.exponent.toNat

/-- The denominator of the absolute value as a fraction. -/
def denominator (x : Binary64) : Nat :=
  1 <<< (-x.exponent).toNat

/-- The number nearest to a natural number. -/
def ofNat? (n : Nat) : Option Binary64 :=
  ofRatio? n 1

/-- The absolute value of the rounded product. -/
def mul? (x y : Binary64) : Option Binary64 :=
  ofRatio? (x.numerator * y.numerator) (x.denominator * y.denominator)

/-- The absolute value of the rounded quotient by a number that is not zero. -/
def div? (x y : Binary64) : Option Binary64 :=
  ofRatio? (x.numerator * y.denominator) (x.denominator * y.numerator)

end Binary64

end MemorySentry
