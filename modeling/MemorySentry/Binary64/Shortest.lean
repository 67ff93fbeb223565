import MemorySentry.Binary64.Basic

/-!
# Shortest decimals

The shortest decimal that reads back as a given number. The reals that round to the number form an
interval around it. For one digit, two digits and so on up to seventeen, the two decimals of that
many digits next to the number are tried: the first length with one inside the interval is the
shortest, and of two inside it the nearer is taken.
-/

namespace MemorySentry

/-- The decimal `digits · 10^exponent`. -/
structure Decimal where
  /-- The digits as a whole number. -/
  digits : Nat
  /-- The power of ten of the last digit. -/
  exponent : Int
deriving DecidableEq

namespace Binary64

/-- The fractions, over `4 · denominator`, between which a real rounds to the number. The gap below
a power of two is half the gap above it. -/
def roundingInterval (x : Binary64) : Nat × Nat :=
  let unit := 1 <<< x.exponent.toNat
  let below := if x.significand = 1 <<< 52 ∧ x.exponent ≠ minExponent then 1 else 2
  (4 * x.numerator - below * unit, 4 * x.numerator + 2 * unit)

/-- The number of decimal places by which `num / den` has to be moved to lie in `[1, 10)`; positive
to the right. The second argument bounds the search. -/
def decimalShift (num den : Nat) : Nat → Nat
  | 0 => 0
  | steps + 1 => if num < den then decimalShift (num * 10) den steps + 1 else 0

/-- The greatest `k` with `10^k ≤ num / den`, for positive `num` and `den` in the range of finite
numbers. -/
def floorLog10 (num den : Nat) : Int :=
  if num < den then -(decimalShift num den 400 : Int)
  else ((Nat.toDigits 10 (num / den)).length : Int) - 1

/-- The decimal with last digit at `10^k` that reads back as the number, if there is one: the
nearer of the two next to it, and of two equally near the even one. -/
def decimalAt? (x : Binary64) (k : Int) : Option Decimal :=
  let up := Nat.pow 10 k.toNat
  let down := Nat.pow 10 (-k).toNat
  let den := x.denominator
  let d := x.numerator * down / (den * up)
  let (low, high) := x.roundingInterval
  let inside (d : Nat) : Bool :=
    let v := 4 * d * up * den
    if x.significand % 2 = 0 then low * down ≤ v && v ≤ high * down
    else low * down < v && v < high * down
  let rest := 2 * (x.numerator * down % (den * up))
  let nearer := if rest < den * up || (rest == den * up && d % 2 == 0) then d else d + 1
  let farther := if nearer = d then d + 1 else d
  if inside nearer then some ⟨nearer, k⟩ else if inside farther then some ⟨farther, k⟩ else none

/-- The shortest decimal that reads back as a number that is not zero, in absolute value. A number
just below a power of ten may have the ten itself as its first digit, which is one digit too. -/
def shortest (x : Binary64) : Decimal :=
  let k := floorLog10 x.numerator x.denominator
  let d := ((List.range 17).findSome? fun (n : Nat) => x.decimalAt? (k - n)).getD ⟨x.numerator, 0⟩
  if d.digits % 10 = 0 then ⟨d.digits / 10, d.exponent + 1⟩ else d

end Binary64

namespace Decimal

/-- How a decimal is laid out as text. -/
structure Layout where
  /-- The least power of ten of a first digit that is written without an exponent. -/
  leastPlain : Int
  /-- The greatest power of ten of a first digit that is written without an exponent. -/
  greatestPlain : Int
  /-- What stands before an exponent that is not negative. -/
  positiveMark : List Char
  /-- What stands before the absolute value of a negative exponent. -/
  negativeMark : List Char

/-- The text of a decimal that is not zero: with a point and at least one digit on either side, or
with an exponent after the first digit where the layout asks for it. -/
def write (layout : Layout) (d : Decimal) : List Char :=
  let digits := Nat.toDigits 10 d.digits
  let first : Int := d.exponent + digits.length - 1
  if layout.leastPlain ≤ first ∧ first ≤ layout.greatestPlain then
    if 0 ≤ d.exponent then
      digits ++ List.replicate d.exponent.toNat '0' ++ ['.', '0']
    else if 0 ≤ first then
      digits.take (first.toNat + 1) ++ '.' :: digits.drop (first.toNat + 1)
    else
      '0' :: '.' :: List.replicate (-first - 1).toNat '0' ++ digits
  else
    let mantissa := match digits with
      | [] => []
      | [c] => [c]
      | c :: rest => c :: '.' :: rest
    mantissa ++
      if 0 ≤ first then layout.positiveMark ++ Nat.toDigits 10 first.toNat
      else layout.negativeMark ++ Nat.toDigits 10 (-first).toNat

end Decimal

namespace Binary64

/-- The shortest decimal text of a number. -/
def write (layout : Decimal.Layout) (x : Binary64) : List Char :=
  let sign := if x.negative then ['-'] else []
  if x.isZero then sign ++ ['0', '.', '0'] else sign ++ x.shortest.write layout

end Binary64

end MemorySentry
