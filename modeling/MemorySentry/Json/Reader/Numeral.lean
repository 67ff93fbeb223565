import MemorySentry.Json.Mismatch

/-!
# Numbers in JSON text

A number is read in two steps: its digits are separated from the text, and then their value is
formed. A whole number of at most 64 bits is exact. Every other number is binary: as many leading
digits as fit 64 bits are scaled by a power of ten, which may miss the nearest binary number by a
rounding. A number that is too large is no number at all.
-/

namespace MemorySentry.Json

/-- A text to be read: its characters, and `none` for each byte that belongs to no character. -/
abbrev Input := List (Option Char)

/-- The digits of a number. -/
structure Numeral where
  /-- The digits before the point. -/
  whole : List Nat
  /-- The digits after the point, if there is one. -/
  fraction : Option (List Nat) := none
  /-- Whether the exponent is negative, and its digits, if there is one. -/
  exponent : Option (Bool × List Nat) := none
deriving DecidableEq

namespace Reader

/-- The value of a decimal digit. -/
def digit? : Option Char → Option Nat
  | some c => if '0' ≤ c ∧ c ≤ '9' then some (c.toNat - '0'.toNat) else none
  | none => none

/-- The decimal digits at the start of a text. -/
def readDigits : Input → List Nat × Input
  | [] => ([], [])
  | x :: rest =>
    match digit? x with
    | some d =>
      let (ds, rest) := readDigits rest
      (d :: ds, rest)
    | none => ([], x :: rest)

/-- One digit or more. -/
def readSomeDigits (s : Input) : Except ReadError (List Nat × Input) :=
  match readDigits s with
  | ([], []) => .error .truncated
  | ([], _ :: _) => .error .malformed
  | (ds, rest) => .ok (ds, rest)

/-- The digits before the point. A zero stands alone. -/
def readWhole (s : Input) : Except ReadError (List Nat × Input) := do
  match ← readSomeDigits s with
  | (0 :: _ :: _, _) => .error .malformed
  | (ds, rest) => return (ds, rest)

/-- The digits after a point, if there is one. -/
def readFraction : Input → Except ReadError (Option (List Nat) × Input)
  | some '.' :: rest => do
    let (ds, rest) ← readSomeDigits rest
    return (some ds, rest)
  | s => return (none, s)

/-- An exponent, if there is one. -/
def readExponent (s : Input) : Except ReadError (Option (Bool × List Nat) × Input) :=
  match s with
  | [] => return (none, [])
  | x :: rest =>
    if x = some 'e' ∨ x = some 'E' then do
      let (negative, rest) := match rest with
        | some '-' :: rest => (true, rest)
        | some '+' :: rest => (false, rest)
        | _ => (false, rest)
      let (ds, rest) ← readSomeDigits rest
      return (some (negative, ds), rest)
    else return (none, x :: rest)

/-- The digits of a number, after its sign. -/
def readNumeral (s : Input) : Except ReadError (Numeral × Input) := do
  let (whole, s) ← readWhole s
  let (fraction, s) ← readFraction s
  let (exponent, s) ← readExponent s
  return ({ whole, fraction, exponent }, s)

end Reader

namespace Numeral

/-- The largest integer that is kept exactly. -/
def mostInteger : Nat := UInt64.size - 1

/-- Appends digits to a number as long as the result fits 64 bits. Gives also the digits that are
left over. -/
def appendDigits (n : Nat) : List Nat → Nat × List Nat
  | [] => (n, [])
  | d :: rest => if n * 10 + d ≤ mostInteger then appendDigits (n * 10 + d) rest else (n, d :: rest)

/-- The value of digits. -/
def natOf (ds : List Nat) : Nat :=
  ds.foldl (fun n d => n * 10 + d) 0

/-- The leading digits that fit 64 bits, and the power of ten of the last one among them. -/
def scientific (n : Numeral) : Nat × Int :=
  let (significand, dropped) := appendDigits 0 n.whole
  let fraction := n.fraction.getD []
  let (significand, unused) := appendDigits significand fraction
  let given : Int := match n.exponent with
    | none => 0
    | some (true, ds) => -(natOf ds : Int)
    | some (false, ds) => natOf ds
  (significand, dropped.length - (fraction.length - unused.length : Nat) + given)

/-- The greatest power of ten that numbers are scaled by at once. -/
def greatestPower : Nat := 308

/-- A power of ten as a binary number. -/
def powerOfTen? (k : Nat) : Option Binary64 :=
  Binary64.ofNat? (Nat.pow 10 k)

/-- Divides by the greatest power of ten again and again. Zero stays zero. -/
def shrink? (x : Binary64) : (steps : Nat) → Option Binary64
  | 0 => some x
  | steps + 1 =>
    if x.isZero then some x
    else do shrink? (← x.div? (← powerOfTen? greatestPower)) steps

/-- Multiplies by a power of ten, if the result is finite. Division by more than the greatest power
goes in steps. -/
def scale? (x : Binary64) : (exponent : Int) → Option Binary64
  | .ofNat k =>
    if x.isZero then some x
    else if greatestPower < k then none
    else do x.mul? (← powerOfTen? k)
  | .negSucc k => do
    let steps := k / greatestPower
    (← shrink? x steps).div? (← powerOfTen? (k + 1 - steps * greatestPower))

/-- The number as a binary one, if it is finite. -/
def float? (negative : Bool) (n : Numeral) : Option Number := do
  let (significand, exponent) := n.scientific
  let x ← scale? (← Binary64.ofNat? significand) exponent
  return .float (if negative then x.neg else x)

/-- The value of a number. There is no negative zero among the integers, and the least integer is
`-2^63`. -/
def value? (negative : Bool) (n : Numeral) : Option Number :=
  let whole := natOf n.whole
  if n.fraction.isSome ∨ n.exponent.isSome ∨ mostInteger < whole then n.float? negative
  else if !negative then some (.natural whole)
  else if 0 < whole ∧ whole ≤ 1 <<< 63 then some (.negative (whole - 1))
  else n.float? true

end Numeral

namespace Reader

/-- A number, after its sign. -/
def readNumber (negative : Bool) (s : Input) : Except ReadError (Number × Input) := do
  let (n, s) ← readNumeral s
  match n.value? negative with
  | some v => return (v, s)
  | none => .error .malformed

end Reader

end MemorySentry.Json
