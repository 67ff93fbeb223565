/-!
# Numerals

Natural numbers as people write them: one digit or more in some base, of either case, with a plus
sign in front if they like.
-/

namespace MemorySentry.Text

/-- The value of a digit in bases up to sixteen. -/
def digitValue? (base : Nat) (c : Char) : Option Nat :=
  let v :=
    if '0' ≤ c ∧ c ≤ '9' then c.toNat - '0'.toNat
    else if 'a' ≤ c ∧ c ≤ 'f' then c.toNat - 'a'.toNat + 10
    else if 'A' ≤ c ∧ c ≤ 'F' then c.toNat - 'A'.toNat + 10
    else base
  if v < base then some v else none

/-- The value of digits that continue a number. -/
def continueDigits? (base : Nat) : Nat → List Char → Option Nat
  | acc, [] => some acc
  | acc, c :: rest =>
    match digitValue? base c with
    | some v => continueDigits? base (acc * base + v) rest
    | none => none

/-- The value of one digit or more. -/
def digits? (base : Nat) : List Char → Option Nat
  | [] => none
  | cs => continueDigits? base 0 cs

/-- The value of a numeral. -/
def numeral? (base : Nat) : List Char → Option Nat
  | '+' :: rest => digits? base rest
  | cs => digits? base cs

/-- The value of a numeral, if it is at most `most`. -/
def numeralUpTo? (base most : Nat) (cs : List Char) : Option Nat :=
  (numeral? base cs).filter fun n => n ≤ most

end MemorySentry.Text
