/-!
# Machine words

Addresses and byte counts are 64-bit words. Sums and products that must not wrap are formed over
the natural numbers and read back as a word only when they fit, so that each law about them is a
law of natural numbers.
-/

namespace MemorySentry

/-- The address of one byte in a 64-bit address space. -/
abbrev Address := UInt64

/-- A number of bytes. -/
abbrev ByteCount := UInt64

namespace Word

/-- The largest word. -/
def last : UInt64 := UInt64.ofNat (UInt64.size - 1)

/-- The word with value `n`, if `n` fits into 64 bits. -/
def ofNat? (n : Nat) : Option UInt64 :=
  if n < UInt64.size then some (UInt64.ofNat n) else none

/-- The exact sum of two words, if it fits. -/
def add? (a b : UInt64) : Option UInt64 :=
  ofNat? (a.toNat + b.toNat)

/-- The exact product of two words, if it fits. -/
def mul? (a b : UInt64) : Option UInt64 :=
  ofNat? (a.toNat * b.toNat)

/-- A sum or product that needs more than 64 bits where that is not foreseen. The operation that
forms it stops there and gives no answer. -/
inductive Overflow where
  | sum (a b : UInt64)
  | product (a b : UInt64)
deriving DecidableEq

/-- The exact sum of two words, which has to fit. -/
def sum (a b : UInt64) : Except Overflow UInt64 :=
  match add? a b with
  | some c => .ok c
  | none => .error (.sum a b)

/-- The exact product of two words, which has to fit. -/
def product (a b : UInt64) : Except Overflow UInt64 :=
  match mul? a b with
  | some c => .ok c
  | none => .error (.product a b)

/-- The sum of two words, clamped to the largest word. -/
def addClamped (a b : UInt64) : UInt64 :=
  (add? a b).getD last

/-- The least quotient that covers `n` items in groups of `size`. -/
def divUp (n size : Nat) : Nat :=
  (n + (size - 1)) / size

/-- The lower-case hexadecimal digits of `n` after `0x`, without leading zeros. -/
def hex (n : Nat) : String :=
  "0x" ++ String.ofList (Nat.toDigits 16 n)

/-- A number makes a word that has its value. -/
theorem ofNat?_eq_some_iff {n : Nat} {w : UInt64} : ofNat? n = some w ↔ w.toNat = n := by
  unfold ofNat?
  constructor
  · intro h
    split at h
    · next hn =>
      cases h
      simpa using Nat.mod_eq_of_lt hn
    · cases h
  · intro h
    subst h
    simp [UInt64.toNat_lt_size]

/-- It makes none if it needs more than 64 bits. -/
theorem ofNat?_eq_none_iff {n : Nat} : ofNat? n = none ↔ UInt64.size ≤ n := by
  simp [ofNat?]

/-- A sum of words that fits in 64 bits is the exact one. -/
theorem toNat_add_of_lt {a b : UInt64} (h : a.toNat + b.toNat < UInt64.size) :
    (a + b).toNat = a.toNat + b.toNat := by
  rw [UInt64.toNat_add]
  exact Nat.mod_eq_of_lt h

/-- A product of words that fits in 64 bits is the exact one. -/
theorem toNat_mul_of_lt {a b : UInt64} (h : a.toNat * b.toNat < UInt64.size) :
    (a * b).toNat = a.toNat * b.toNat := by
  rw [UInt64.toNat_mul]
  exact Nat.mod_eq_of_lt h

/-- So is the successor of a word that is not the last one. -/
theorem toNat_succ {a : UInt64} (h : a.toNat + 1 < UInt64.size) : (a + 1).toNat = a.toNat + 1 :=
  toNat_add_of_lt h

/-- A sum of words is the word whose value is the exact sum. -/
theorem add?_eq_some_iff {a b c : UInt64} : add? a b = some c ↔ c.toNat = a.toNat + b.toNat :=
  ofNat?_eq_some_iff

/-- A sum of words is refused exactly when the exact sum needs more than 64 bits. -/
theorem add?_eq_none_iff {a b : UInt64} : add? a b = none ↔ UInt64.size ≤ a.toNat + b.toNat :=
  ofNat?_eq_none_iff

/-- A product of words is the word whose value is the exact product. -/
theorem mul?_eq_some_iff {a b c : UInt64} : mul? a b = some c ↔ c.toNat = a.toNat * b.toNat :=
  ofNat?_eq_some_iff

/-- A product of words is refused exactly when the exact product needs more than 64 bits. -/
theorem mul?_eq_none_iff {a b : UInt64} : mul? a b = none ↔ UInt64.size ≤ a.toNat * b.toNat :=
  ofNat?_eq_none_iff

/-- A sum that has to fit is the exact one. -/
theorem sum_eq_ok_iff {a b c : UInt64} : sum a b = .ok c ↔ c.toNat = a.toNat + b.toNat := by
  rw [← add?_eq_some_iff]
  unfold sum
  cases add? a b <;> simp

/-- A product that has to fit is the exact one. -/
theorem product_eq_ok_iff {a b c : UInt64} :
    product a b = .ok c ↔ c.toNat = a.toNat * b.toNat := by
  rw [← mul?_eq_some_iff]
  unfold product
  cases mul? a b <;> simp

end Word

end MemorySentry
