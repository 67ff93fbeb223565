import Mathlib.Algebra.Ring.Int.Defs
import Mathlib.Algebra.Ring.Nat
import MemorySentry.Page.Request

/-!
# Sizes of pages

A page has as many bytes as some power of two (`Page.IsSize`). So an address is cut to the first one
of its page by taking off what is left over by a division (`IsSize.toNat_base`), and pages go round
the address space without a rest (`IsSize.dvd`).
-/

namespace MemorySentry.Page

/-- What every operating system promises: a page has as many bytes as some power of two. -/
def IsSize (page : UInt64) : Prop :=
  ∃ k, page.toNat = 2 ^ k

variable {page : UInt64}

/-- What is cut off an address by clearing its lowest bits is the remainder by a power of two. -/
theorem and_not_low_bits {n k : Nat} (hn : n < UInt64.size) (hk : k ≤ 64) :
    n &&& (UInt64.size - 1 - (2 ^ k - 1)) = n - n % 2 ^ k := by
  have hlow : 2 ^ k - 1 < 2 ^ 64 :=
    Nat.lt_of_lt_of_le (Nat.sub_lt (Nat.two_pow_pos k) Nat.one_pos)
      (Nat.pow_le_pow_right Nat.two_pos hk)
  have hhigh : n - n % 2 ^ k = 2 ^ k * (n / 2 ^ k) := by
    have := Nat.div_add_mod n (2 ^ k)
    omega
  have hmask : UInt64.size - 1 - (2 ^ k - 1) = 2 ^ 64 - (2 ^ k - 1 + 1) := by
    rw [show UInt64.size = 2 ^ 64 from rfl]
    omega
  rw [hhigh, hmask]
  -- bit by bit: below `k` none is left, above all are as before
  refine Nat.eq_of_testBit_eq fun i => ?_
  rw [Nat.testBit_and, Nat.testBit_two_pow_sub_succ hlow, Nat.testBit_two_pow_sub_one,
    Nat.testBit_two_pow_mul, Nat.testBit_div_two_pow]
  rcases Nat.lt_or_ge i k with hi | hi
  · simp [hi, Nat.not_le.mpr hi]
  · rcases Nat.lt_or_ge i 64 with hi' | hi'
    · simp [hi, hi', Nat.not_lt.mpr hi]
    · have hzero : n.testBit i = false :=
        Nat.testBit_lt_two_pow (Nat.lt_of_lt_of_le hn (Nat.pow_le_pow_right Nat.two_pos hi'))
      simp [hi, hzero]

namespace IsSize

/-- No page is empty. -/
theorem pos (h : IsSize page) : 0 < page.toNat := by
  obtain ⟨k, hk⟩ := h
  rw [hk]
  exact Nat.two_pow_pos k

/-- There are at most as many pages as addresses, since a page is not larger than a word can say. -/
theorem exponent_le {k : Nat} (hk : page.toNat = 2 ^ k) : k ≤ 64 := by
  have hlt : 2 ^ k < 2 ^ 64 := hk ▸ page.toNat_lt_size
  exact Nat.le_of_lt ((Nat.pow_lt_pow_iff_right (by decide)).mp hlt)

/-- The address space consists of whole pages. -/
theorem dvd (h : IsSize page) : page.toNat ∣ UInt64.size := by
  obtain ⟨k, hk⟩ := h
  rw [hk]
  exact Nat.pow_dvd_pow 2 (exponent_le hk)

/-- The first address of a page is the multiple of the size of a page before an address. -/
theorem toNat_base (h : IsSize page) (a : Address) :
    (base page a).toNat = a.toNat - a.toNat % page.toNat := by
  have hpos := h.pos
  obtain ⟨k, hk⟩ := h
  have hone : (1 : UInt64) ≤ page := UInt64.le_iff_toNat_le.mpr hpos
  have hmask : (page - 1).toNat = 2 ^ k - 1 := by
    rw [UInt64.toNat_sub_of_le _ _ hone, hk]
    rfl
  rw [base, UInt64.toNat_and, UInt64.toNat_not, hmask, hk]
  exact and_not_low_bits a.toNat_lt_size (exponent_le hk)

/-- The place of an address in its page. -/
theorem toNat_sub_base (h : IsSize page) (a : Address) :
    (a - base page a).toNat = a.toNat % page.toNat := by
  have hbase := h.toNat_base a
  have hmod := Nat.mod_le a.toNat page.toNat
  rw [UInt64.toNat_sub_of_le _ _ (UInt64.le_iff_toNat_le.mpr (by omega))]
  omega

end IsSize

/-- A positive number that the operating system tells is the same as a word. -/
theorem toNat_toUInt64_of_pos {told : Int64} (h : 0 < told) :
    (told.toUInt64.toNat : Int) = told.toInt := by
  have hle : 0 ≤ told.toBitVec.toInt :=
    told.toInt_toBitVec ▸ Int.le_of_lt (Int64.lt_iff_toInt_lt.mp h)
  have hmsb : told.toBitVec.msb = false := by
    rw [BitVec.msb_eq_toInt]
    simpa using hle
  have heq := BitVec.toInt_eq_toNat_of_msb hmsb
  rw [Int64.toInt_toBitVec] at heq
  exact heq.symm

/-- If the operating system tells no other positive numbers than powers of two, pages have a size
whatever it tells. -/
theorem isSize_size {told : Int64} (h : 0 < told → ∃ k : Nat, told.toInt = 2 ^ k) :
    IsSize (size told) := by
  unfold size
  split
  · next hpos =>
    obtain ⟨k, hk⟩ := h hpos
    refine ⟨k, Int.ofNat_inj.mp ?_⟩
    push_cast
    exact (toNat_toUInt64_of_pos hpos).trans hk
  · exact ⟨12, rfl⟩

end MemorySentry.Page
