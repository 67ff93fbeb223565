import MemorySentry.Proofs.Json.RoundTrip
import Mathlib.Data.Nat.Digits.Defs

/-!
# How numbers are written

A number is written as a sign, digits, perhaps a point with more digits, and perhaps an exponent. A
document that consists of it is read as the number that the digits are worth (`read_number`). Only
digits alone make an integer (`value?_eq_natural_iff`).
-/

namespace MemorySentry.Json

/-- Digits as characters. -/
def figures (ds : List Nat) : List Char :=
  ds.map Nat.digitChar

/-- One decimal digit or more. -/
structure SomeDigits (ds : List Nat) : Prop where
  /-- There is one. -/
  some : ds ≠ []
  /-- All of them are decimal digits. -/
  decimal : ∀ d ∈ ds, d < 10

namespace Numeral

/-- The texts of the digits after the point. -/
inductive FractionText : Option (List Nat) → List Char → Prop
  /-- There is no point. -/
  | absent : FractionText none []
  /-- The digits follow the point. -/
  | present {ds : List Nat} (hdigits : SomeDigits ds) : FractionText (some ds) ('.' :: figures ds)

/-- The texts of an exponent. -/
inductive ExponentText : Option (Bool × List Nat) → List Char → Prop
  /-- There is no exponent. -/
  | absent : ExponentText none []
  /-- The exponent has no sign. -/
  | unsigned {mark : Char} {ds : List Nat} (hmark : mark = 'e' ∨ mark = 'E')
      (hdigits : SomeDigits ds) : ExponentText (some (false, ds)) (mark :: figures ds)
  /-- The exponent has a sign. -/
  | signed {mark : Char} {ds : List Nat} (negative : Bool) (hmark : mark = 'e' ∨ mark = 'E')
      (hdigits : SomeDigits ds) :
      ExponentText (some (negative, ds)) (mark :: (if negative then '-' else '+') :: figures ds)

/-- The texts of a number without its sign. -/
inductive UnsignedText (n : Numeral) : List Char → Prop
  /-- The digits before the point start with a zero only if it stands alone. -/
  | intro {fraction exponent : List Char} (hwhole : SomeDigits n.whole)
      (hzero : n.whole.head? = some 0 → n.whole = [0])
      (hfraction : FractionText n.fraction fraction)
      (hexponent : ExponentText n.exponent exponent) :
      UnsignedText n (figures n.whole ++ fraction ++ exponent)

end Numeral

namespace Reader

variable {ds : List Nat} {s : Input}

/-- The text goes on with something else than a digit. -/
def NoDigit (s : Input) : Prop :=
  ∀ x ∈ s.head?, digit? x = none

theorem noDigit_nil : NoDigit [] := fun x hx => by cases hx

theorem digit?_digitChar {d : Nat} (hd : d < 10) : digit? (some (Nat.digitChar d)) = some d := by
  decide +revert

theorem readDigits_figures (hds : ∀ d ∈ ds, d < 10) (hs : NoDigit s) :
    readDigits ((figures ds).map some ++ s) = (ds, s) := by
  induction ds with
  | nil =>
    cases s with
    | nil => rfl
    | cons x rest => simp [figures, readDigits, hs x rfl]
  | cons d ds ih =>
    obtain ⟨hd, hrest⟩ := List.forall_mem_cons.mp hds
    have hstep := ih hrest
    simp only [figures, List.map_cons, List.cons_append] at hstep ⊢
    rw [readDigits, digit?_digitChar hd, hstep]

theorem readSomeDigits_figures (hds : SomeDigits ds) (hs : NoDigit s) :
    readSomeDigits ((figures ds).map some ++ s) = .ok (ds, s) := by
  rw [readSomeDigits, readDigits_figures hds.decimal hs]
  obtain ⟨d, rest, rfl⟩ := List.exists_cons_of_ne_nil hds.some
  rfl

theorem readWhole_figures (hds : SomeDigits ds) (hzero : ds.head? = some 0 → ds = [0])
    (hs : NoDigit s) : readWhole ((figures ds).map some ++ s) = .ok (ds, s) := by
  simp only [readWhole, readSomeDigits_figures hds hs, bind, Except.bind]
  -- only a zero that more digits follow would be refused
  match ds, hzero with
  | [], _ => rfl
  | [0], _ => rfl
  | 0 :: d :: rest, hzero => exact absurd (hzero rfl) (by simp)
  | (d + 1) :: rest, _ => rfl

theorem readFraction_text {fraction : Option (List Nat)} {text : List Char}
    (h : Numeral.FractionText fraction text) (hs : NoDigit s) (hpoint : some '.' ∉ s.head?) :
    readFraction (text.map some ++ s) = .ok (fraction, s) := by
  cases h with
  | absent =>
    rw [List.map_nil, List.nil_append, readFraction]
    · rfl
    · rintro rest rfl
      exact hpoint rfl
  | present hdigits =>
    rw [List.map_cons, List.cons_append, readFraction, readSomeDigits_figures hdigits hs]
    rfl

theorem readExponent_text {exponent : Option (Bool × List Nat)} {text : List Char}
    (h : Numeral.ExponentText exponent text) :
    readExponent (text.map some) = .ok (exponent, []) := by
  cases h with
  | absent => rfl
  | @unsigned mark ds hmark hdigits =>
    have hread := readSomeDigits_figures hdigits noDigit_nil
    rw [List.append_nil] at hread
    -- a digit is no sign
    have hplain : ∀ d, d < 10 → Nat.digitChar d ≠ '-' ∧ Nat.digitChar d ≠ '+' := by decide
    obtain ⟨d, rest, rfl⟩ := List.exists_cons_of_ne_nil hdigits.some
    have hd := hplain d (hdigits.decimal d List.mem_cons_self)
    simp only [figures, List.map_cons, List.map_map] at hread ⊢
    simp [readExponent, hmark, hd, hread, bind, Except.bind, pure, Except.pure]
  | @signed mark ds negative hmark hdigits =>
    have hread := readSomeDigits_figures hdigits noDigit_nil
    rw [List.append_nil] at hread
    cases negative <;>
      simp [readExponent, hmark, hread, bind, Except.bind, pure, Except.pure]

/-- An exponent starts neither with a digit nor with a point. -/
theorem noDigit_exponent {exponent : Option (Bool × List Nat)} {text : List Char}
    (h : Numeral.ExponentText exponent text) :
    NoDigit (text.map some) ∧ some '.' ∉ (text.map some).head? := by
  cases h with
  | absent => exact ⟨noDigit_nil, by simp⟩
  | unsigned hmark hdigits | signed negative hmark hdigits =>
    obtain rfl | rfl := hmark <;> exact ⟨fun x hx => by cases hx; rfl, by simp⟩

theorem noDigit_fraction {fraction : Option (List Nat)} {text : List Char}
    (h : Numeral.FractionText fraction text) (hs : NoDigit s) : NoDigit (text.map some ++ s) := by
  cases h with
  | absent => exact hs
  | present hdigits => exact fun x hx => by cases hx; rfl

/-- The digits of a number are told apart by the point and by the mark of the exponent. -/
theorem readNumeral_text {n : Numeral} {text : List Char} (h : n.UnsignedText text) :
    readNumeral (text.map some) = .ok (n, []) := by
  obtain @⟨fraction, exponent, hwhole, hzero, hfraction, hexponent⟩ := h
  -- each part ends where the next one starts
  obtain ⟨hstop, hpoint⟩ := noDigit_exponent hexponent
  have hrest := noDigit_fraction hfraction hstop
  rw [List.append_assoc, List.map_append, List.map_append]
  simp only [readNumeral, readWhole_figures hwhole hzero hrest, readFraction_text hfraction hstop
    hpoint, readExponent_text hexponent, bind, Except.bind]
  rfl

/-- What a number is worth is known at its end. -/
theorem readNumber_text (negative : Bool) {n : Numeral} {text : List Char}
    (h : n.UnsignedText text) :
    readNumber negative (text.map some) =
      match n.value? negative with
      | some v => .ok (v, [])
      | none => .error .malformed := by
  simp only [readNumber, readNumeral_text h, bind, Except.bind]
  cases n.value? negative <;> rfl

/-- A text without a sign starts with a digit. -/
theorem readHead_text {n : Numeral} {text : List Char} (h : n.UnsignedText text) :
    readHead (text.map some) = do return (← readNumber false (text.map some)).map .number id := by
  obtain ⟨hwhole, -, -, -⟩ := h
  obtain ⟨d, rest, hds⟩ := List.exists_cons_of_ne_nil hwhole.some
  have hd := hwhole.decimal d (hds ▸ List.mem_cons_self)
  rw [hds, figures, List.map_cons, List.cons_append, List.cons_append, List.map_cons]
  exact readHead_digit hd _

end Reader

/-- The texts of a number with its sign. -/
inductive NumberText (n : Numeral) : (negative : Bool) → List Char → Prop
  /-- The number is not negative. -/
  | unsigned {text : List Char} (h : n.UnsignedText text) : NumberText n false text
  /-- The number has a minus sign. -/
  | signed {text : List Char} (h : n.UnsignedText text) : NumberText n true ('-' :: text)

/-- A document that is a number is read as what the number is worth. One that is too large is no
JSON. -/
theorem read_number {negative : Bool} {n : Numeral} {text : List Char}
    (h : NumberText n negative text) :
    read (text.map some) =
      match n.value? negative with
      | some v => .ok (.number v)
      | none => .error .malformed := by
  have hhead : Reader.readHead (text.map some) =
      match n.value? negative with
      | some v => .ok (.number v, [])
      | none => .error .malformed := by
    cases h with
    | unsigned h =>
      rw [Reader.readHead_text h, Reader.readNumber_text false h]
      cases n.value? false <;> rfl
    | signed h =>
      have hsign : ∀ rest, Reader.readHead (some '-' :: rest) =
          do return (← Reader.readNumber true rest).map .number id := fun _ => rfl
      rw [List.map_cons, hsign, Reader.readNumber_text true h]
      cases n.value? true <;> rfl
  rw [read, Reader.readValue, hhead]
  cases n.value? negative <;> rfl

namespace Numeral

theorem natOf_eq_ofDigits (ds : List Nat) : natOf ds = Nat.ofDigits 10 ds.reverse := by
  rw [natOf, Nat.ofDigits_eq_foldr, List.foldr_reverse]
  simp [Nat.mul_comm, Nat.add_comm]

/-- Only digits alone that fit 64 bits make a natural number. -/
theorem value?_eq_natural_iff {negative : Bool} {n : Numeral} {k : Nat} :
    n.value? negative = some (.natural k) ↔
      negative = false ∧ n.fraction = none ∧ n.exponent = none ∧
        Nat.ofDigits 10 n.whole.reverse = k ∧ k < UInt64.size := by
  have hfloat : ∀ sign, n.float? sign ≠ some (.natural k) := by
    intro sign h
    simp only [float?, Option.bind_eq_bind, Option.bind_eq_some_iff] at h
    obtain ⟨_, _, _, _, hbinary⟩ := h
    cases hbinary
  have hmost : mostInteger < natOf n.whole ↔ ¬ natOf n.whole < UInt64.size := by
    have hsize : 0 < UInt64.size := by decide
    rw [mostInteger]
    omega
  rw [value?, ← natOf_eq_ofDigits]
  split_ifs with hbinary hsign hnegative
  · -- another number than digits alone, or one that is too large
    refine iff_of_false (hfloat _) ?_
    rintro ⟨-, hfraction, hexponent, rfl, hk⟩
    simp [hfraction, hexponent, hmost, hk] at hbinary
  · simp only [not_or, Option.not_isSome_iff_eq_none, hmost, Decidable.not_not] at hbinary
    simp only [Bool.not_eq_eq_eq_not, Bool.not_true] at hsign
    simp only [Option.some.injEq, Number.natural.injEq, hsign, hbinary, true_and]
    exact (and_iff_left_of_imp fun h => h ▸ hbinary.2.2).symm
  · exact iff_of_false (by simp) (by simp_all)
  · exact iff_of_false (hfloat _) (by simp_all)

end Numeral

end MemorySentry.Json
