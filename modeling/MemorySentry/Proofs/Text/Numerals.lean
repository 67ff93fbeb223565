import MemorySentry.Text.Blank
import MemorySentry.Text.Numeral
import MemorySentry.Word
import Mathlib.Data.List.TakeWhile
import Mathlib.Data.Nat.Digits.Defs

/-!
# What numerals mean

A numeral is understood exactly if it is one, and then as the number whose digits it spells. A
number is written with as many digits as it needs, or with zeros in front if more are asked for.

- `Spells`: the digits that a text spells, whatever the case of its letters.
- `Numeral`: the texts of a number in some base. They are what is understood
  (`numeral?_eq_some_iff`), and zeros in front or capital letters make no difference
  (`numeral_of_toDigits`).
- `Writes`: the text in which a number is written, of which there is one (`Writes.unique`).
- `Trimmed`: what a text is without the blanks around it (`trimmed_iff`).
-/

namespace MemorySentry.Text

section Digits

variable {base : Nat} {cs : List Char} {c : Char} {ds : List Nat} {n : Nat}

/-- A text spells digits, one character each. Letters may be of either case. -/
def Spells (base : Nat) (cs : List Char) (ds : List Nat) : Prop :=
  lower cs = ds.map Nat.digitChar ∧ ∀ d ∈ ds, d < base

/-- A text is a number in some base: one digit or more, with a plus sign in front or without. -/
inductive Numeral (base : Nat) : List Char → Nat → Prop
  /-- The digits stand alone. -/
  | unsigned {cs : List Char} {ds : List Nat} (hsome : ds ≠ []) (hspells : Spells base cs ds) :
      Numeral base cs (Nat.ofDigits base ds.reverse)
  /-- A plus sign stands in front of the digits. -/
  | signed {cs : List Char} {ds : List Nat} (hsome : ds ≠ []) (hspells : Spells base cs ds) :
      Numeral base ('+' :: cs) (Nat.ofDigits base ds.reverse)

/-- Capital letters move up by 32 when they are made small, and all other characters stay. -/
theorem toNat_toLower (c : Char) :
    c.toLower.toNat = if 65 ≤ c.toNat ∧ c.toNat ≤ 90 then c.toNat + 32 else c.toNat := by
  have hvalue : c.toLower.val = if c.val ≥ 'A'.val ∧ c.val ≤ 'Z'.val
      then c.val + ('a'.val - 'A'.val) else c.val :=
    apply_dite Char.val _ _ _
  have hcapital : (c.val ≥ 'A'.val ∧ c.val ≤ 'Z'.val) ↔ 65 ≤ c.toNat ∧ c.toNat ≤ 90 := Iff.rfl
  have hshift : ('a'.val - 'A'.val).toNat = 32 := by decide
  show c.toLower.val.toNat = _
  rw [hvalue]
  simp only [hcapital]
  split
  · next h =>
    show (c.val + ('a'.val - 'A'.val)).toNat = c.val.toNat + 32
    have hval : c.val.toNat = c.toNat := rfl
    rw [UInt32.toNat_add]
    omega
  · rfl

/-- The code of a digit: figures begin at `0`, letters at `a`. -/
theorem toNat_digitChar {d : Nat} (hd : d < 16) :
    (Nat.digitChar d).toNat = if d < 10 then 48 + d else 87 + d := by
  decide +revert

/-- A character has a value exactly if it is a digit of the base, of either case. -/
theorem digitValue?_eq_some_iff (hbase : base ≤ 16) {d : Nat} :
    digitValue? base c = some d ↔ c.toLower = Nat.digitChar d ∧ d < base := by
  -- ranges of characters are compared by the places of the characters
  have hle (a b : Char) : a ≤ b ↔ a.toNat ≤ b.toNat := Iff.rfl
  constructor
  · intro h
    simp only [digitValue?, Option.ite_none_right_eq_some, Option.some.injEq] at h
    obtain ⟨hlt, rfl⟩ := h
    refine ⟨Char.toNat_inj.mp ?_, hlt⟩
    rw [toNat_toLower, toNat_digitChar (by omega)]
    simp only [hle, Char.reduceToNat] at hlt ⊢
    split_ifs at hlt ⊢ <;> omega
  · rintro ⟨hc, hd⟩
    have htoNat := congrArg Char.toNat hc
    rw [toNat_toLower, toNat_digitChar (by omega)] at htoNat
    simp only [digitValue?, hle, Char.reduceToNat, Option.ite_none_right_eq_some,
      Option.some.injEq]
    split_ifs at htoNat ⊢ <;> omega

/-- The empty text spells no digits. -/
@[simp]
theorem spells_nil : Spells base [] ds ↔ ds = [] := by
  simp only [Spells, lower, List.map_nil, List.nil_eq, List.map_eq_nil_iff, and_iff_left_iff_imp]
  rintro rfl d hd
  exact absurd hd List.not_mem_nil

/-- A text spells digits one character at a time. -/
theorem spells_cons :
    Spells base (c :: cs) ds ↔
      ∃ d rest, ds = d :: rest ∧ (c.toLower = Nat.digitChar d ∧ d < base) ∧
        Spells base cs rest := by
  cases ds with
  | nil => simp [Spells, lower]
  | cons d rest =>
    simp only [Spells, lower, List.map_cons, List.cons.injEq, List.forall_mem_cons]
    constructor
    · rintro ⟨⟨hc, hcs⟩, hd, hrest⟩
      exact ⟨d, rest, ⟨rfl, rfl⟩, ⟨hc, hd⟩, hcs, hrest⟩
    · rintro ⟨_, _, ⟨rfl, rfl⟩, ⟨hc, hd⟩, hcs, hrest⟩
      exact ⟨⟨hc, hcs⟩, hd, hrest⟩

/-- Digits that continue a number are worth what they are worth alone, after the number is moved out
of their way. -/
theorem continueDigits?_eq_some_iff (hbase : base ≤ 16) {acc : Nat} :
    continueDigits? base acc cs = some n ↔
      ∃ ds, Spells base cs ds ∧ n = acc * base ^ ds.length + Nat.ofDigits base ds.reverse := by
  induction cs generalizing acc with
  | nil => simp [continueDigits?, eq_comm]
  | cons c cs ih =>
    -- the first digit is the one that all others are counted from
    have hvalue (d : Nat) (rest : List Nat) :
        (acc * base + d) * base ^ rest.length + Nat.ofDigits base rest.reverse =
          acc * base ^ (d :: rest).length + Nat.ofDigits base (d :: rest).reverse := by
      rw [List.reverse_cons, Nat.ofDigits_append, Nat.ofDigits_singleton, List.length_reverse,
        List.length_cons, pow_succ]
      ring
    have hstep : continueDigits? base acc (c :: cs) = some n ↔
        ∃ d, digitValue? base c = some d ∧ continueDigits? base (acc * base + d) cs = some n := by
      rw [continueDigits?]
      cases digitValue? base c <;> simp
    rw [hstep]
    simp only [ih, digitValue?_eq_some_iff hbase, spells_cons]
    constructor
    · rintro ⟨d, hd, rest, hrest, hn⟩
      exact ⟨d :: rest, ⟨d, rest, rfl, hd, hrest⟩, hn.trans (hvalue d rest)⟩
    · rintro ⟨_, ⟨d, rest, rfl, hd, hrest⟩, hn⟩
      exact ⟨d, hd, rest, hrest, hn.trans (hvalue d rest).symm⟩

/-- A text is read as a number exactly if it spells some digits of that number. -/
theorem digits?_eq_some_iff (hbase : base ≤ 16) :
    digits? base cs = some n ↔
      ∃ ds, ds ≠ [] ∧ Spells base cs ds ∧ n = Nat.ofDigits base ds.reverse := by
  cases cs with
  | nil => simp [digits?]
  | cons c cs =>
    simp only [digits?, continueDigits?_eq_some_iff hbase, zero_mul, zero_add]
    refine exists_congr fun ds => (and_iff_right_of_imp fun ⟨hspells, _⟩ => ?_).symm
    obtain ⟨d, rest, rfl, -⟩ := spells_cons.mp hspells
    exact List.cons_ne_nil d rest

/-- A plus sign is no digit. -/
theorem not_spells_plus (hbase : base ≤ 16) : ¬ Spells base ('+' :: cs) ds := by
  intro h
  obtain ⟨d, rest, -, ⟨hplus, hd⟩, -⟩ := spells_cons.mp h
  have hplace := toNat_digitChar (show d < 16 by omega)
  rw [← hplus, toNat_toLower] at hplace
  simp only [Char.reduceToNat] at hplace
  split_ifs at hplace <;> omega

/-- A text is understood exactly if it is a number, and as this number. -/
theorem numeral?_eq_some_iff (hbase : base ≤ 16) :
    numeral? base cs = some n ↔ Numeral base cs n := by
  fun_cases numeral? base cs with
  | case1 rest =>
    -- a plus sign is followed by all of the digits
    rw [digits?_eq_some_iff hbase]
    constructor
    · rintro ⟨ds, hsome, hspells, rfl⟩
      exact .signed hsome hspells
    · intro h
      cases h with
      | signed hsome hspells => exact ⟨_, hsome, hspells, rfl⟩
      | unsigned hsome hspells => exact absurd hspells (not_spells_plus hbase)
  | case2 _ hunsigned =>
    rw [digits?_eq_some_iff hbase]
    constructor
    · rintro ⟨ds, hsome, hspells, rfl⟩
      exact .unsigned hsome hspells
    · intro h
      cases h with
      | unsigned hsome hspells => exact ⟨_, hsome, hspells, rfl⟩
      | signed hsome hspells => exact absurd rfl (hunsigned _)

/-- A text is read as a number exactly if it is a numeral for it and the number is not too large. -/
theorem numeralUpTo?_eq_some_iff (hbase : base ≤ 16) {most : Nat} :
    numeralUpTo? base most cs = some n ↔ Numeral base cs n ∧ n ≤ most := by
  rw [numeralUpTo?, Option.filter_eq_some_iff, numeral?_eq_some_iff hbase, decide_eq_true_eq]

/-- A text means one number at most. -/
theorem Numeral.unique (hbase : base ≤ 16) {n' : Nat} (h : Numeral base cs n)
    (h' : Numeral base cs n') : n = n' :=
  Option.some.inj
    (((numeral?_eq_some_iff hbase).mpr h).symm.trans ((numeral?_eq_some_iff hbase).mpr h'))

/-- The digits of a number. There are as many as a width asks for, and more only if the number needs
them. -/
structure DigitsOf (base width n : Nat) (ds : List Nat) : Prop where
  lt : ∀ d ∈ ds, d < base
  value : Nat.ofDigits base ds.reverse = n
  width_le : width ≤ ds.length
  leading : width < ds.length → ds.head? ≠ some 0

/-- A text writes a number with small letters, one for each of its digits. -/
def Writes (base width n : Nat) (cs : List Char) : Prop :=
  ∃ ds, DigitsOf base width n ds ∧ cs = ds.map Nat.digitChar

namespace DigitsOf

variable {width : Nat} {ds' : List Nat}

/-- The number is too large for the width if there are more digits. -/
theorem pow_le (h : DigitsOf base width n ds) (hlong : width < ds.length) :
    base ^ (ds.length - 1) ≤ n := by
  cases ds with
  | nil => exact absurd hlong (Nat.not_lt_zero width)
  | cons d rest =>
    have hpos : 0 < d := Nat.pos_of_ne_zero fun hzero => h.leading hlong (congrArg some hzero)
    rw [← h.value, List.reverse_cons, Nat.ofDigits_append, Nat.ofDigits_singleton,
      List.length_reverse, List.length_cons, Nat.add_sub_cancel]
    exact Nat.le_trans (Nat.le_mul_of_pos_right _ hpos) (Nat.le_add_left _ _)

/-- No way to write a number is longer than another. -/
theorem length_le (hbase : 1 < base) (h : DigitsOf base width n ds)
    (h' : DigitsOf base width n ds') : ds.length ≤ ds'.length := by
  refine Nat.le_of_not_lt fun hlt => ?_
  have hn : base ^ (ds.length - 1) ≤ n := h.pow_le (Nat.lt_of_le_of_lt h'.width_le hlt)
  have hn' : n < base ^ ds'.length := by
    rw [← h'.value, ← List.length_reverse]
    exact Nat.ofDigits_lt_base_pow_length hbase fun d hd => h'.lt d (List.mem_reverse.mp hd)
  have hpow : base ^ ds'.length ≤ base ^ (ds.length - 1) :=
    Nat.pow_le_pow_right (Nat.zero_lt_of_lt hbase) (Nat.le_pred_of_lt hlt)
  omega

/-- A number has its digits in one way only. -/
theorem unique (hbase : 1 < base) (h : DigitsOf base width n ds)
    (h' : DigitsOf base width n ds') : ds = ds' := by
  have hlength : ds.reverse.length = ds'.reverse.length := by
    rw [List.length_reverse, List.length_reverse]
    exact Nat.le_antisymm (h.length_le hbase h') (h'.length_le hbase h)
  exact List.reverse_inj.mp (Nat.ofDigits_inj_of_len_eq hbase hlength
    (fun d hd => h.lt d (List.mem_reverse.mp hd)) (fun d hd => h'.lt d (List.mem_reverse.mp hd))
    (h.value.trans h'.value.symm))

/-- Only zero starts with a zero if no width asks for it. -/
theorem head?_ne (h : DigitsOf base 1 n ds) (hn : 0 < n) : ds.head? ≠ some 0 := by
  intro hzero
  match ds, h with
  | [d], h =>
    cases hzero
    exact hn.ne (by simpa using h.value)
  | d :: d' :: rest, h => exact h.leading (by simp) hzero

end DigitsOf

/-- The text of a number is determined. -/
theorem Writes.unique {width : Nat} {cs' : List Char} (hbase : 1 < base)
    (h : Writes base width n cs) (h' : Writes base width n cs') : cs = cs' := by
  obtain ⟨ds, hds, rfl⟩ := h
  obtain ⟨ds', hds', rfl⟩ := h'
  rw [hds.unique hbase hds']

/-- The shortest text of a number. -/
theorem writes_toDigits (hbase : 1 < base) (n : Nat) : Writes base 1 n (Nat.toDigits base n) := by
  -- by induction on the digits, of which the last one is split off
  induction n using Nat.base_induction base hbase with
  | single d hd =>
    exact ⟨[d], ⟨by simpa using hd, by simp, Nat.le_refl 1, by simp⟩,
      Nat.toDigits_of_lt_base hd⟩
  | digit m d hd hm ih =>
    obtain ⟨ds, hds, htext⟩ := ih
    refine ⟨ds ++ [d], ⟨by simpa [or_imp, forall_and] using ⟨hds.lt, hd⟩, ?_, by simp, ?_⟩, ?_⟩
    · rw [List.reverse_append, List.reverse_singleton, List.singleton_append, Nat.ofDigits_cons,
        hds.value, Nat.add_comm]
    · obtain ⟨d', rest, rfl⟩ := List.exists_cons_of_length_pos hds.width_le
      exact fun _ => hds.head?_ne hm
    · rw [← Nat.toDigits_append_toDigits hbase hm hd, htext, Nat.toDigits_of_lt_base hd,
        List.map_append, List.map_singleton]

/-- Zeros in front fill the shortest text of a number up to a width. -/
theorem Writes.pad {width : Nat} (hbase : 0 < base) (hwidth : 0 < width) (h : Writes base 1 n cs) :
    Writes base width n (List.replicate (width - cs.length) '0' ++ cs) := by
  obtain ⟨ds, hds, rfl⟩ := h
  rw [List.length_map]
  refine ⟨List.replicate (width - ds.length) 0 ++ ds, ⟨fun d hd => ?_, ?_, ?_, fun hlong => ?_⟩, ?_⟩
  · obtain hzero | hd := List.mem_append.mp hd
    · exact List.eq_of_mem_replicate hzero ▸ hbase
    · exact hds.lt d hd
  · rw [List.reverse_append, List.reverse_replicate, Nat.ofDigits_append_replicate_zero, hds.value]
  · rw [List.length_append, List.length_replicate]
    omega
  · -- no zeros are put in front of a text that is too long already
    rw [List.length_append, List.length_replicate] at hlong
    have hnone : width - ds.length = 0 := by omega
    rw [hnone, List.replicate_zero, List.nil_append]
    exact hds.leading (by omega)
  · rw [List.map_append, List.map_replicate]
    rfl

/-- The shortest text of a number has no capital letters. -/
theorem lower_toDigits (hbase : 1 < base) (hbase' : base ≤ 16) (n : Nat) :
    lower (Nat.toDigits base n) = Nat.toDigits base n := by
  have hdigit : ∀ d, d < 16 → (Nat.digitChar d).toLower = Nat.digitChar d := by decide
  obtain ⟨ds, hds, htext⟩ := writes_toDigits hbase n
  rw [htext, lower, List.map_map]
  exact List.map_congr_left fun d hd => hdigit d ((hds.lt d hd).trans_le hbase')

/-- Every way to write a number is understood: any number of zeros in front of its shortest text,
and letters of either case. -/
theorem numeral_of_toDigits (hbase : 1 < base) (zeros : Nat)
    (htext : lower cs = Nat.toDigits base n) :
    Numeral base (List.replicate zeros '0' ++ cs) n := by
  obtain ⟨ds, hds, hdigits⟩ := writes_toDigits hbase n
  have hspells : Spells base (List.replicate zeros '0' ++ cs) (List.replicate zeros 0 ++ ds) := by
    constructor
    · rw [lower, List.map_append, List.map_replicate, List.map_append, List.map_replicate]
      exact congrArg _ (htext.trans hdigits)
    · intro d hd
      obtain hzero | hd := List.mem_append.mp hd
      · have := List.eq_of_mem_replicate hzero
        omega
      · exact hds.lt d hd
  -- zeros in front add nothing
  have hzeros : Nat.ofDigits base (List.replicate zeros 0 ++ ds).reverse = n := by
    rw [List.reverse_append, List.reverse_replicate, Nat.ofDigits_append_replicate_zero, hds.value]
  have hsome : ds ≠ [] := List.ne_nil_of_length_pos hds.width_le
  exact hzeros ▸ .unsigned (by simp [hsome]) hspells

end Digits

/-- A number in hexadecimal has its digits after `0x`, and no zero in front of them. -/
theorem hex_eq_iff {n : Nat} {s : String} :
    Word.hex n = s ↔ ∃ cs, Writes 16 1 n cs ∧ s = "0x" ++ String.ofList cs := by
  constructor
  · rintro rfl
    exact ⟨_, writes_toDigits (by decide) n, rfl⟩
  · rintro ⟨cs, hcs, rfl⟩
    rw [hcs.unique (by decide) (writes_toDigits (by decide) n), Word.hex]

section Blanks

variable {cs core : List Char}

/-- A text is another one with blanks around it, which neither starts nor ends with a blank. -/
structure Trimmed (cs core : List Char) : Prop where
  /-- Only blanks stand around it. -/
  around : ∃ before after, cs = before ++ core ++ after ∧
    ∀ c ∈ before ++ after, isBlank c = true
  /-- Its first character is no blank. -/
  first : ∀ c ∈ core.head?, isBlank c = false
  /-- Its last character is no blank. -/
  last : ∀ c ∈ core.getLast?, isBlank c = false

/-- What is left of a list is the part that begins with the first element that is not dropped. -/
theorem dropWhile_eq_iff {α : Type} {p : α → Bool} {xs rest : List α} :
    xs.dropWhile p = rest ↔
      (∃ dropped, xs = dropped ++ rest ∧ ∀ x ∈ dropped, p x = true) ∧
        ∀ x ∈ rest.head?, p x = false := by
  constructor
  · rintro rfl
    refine ⟨⟨xs.takeWhile p, List.takeWhile_append_dropWhile.symm,
      fun x hx => List.mem_takeWhile_imp hx⟩, fun x hx => ?_⟩
    have hhead := List.head?_dropWhile_not p xs
    rwa [Option.mem_def.mp hx] at hhead
  · rintro ⟨⟨dropped, rfl, hdropped⟩, hhead⟩
    rw [List.dropWhile_append_of_pos hdropped]
    cases rest with
    | nil => rfl
    | cons x rest => exact List.dropWhile_cons_of_neg (by simp [hhead x rfl])

/-- Trimming leaves of a text what it is without the blanks around it. -/
theorem trimmed_iff : Trimmed cs core ↔ trim cs = core := by
  constructor
  · rintro ⟨⟨before, after, rfl, hblank⟩, hfirst, hlast⟩
    obtain ⟨hbefore, hafter⟩ := List.forall_mem_append.mp hblank
    cases core with
    | nil =>
      -- a text of blanks is dropped at once
      have hnone : (before ++ [] ++ after).dropWhile isBlank = [] :=
        List.dropWhile_eq_nil_iff.mpr (by simpa using hblank)
      rw [trim, hnone, List.reverse_nil, List.dropWhile_nil, List.reverse_nil]
    | cons c core =>
      have hleft : (before ++ (c :: core) ++ after).dropWhile isBlank = c :: core ++ after :=
        dropWhile_eq_iff.mpr ⟨⟨before, List.append_assoc .., hbefore⟩, hfirst⟩
      have hright : (c :: core ++ after).reverse.dropWhile isBlank = (c :: core).reverse := by
        refine dropWhile_eq_iff.mpr
          ⟨⟨after.reverse, List.reverse_append, by simpa using hafter⟩, ?_⟩
        rwa [List.head?_reverse]
      rw [trim, hleft, hright, List.reverse_reverse]
  · intro htrim
    -- what is dropped on either side stands around what is left
    obtain ⟨⟨before, hcs, hbefore⟩, hfirst⟩ :=
      dropWhile_eq_iff.mp (rfl : cs.dropWhile isBlank = cs.dropWhile isBlank)
    obtain ⟨⟨after, hrest, hafter⟩, hlast⟩ := dropWhile_eq_iff.mp (List.reverse_eq_iff.mp htrim)
    replace hrest : cs.dropWhile isBlank = core ++ after.reverse := by
      rw [List.reverse_eq_iff.mp hrest, List.reverse_append, List.reverse_reverse]
    rw [hrest] at hcs hfirst
    refine ⟨⟨before, after.reverse, ?_, ?_⟩, ?_, ?_⟩
    · rw [hcs, List.append_assoc]
    · exact List.forall_mem_append.mpr ⟨hbefore, by simpa using hafter⟩
    · cases core with
      | nil => simp
      | cons c core => exact hfirst
    · rwa [List.head?_reverse] at hlast

end Blanks

end MemorySentry.Text
