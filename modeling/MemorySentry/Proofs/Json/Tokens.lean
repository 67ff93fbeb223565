import MemorySentry.Json.Reader.Value

/-!
# Reading numbers and strings that were written

A whole number that fits 64 bits is read back from its digits (`readNumber_natural`), if what comes
after them closes the value, and a string from its escaped characters (`readString_quote`), whatever
comes after the quote.
-/

namespace MemorySentry.Json

/-- What a text goes on with after a value inside an array or an object. -/
def Closing (s : Input) : Prop :=
  ∀ x ∈ s.head?, x = some ',' ∨ x = some ']' ∨ x = some '\x7d'

theorem closing_nil : Closing [] := fun x hx => by cases hx

theorem closing_cons {c : Char} {s : Input} (h : c = ',' ∨ c = ']' ∨ c = '\x7d') :
    Closing (some c :: s) := fun x hx => by
  cases hx
  simpa using h

namespace Reader

/-! ### Digits -/

/-- The value of a digit. -/
def digitOf (c : Char) : Nat :=
  c.toNat - '0'.toNat

theorem digit?_of_isDigit {c : Char} (h : c.isDigit = true) :
    digit? (some c) = some (digitOf c) := by
  have hrange : '0' ≤ c ∧ c ≤ '9' := by
    simpa [Char.isDigit, Char.le_def] using h
  simp only [digit?, if_pos hrange, digitOf]

theorem digit?_of_closing {s : Input} (h : Closing s) {x : Option Char} {rest : Input}
    (hs : s = x :: rest) : digit? x = none := by
  rcases h x (by rw [hs]; rfl) with rfl | rfl | rfl <;> rfl

/-- All figures are read where nothing goes on with them. -/
theorem readDigits_append {cs : List Char} (hcs : ∀ c ∈ cs, c.isDigit = true) {s : Input}
    (hs : Closing s) : readDigits (cs.map some ++ s) = (cs.map digitOf, s) := by
  induction cs with
  | nil =>
    cases s with
    | nil => rfl
    | cons x rest => simp [readDigits, digit?_of_closing hs rfl]
  | cons c cs ih =>
    obtain ⟨hc, hrest⟩ := List.forall_mem_cons.mp hcs
    simp [readDigits, digit?_of_isDigit hc, ih hrest]

theorem digitOf_digitChar {d : Nat} (hd : d < 10) : digitOf (Nat.digitChar d) = d :=
  Nat.toNat_digitChar_sub_48_of_lt_ten hd

theorem isDigit_of_mem {n : Nat} : ∀ c ∈ Nat.toDigits 10 n, c.isDigit = true := fun c hc =>
  Nat.isDigit_of_mem_toDigits (by decide) (by decide) hc

/-- The figures of a number stand for it. -/
theorem natOf_digits (n : Nat) : Numeral.natOf ((Nat.toDigits 10 n).map digitOf) = n := by
  have hfold : Numeral.natOf ((Nat.toDigits 10 n).map digitOf) =
      Nat.ofDigitChars 10 (Nat.toDigits 10 n) 0 := by
    rw [Numeral.natOf, List.foldl_map, Nat.ofDigitChars_eq_foldl]
    simp only [digitOf, Nat.mul_comm]
  rw [hfold, Nat.ofDigitChars_ten_toDigits]

/-- The digits of a number other than zero do not start with a zero. -/
theorem exists_toDigits_cons (n : Nat) :
    ∃ d cs, d < 10 ∧ (0 < n → d ≠ 0) ∧ Nat.toDigits 10 n = Nat.digitChar d :: cs := by
  induction n using Nat.base_induction 10 (by decide) with
  | single m hm => exact ⟨m, [], hm, Nat.ne_of_gt, Nat.toDigits_of_lt_base hm⟩
  | digit m k hk hm ih =>
    obtain ⟨d, cs, hd, hne, hcs⟩ := ih
    refine ⟨d, cs ++ Nat.toDigits 10 k, hd, fun _ => hne hm, ?_⟩
    rw [← Nat.toDigits_append_toDigits (by decide) hm hk, hcs, List.cons_append]

theorem readWhole_digits {n : Nat} {s : Input} (hs : Closing s) :
    readWhole ((Nat.toDigits 10 n).map some ++ s) = .ok ((Nat.toDigits 10 n).map digitOf, s) := by
  unfold readWhole readSomeDigits
  rw [readDigits_append isDigit_of_mem hs]
  rcases Nat.eq_zero_or_pos n with rfl | hn
  · rfl
  · obtain ⟨d, cs, hd, hne, hcs⟩ := exists_toDigits_cons n
    rw [hcs, List.map_cons, digitOf_digitChar hd]
    cases d with
    | zero => exact absurd rfl (hne hn)
    | succ d => rfl

/-- A whole number is read back from its digits. -/
theorem readNumeral_digits {n : Nat} {s : Input} (hs : Closing s) :
    readNumeral ((Nat.toDigits 10 n).map some ++ s) =
      .ok ({ whole := (Nat.toDigits 10 n).map digitOf }, s) := by
  -- what closes a value is neither a point nor the mark of an exponent
  have hfraction : readFraction s = .ok (none, s) := by
    unfold readFraction
    split
    · next rest =>
      rcases hs _ rfl with h | h | h <;> cases h
    · rfl
  have hexponent : readExponent s = .ok (none, s) := by
    unfold readExponent
    split
    · rfl
    · next x rest =>
      rcases hs x rfl with rfl | rfl | rfl <;> rfl
  simp only [readNumeral, readWhole_digits hs, bind, Except.bind, hfraction, hexponent]
  rfl

/-- A natural number of at most 64 bits is read back from its digits. -/
theorem readNumber_natural {n : Nat} (hn : n ≤ Numeral.mostInteger) {s : Input} (hs : Closing s) :
    readNumber false ((Number.natural n).write.map some ++ s) = .ok (.natural n, s) := by
  have hvalue : Numeral.value? false { whole := (Nat.toDigits 10 n).map digitOf } =
      some (.natural n) := by
    simp [Numeral.value?, natOf_digits, Nat.not_lt.mpr hn]
  simp only [Number.write, readNumber, readNumeral_digits hs, bind, Except.bind, hvalue]
  rfl

/-- A negative number of at most 64 bits is read back from its digits. -/
theorem readNumber_negative {n : Nat} (hn : n < 1 <<< 63) {s : Input} (hs : Closing s) :
    readNumber true ((Nat.toDigits 10 (n + 1)).map some ++ s) = .ok (.negative n, s) := by
  have hfits : n + 1 ≤ Numeral.mostInteger := Nat.le_trans hn (by decide)
  have hvalue : Numeral.value? true { whole := (Nat.toDigits 10 (n + 1)).map digitOf } =
      some (.negative n) := by
    have hleast : 0 < n + 1 ∧ n + 1 ≤ 1 <<< 63 := ⟨Nat.succ_pos n, hn⟩
    simp only [Numeral.value?, natOf_digits, Nat.not_lt.mpr hfits, if_pos hleast]
    rfl
  simp only [readNumber, readNumeral_digits hs, bind, Except.bind, hvalue]
  rfl

/-! ### Strings -/

theorem hexDigit?_digitChar :
    ∀ d, d < 16 → hexDigit? (some (Nat.digitChar d)) = some d := by
  decide

theorem symbolSize_digitChar : ∀ d, d < 16 → symbolSize (some (Nat.digitChar d)) = 1 := by
  decide

/-- A UTF-16 unit is read back from its four digits. -/
theorem readUnit_digits {a b c d : Nat} (ha : a < 16) (hb : b < 16) (hc : c < 16) (hd : d < 16)
    (s : Input) :
    readUnit ([a, b, c, d].map (fun n => some (Nat.digitChar n)) ++ s) =
      .ok (((a * 16 + b) * 16 + c) * 16 + d, s) := by
  simp [readUnit, hasBytes, symbolSize_digitChar, hexDigit?_digitChar, ha, hb, hc, hd]

/-- A control character is read back from its number. -/
theorem readEscape_hexPair {c : Char} (hc : c.toNat < 32) (s : Input) :
    readEscape ((['u', '0', '0'] ++ hexPair c.toNat).map some ++ s) = .ok (c, s) := by
  have hunit := readUnit_digits (a := 0) (b := 0) (c := c.toNat / 16) (d := c.toNat % 16)
    (by decide) (by decide) (by omega) (by omega) s
  have hvalue : ((0 * 16 + 0) * 16 + c.toNat / 16) * 16 + c.toNat % 16 = c.toNat := by omega
  -- a number this small is no half of a surrogate pair, so no second unit is asked for
  have htrailing : isTrailing c.toNat = false := by
    simp only [isTrailing, Bool.and_eq_false_iff, decide_eq_false_iff_not]
    omega
  have hleading : isLeading c.toNat = false := by
    simp only [isLeading, Bool.and_eq_false_iff, decide_eq_false_iff_not]
    omega
  rw [hvalue] at hunit
  have hunicode : readUnicode ([0, 0, c.toNat / 16, c.toNat % 16].map
      (fun n => some (Nat.digitChar n)) ++ s) = .ok (c, s) := by
    simp only [readUnicode, hunit, bind, Except.bind, htrailing, hleading, Bool.false_eq_true,
      if_false, Char.ofNat_toNat]
    rfl
  exact hunicode

/-- A character of a string is read back from its escaped form. -/
theorem readCharsUpTo_escapeChar (c : Char) (x : Option Char) (bound s : Input) :
    readCharsUpTo true (x :: bound) ((escapeChar c).map some ++ s) =
      (readCharsUpTo true bound s).map fun r => (c :: r.1, r.2) := by
  -- a letter after a backslash stands for the same character
  have hletter : ∀ {letter : Char}, escaped? (some letter) = some c →
      readCharsUpTo true (x :: bound) (['\\', letter].map some ++ s) =
        (readCharsUpTo true bound s).map fun r => (c :: r.1, r.2) := fun {letter} hescaped => by
    simp only [List.map_cons, List.map_nil, List.cons_append, List.nil_append, readCharsUpTo,
      readEscape, hescaped]
    rfl
  unfold escapeChar
  -- the characters that have a letter, the other control characters, and all that stand as they are
  iterate 7
    split
    · next h => exact hletter (by subst h; rfl)
  split
  · next hcontrol =>
    have hescape := readEscape_hexPair hcontrol s
    have hstart : (['\\', 'u', '0', '0'] ++ hexPair c.toNat).map some ++ s =
        some '\\' :: ((['u', '0', '0'] ++ hexPair c.toNat).map some ++ s) := rfl
    rw [hstart, readCharsUpTo, hescape]
    rfl
  · next hquote hbackslash _ _ _ _ _ hplain =>
    have hplain' : isControl (some c) = false := decide_eq_false hplain
    rw [List.map_singleton, List.singleton_append, readCharsUpTo, hplain']
    · rfl
    · exact hquote
    · exact hbackslash

/-- A text is read back from its escaped characters up to the closing mark. -/
theorem readCharsUpTo_escape (cs : List Char) (bound s : Input)
    (hbound : cs.length < bound.length) :
    readCharsUpTo true bound ((escape cs).map some ++ some '"' :: s) = .ok (cs, s) := by
  induction cs generalizing bound with
  | nil =>
    cases bound with
    | nil => cases hbound
    | cons x bound => rfl
  | cons c cs ih =>
    cases bound with
    | nil => cases hbound
    | cons x bound =>
      rw [escape, List.map_append, List.append_assoc, readCharsUpTo_escapeChar,
        ih bound (Nat.lt_of_succ_lt_succ hbound)]
      rfl

theorem length_le_length_escape (cs : List Char) : cs.length ≤ (escape cs).length := by
  induction cs with
  | nil => exact Nat.le_refl 0
  | cons c cs ih =>
    have hchar : 0 < (escapeChar c).length := by
      unfold escapeChar
      repeat' split
      all_goals exact Nat.zero_lt_succ _
    rw [escape, List.length_append, List.length_cons]
    omega

/-- A string is read back from between its quotes. -/
theorem readString_quote (t : String) (s : Input) :
    readString ((escape t.toList).map some ++ some '"' :: s) = .ok (t, s) := by
  -- the text to be read bounds the characters that can be in it
  have hlength := length_le_length_escape t.toList
  have hchars := readCharsUpTo_escape t.toList ((escape t.toList).map some ++ some '"' :: s) s (by
    rw [List.length_append, List.length_map, List.length_cons]
    omega)
  simp only [readString, hchars, bind, Except.bind, String.ofList_toList]
  rfl

end Reader

end MemorySentry.Json
