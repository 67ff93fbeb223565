import MemorySentry.Proofs.Json.Literals
import MemorySentry.Proofs.Text.Numerals
import MemorySentry.Trace.Decode

/-!
# Addresses in a trace

An address is written as a number, or as a text with decimal digits or, after `0x`, hexadecimal
ones. All ways to write it mean the same, and nothing else is an address.

- `AddressText`: the texts of an address. They are what is understood (`address?_eq_some_iff`).
- `Denotes`: a document means an address. Of the numbers only the natural ones that fit a word do.
-/

namespace MemorySentry.Trace

open Json

/-- A text means a number: decimal digits, or hexadecimal ones after `0x` or `0X`. -/
inductive AddressText : List Char → Nat → Prop
  /-- The digits are decimal. -/
  | decimal {cs : List Char} {n : Nat} (h : Text.Numeral 10 cs n) : AddressText cs n
  /-- The digits are hexadecimal. -/
  | hexadecimal {x : Char} {cs : List Char} {n : Nat} (hx : x = 'x' ∨ x = 'X')
      (h : Text.Numeral 16 cs n) : AddressText ('0' :: x :: cs) n

/-- A document that holds one value means an address. -/
def Denotes (text : List Char) (a : Address) : Prop :=
  ∃ v, read (text.map some) = .ok v ∧ decodeAddress v = .ok a

variable {a : Address} {s : String}

/-- The mark of hexadecimal digits is no decimal digit. -/
theorem not_numeral_mark {x : Char} (hx : x = 'x' ∨ x = 'X') {cs : List Char} {n : Nat} :
    ¬ Text.Numeral 10 ('0' :: x :: cs) n := by
  intro h
  cases h with
  | unsigned hsome hspells =>
    obtain ⟨_, rest, -, -, hspells⟩ := Text.spells_cons.mp hspells
    obtain ⟨d, _, -, ⟨hd, hlt⟩, -⟩ := Text.spells_cons.mp hspells
    have hmark : ∀ d < 10, 'x' ≠ Nat.digitChar d := by decide
    obtain rfl | rfl := hx <;> exact hmark d hlt hd

/-- After the mark of hexadecimal numbers a text is a hexadecimal numeral. -/
theorem addressText_mark {x : Char} (hx : x = 'x' ∨ x = 'X') {cs : List Char} {n : Nat} :
    AddressText ('0' :: x :: cs) n ↔ Text.Numeral 16 cs n := by
  constructor
  · intro h
    cases h with
    | decimal h => exact absurd h (not_numeral_mark hx)
    | hexadecimal _ h => exact h
  · exact .hexadecimal hx

/-- A number that fits a word is the address with its value. -/
theorem numeralUpTo?_address {base : Nat} (hbase : base ≤ 16) (cs : List Char) :
    (Text.numeralUpTo? base (UInt64.size - 1) cs).map UInt64.ofNat = some a ↔
      Text.Numeral base cs a.toNat := by
  have hword {n : Nat} : n ≤ UInt64.size - 1 ∧ UInt64.ofNat n = a ↔ a.toNat = n := by
    rw [← Word.ofNat?_eq_some_iff, Word.ofNat?, Option.ite_none_right_eq_some, Option.some.injEq,
      Nat.le_sub_one_iff_lt (by decide)]
  simp only [Option.map_eq_some_iff, Text.numeralUpTo?_eq_some_iff hbase, and_assoc, hword]
  exact exists_eq_right'

/-- A text is understood exactly if it is an address. -/
theorem address?_eq_some_iff : address? s = some a ↔ AddressText s.toList a.toNat := by
  rw [address?]
  split
  · next cs hcs => rw [hcs, addressText_mark (.inl rfl), numeralUpTo?_address (by decide)]
  · next cs hcs => rw [hcs, addressText_mark (.inr rfl), numeralUpTo?_address (by decide)]
  · next hsmall hcapital =>
    -- without the mark all digits are decimal
    rw [numeralUpTo?_address (by decide)]
    refine ⟨.decimal, fun h => ?_⟩
    generalize s.toList = cs at *
    cases h with
    | decimal h => exact h
    | @hexadecimal x cs n hx h =>
      obtain rfl | rfl := hx
      · exact absurd rfl (hsmall cs)
      · exact absurd rfl (hcapital cs)

/-- A value means an address if it is the number or a text of it. -/
theorem decodeAddress_eq_ok_iff {v : Json} :
    decodeAddress v = .ok a ↔
      v = .nat a.toNat ∨ ∃ s, v = .string s ∧ AddressText s.toList a.toNat := by
  cases v with
  | number n =>
    cases n with
    | natural n =>
      have hnat : decodeAddress (.number (.natural n)) = .ok a ↔ Word.ofNat? n = some a := by
        rw [decodeAddress]
        cases Word.ofNat? n <;> simp
      rw [hnat, Word.ofNat?_eq_some_iff]
      simp [nat, eq_comm]
    | negative n | float x => simp [decodeAddress, nat]
  | string s =>
    have htext : decodeAddress (.string s) = .ok a ↔ address? s = some a := by
      rw [decodeAddress]
      cases address? s <;> simp
    rw [htext, address?_eq_some_iff]
    simp [nat]
  | null | bool b | array items | object fields => simp [decodeAddress, nat]

/-- A text that is no address is named by the error. -/
theorem decodeAddress_string_eq_error_iff :
    decodeAddress (.string s) = .error (.invalidAddress s) ↔
      ∀ n < UInt64.size, ¬ AddressText s.toList n := by
  have htext : decodeAddress (.string s) = .error (.invalidAddress s) ↔ address? s = none := by
    rw [decodeAddress]
    cases address? s <;> simp
  rw [htext, Option.eq_none_iff_forall_ne_some]
  constructor
  · intro h n hn haddress
    refine h (UInt64.ofNat n) (address?_eq_some_iff.mpr ?_)
    rwa [UInt64.toNat_ofNat_of_lt' hn]
  · exact fun h a haddress => h a.toNat a.toNat_lt_size (address?_eq_some_iff.mp haddress)

/-! ### Documents -/

/-- A written value denotes the address that it is decoded to. -/
theorem denotes_write {v : Json} (h : Readable mostLevels v) :
    Denotes v.write a ↔ decodeAddress v = .ok a := by
  simp [Denotes, read_write h]

/-- A text between quotes means what it says. -/
theorem denotes_quote : Denotes (quote s) a ↔ AddressText s.toList a.toNat := by
  have hwrite : quote s = (Json.string s).write := by rw [write]
  rw [hwrite, denotes_write (readable_string _ s), decodeAddress_eq_ok_iff]
  simp [nat]

/-- A quoted text denotes an address exactly if it is a numeral for it. -/
theorem denotes_quote_ofList {cs : List Char} :
    Denotes (quote (String.ofList cs)) a ↔ AddressText cs a.toNat := by
  rw [denotes_quote, String.toList_ofList]

/-- Of the numbers only those are addresses that are digits alone and fit a word. -/
theorem denotes_number {negative : Bool} {n : Numeral} {text : List Char}
    (h : NumberText n negative text) :
    Denotes text a ↔ negative = false ∧ n.fraction = none ∧ n.exponent = none ∧
      Nat.ofDigits 10 n.whole.reverse = a.toNat := by
  have hvalue : Denotes text a ↔ n.value? negative = some (.natural a.toNat) := by
    rw [Denotes, read_number h]
    cases n.value? negative <;> simp [decodeAddress_eq_ok_iff, nat]
  rw [hvalue, Numeral.value?_eq_natural_iff]
  simp [a.toNat_lt_size]

/-- All ways to write an address mean it, and nothing else does: it is a natural number, or a text
of decimal digits or of hexadecimal ones after `0x`, which may start with a plus sign and with zeros
and whose exact value is the address. A text that is no address is named by the error. -/
theorem decodeAddress_grammar (a : Address) :
    (Denotes (Nat.toDigits 10 a.toNat) a ∧
      (∀ zeros, Denotes (quote (String.ofList
        (List.replicate zeros '0' ++ Nat.toDigits 10 a.toNat))) a) ∧
      (∀ x zeros digits, x = 'x' ∨ x = 'X' → Text.lower digits = Nat.toDigits 16 a.toNat →
        Denotes (quote (String.ofList ('0' :: x :: (List.replicate zeros '0' ++ digits)))) a)) ∧
    (∀ s, Denotes (quote s) a ↔ AddressText s.toList a.toNat) ∧
    (∀ s, decodeAddress (.string s) = .error (.invalidAddress s) ↔
      ∀ n < UInt64.size, ¬ AddressText s.toList n) ∧
    (∀ negative n text, NumberText n negative text →
      (Denotes text a ↔ negative = false ∧ n.fraction = none ∧ n.exponent = none ∧
        Nat.ofDigits 10 n.whole.reverse = a.toNat)) ∧
    (∀ v, decodeAddress v = .ok a ↔
      v = .nat a.toNat ∨ ∃ s, v = .string s ∧ AddressText s.toList a.toNat) := by
  refine ⟨⟨?_, fun zeros => ?_, fun x zeros digits hx hdigits => ?_⟩, fun s => denotes_quote,
    fun s => decodeAddress_string_eq_error_iff, fun negative n text h => denotes_number h,
    fun v => decodeAddress_eq_ok_iff⟩
  · -- a number
    have hwrite : Nat.toDigits 10 a.toNat = (Json.nat a.toNat).write := by
      rw [nat, write, Number.write]
    rw [hwrite, denotes_write (readable_nat _ a.toNat_lt_size), decodeAddress_eq_ok_iff]
    exact .inl rfl
  · -- a text of decimal digits
    have hlower := Text.lower_toDigits (by decide : 1 < 10) (by decide) a.toNat
    exact denotes_quote_ofList.mpr (.decimal (Text.numeral_of_toDigits (by decide) zeros hlower))
  · -- a text of hexadecimal digits behind their mark
    exact denotes_quote_ofList.mpr
      (.hexadecimal hx (Text.numeral_of_toDigits (by decide) zeros hdigits))

/-- Letters of both cases and zeros in front make no difference, and a point does. -/
theorem decodeAddress_grammar_255 :
    ('X' = 'x' ∨ 'X' = 'X') ∧ Text.lower ['f', 'F'] = Nat.toDigits 16 (255 : Address).toNat ∧
      Denotes (quote "0X00fF") 255 ∧
      NumberText ⟨[2, 5, 5], some [0], none⟩ false ['2', '5', '5', '.', '0'] ∧
      ¬ Denotes ['2', '5', '5', '.', '0'] 255 := by
  have hx : 'X' = 'x' ∨ 'X' = 'X' := .inr rfl
  have hdigits : Text.lower ['f', 'F'] = Nat.toDigits 16 (255 : Address).toNat := by decide
  have hpoint : NumberText ⟨[2, 5, 5], some [0], none⟩ false ['2', '5', '5', '.', '0'] :=
    have hfraction : Numeral.FractionText (some [0]) ['.', '0'] :=
      .present (⟨by decide, by decide⟩ : SomeDigits [0])
    .unsigned (Numeral.UnsignedText.intro (n := ⟨[2, 5, 5], some [0], none⟩)
      ⟨by decide, by decide⟩ (by decide) hfraction .absent)
  obtain ⟨⟨-, -, hhex⟩, -, -, hnumber, -⟩ := decodeAddress_grammar 255
  refine ⟨hx, hdigits, hhex 'X' 2 ['f', 'F'] hx hdigits, hpoint, fun h => ?_⟩
  cases ((hnumber _ _ _ hpoint).mp h).2.1

end MemorySentry.Trace
