import MemorySentry.Proofs.Json.Tokens

/-!
# The texts of values

The text of a value whose numbers are whole is one line: it has no control character
(`not_isControl_write`). It also tells which value it is the text of. What follows the text of a
value can be told from it (`write_append_inj`), so values with the same text are the same
(`write_inj`).
-/

namespace MemorySentry.Json

open Reader (isControl)

/-- A number without a fraction or an exponent. -/
def Number.Whole : Number → Prop
  | .natural _ | .negative _ => True
  | .float _ => False

mutual

/-- A value whose numbers are whole, however deep it nests. -/
def Whole : Json → Prop
  | .number n => n.Whole
  | .array items => ItemsWhole items
  | .object fields => FieldsWhole fields
  | .null | .bool _ | .string _ => True

/-- All items of an array are whole. -/
def ItemsWhole : List Json → Prop
  | [] => True
  | v :: rest => Whole v ∧ ItemsWhole rest

/-- The values of all fields are whole. -/
def FieldsWhole : List (String × Json) → Prop
  | [] => True
  | (_, v) :: rest => Whole v ∧ FieldsWhole rest

end

/-! ### Control characters -/

theorem not_isControl_of_all {cs : List Char}
    (h : (cs.all fun x => !isControl (some x)) = true) : ∀ x ∈ cs, isControl (some x) = false := by
  intro x hx
  have hplain := List.all_eq_true.mp h x hx
  rwa [Bool.not_eq_true'] at hplain

theorem not_isControl_digitChar :
    ∀ d, d < 16 → isControl (some (Nat.digitChar d)) = false := by
  decide

theorem not_isControl_escapeChar (c : Char) :
    ∀ x ∈ escapeChar c, isControl (some x) = false := by
  unfold escapeChar
  -- the characters that have a letter
  iterate 7
    split
    · exact not_isControl_of_all rfl
  split
  · next hcontrol =>
    -- every other control character is written with digits
    have hdigits : ∀ x ∈ hexPair c.toNat, isControl (some x) = false := by
      simp only [hexPair, List.forall_mem_cons, List.not_mem_nil, false_implies, implies_true,
        and_true]
      exact ⟨not_isControl_digitChar _ (by omega), not_isControl_digitChar _ (by omega)⟩
    exact List.forall_mem_append.mpr ⟨not_isControl_of_all rfl, hdigits⟩
  · next hcontrol =>
    exact List.forall_mem_singleton.mpr (decide_eq_false hcontrol)

/-- A quotation has no control characters, as they are all escaped. -/
theorem not_isControl_quote (t : String) : ∀ x ∈ quote t, isControl (some x) = false := by
  have hescape : ∀ cs, ∀ x ∈ escape cs, isControl (some x) = false := by
    intro cs
    induction cs with
    | nil => exact fun x hx => absurd hx List.not_mem_nil
    | cons c cs ih => exact List.forall_mem_append.mpr ⟨not_isControl_escapeChar c, ih⟩
  exact List.forall_mem_append.mpr
    ⟨List.forall_mem_cons.mpr ⟨by decide, hescape _⟩, not_isControl_of_all rfl⟩

theorem not_isControl_number {n : Number} (h : n.Whole) :
    ∀ x ∈ n.write, isControl (some x) = false := by
  have hdigits : ∀ n, ∀ x ∈ Nat.toDigits 10 n, isControl (some x) = false := by
    intro n x hx
    -- a digit is at least as great as zero
    have hdigit := Reader.isDigit_of_mem x hx
    simp only [Char.isDigit, Bool.and_eq_true, decide_eq_true_eq] at hdigit
    have hle : (48 : UInt32).toNat ≤ x.val.toNat := UInt32.le_iff_toNat_le.mp hdigit.1
    have hnum : (48 : UInt32).toNat = 48 := rfl
    have hlt : ¬ x.val.toNat < 0x20 := by omega
    exact decide_eq_false hlt
  cases n with
  | natural n => exact hdigits n
  | negative n => exact List.forall_mem_cons.mpr ⟨by decide, hdigits _⟩
  | float x => cases h

mutual

/-- The text of a value has no control character, and so it is one line. -/
theorem not_isControl_write {v : Json} (h : Whole v) :
    ∀ x ∈ v.write, isControl (some x) = false := by
  match v with
  | .null | .bool true | .bool false | .array [] | .object [] =>
    exact not_isControl_of_all rfl
  | .number n => exact not_isControl_number h
  | .string t => exact not_isControl_quote t
  | .array (v :: rest) =>
    exact List.forall_mem_append.mpr
      ⟨List.forall_mem_cons.mpr ⟨by decide, not_isControl_write h.1⟩, not_isControl_writeItems h.2⟩
  | .object ((key, v) :: rest) =>
    have hfirst : ∀ x ∈ ':' :: v.write, isControl (some x) = false :=
      List.forall_mem_cons.mpr ⟨by decide, not_isControl_write h.1⟩
    rw [write]
    exact List.forall_mem_append.mpr
      ⟨List.forall_mem_append.mpr
        ⟨List.forall_mem_cons.mpr ⟨by decide, not_isControl_quote key⟩, hfirst⟩,
        not_isControl_writeFields h.2⟩

theorem not_isControl_writeItems {items : List Json} (h : ItemsWhole items) :
    ∀ x ∈ writeItems items, isControl (some x) = false := by
  match items with
  | [] => exact not_isControl_of_all rfl
  | v :: rest =>
    exact List.forall_mem_append.mpr
      ⟨List.forall_mem_cons.mpr ⟨by decide, not_isControl_write h.1⟩, not_isControl_writeItems h.2⟩

theorem not_isControl_writeFields {fields : List (String × Json)} (h : FieldsWhole fields) :
    ∀ x ∈ writeFields fields, isControl (some x) = false := by
  match fields with
  | [] => exact not_isControl_of_all rfl
  | (key, v) :: rest =>
    have hfirst : ∀ x ∈ ':' :: v.write, isControl (some x) = false :=
      List.forall_mem_cons.mpr ⟨by decide, not_isControl_write h.1⟩
    rw [writeFields]
    exact List.forall_mem_append.mpr
      ⟨List.forall_mem_append.mpr
        ⟨List.forall_mem_cons.mpr ⟨by decide, not_isControl_quote key⟩, hfirst⟩,
        not_isControl_writeFields h.2⟩

end

/-! ### The first symbol -/

/-- What the text of a value starts with. -/
inductive Start where
  | null
  | truth
  | number
  | string
  | array
  | object
deriving DecidableEq

/-- What the text of a value with a head starts with. -/
def Head.start : Head → Start
  | .null => .null
  | .bool _ => .truth
  | .number _ => .number
  | .string _ => .string
  | .array => .array
  | .object => .object

/-- What a text starts with, by its first symbol. Digits and the minus sign start a number. -/
def startOf : Char → Start
  | 'n' => .null
  | 't' | 'f' => .truth
  | '"' => .string
  | '[' => .array
  | '\x7b' => .object
  | _ => .number

/-- The text of a value starts with a symbol that tells its sort and is neither white space nor a
closing bracket. -/
theorem exists_write_cons {v : Json} (h : Whole v) :
    ∃ c cs, v.write = c :: cs ∧ Reader.isSpace (some c) = false ∧ c ≠ ']' ∧
      startOf c = v.head.start := by
  have hdigit : ∀ d, d < 10 → Reader.isSpace (some (Nat.digitChar d)) = false ∧
      Nat.digitChar d ≠ ']' ∧ startOf (Nat.digitChar d) = .number := by
    decide
  cases v with
  | null => exact ⟨_, _, rfl, rfl, by decide, rfl⟩
  | bool b => cases b <;> exact ⟨_, _, rfl, rfl, by decide, rfl⟩
  | number n =>
    cases n with
    | natural n =>
      obtain ⟨d, cs, hd, -, hcs⟩ := Reader.exists_toDigits_cons n
      exact ⟨_, cs, hcs, hdigit d hd⟩
    | negative n => exact ⟨_, _, rfl, rfl, by decide, rfl⟩
    | float x => cases h
  | string t => exact ⟨_, _, rfl, rfl, by decide, rfl⟩
  | array items => cases items <;> exact ⟨_, _, rfl, rfl, by decide, rfl⟩
  | object fields =>
    rcases fields with _ | ⟨⟨k, v⟩, rest⟩ <;> exact ⟨_, _, rfl, rfl, by decide, rfl⟩

theorem closing_writeItems (items : List Json) (s : Input) :
    Closing ((writeItems items).map some ++ s) := by
  cases items with
  | nil => exact closing_cons (.inr (.inl rfl))
  | cons v rest => exact closing_cons (.inl rfl)

theorem closing_writeFields (fields : List (String × Json)) (s : Input) :
    Closing ((writeFields fields).map some ++ s) := by
  cases fields with
  | nil => exact closing_cons (.inr (.inr rfl))
  | cons f rest => exact closing_cons (.inl rfl)

/-! ### Telling values apart -/

section

variable {s s' : List Char}

/-- Texts are the same if they are the same to a reader. -/
theorem map_some_inj (h : s.map some = s'.map some) : s = s' :=
  (List.map_inj_right fun _ _ => Option.some.inj).mp h

/-- A quoted string ends at its quote, whatever comes after it. -/
theorem quote_append_inj {t t' : String} (h : quote t ++ s = quote t' ++ s') :
    t = t' ∧ s = s' := by
  have hread : ∀ (t : String) (s : List Char),
      Reader.readString (((quote t ++ s).drop 1).map some) = .ok (t, s.map some) := by
    intro t s
    simpa [quote] using Reader.readString_quote t (s.map some)
  have hsame := hread t s
  rw [h, hread t' s', Except.ok.injEq, Prod.mk.injEq] at hsame
  exact ⟨hsame.1.symm, map_some_inj hsame.2.symm⟩

/-- A number ends at what closes a value. -/
theorem digits_append_inj {n n' : Nat} (hs : Closing (s.map some)) (hs' : Closing (s'.map some))
    (h : Nat.toDigits 10 n ++ s = Nat.toDigits 10 n' ++ s') : n = n' ∧ s = s' := by
  have hread : ∀ (n : Nat) (s : List Char), Closing (s.map some) →
      Reader.readDigits ((Nat.toDigits 10 n ++ s).map some) =
        ((Nat.toDigits 10 n).map Reader.digitOf, s.map some) := by
    intro n s hs
    rw [List.map_append]
    exact Reader.readDigits_append Reader.isDigit_of_mem hs
  have hsame := hread n s hs
  rw [h, hread n' s' hs', Prod.mk.injEq] at hsame
  obtain ⟨hdigits, hrest⟩ := hsame
  have hvalue := congrArg Numeral.natOf hdigits
  rw [Reader.natOf_digits, Reader.natOf_digits] at hvalue
  exact ⟨hvalue.symm, map_some_inj hrest.symm⟩

/-- Where nothing goes on with a number, it can be told from its text. -/
theorem number_append_inj {n n' : Number} (hn : n.Whole) (hn' : n'.Whole)
    (hs : Closing (s.map some)) (hs' : Closing (s'.map some))
    (h : n.write ++ s = n'.write ++ s') : n = n' ∧ s = s' := by
  -- a number with a sign and one without differ in their first symbol
  have hsign : ∀ (n : Nat) (s s' : List Char), Nat.toDigits 10 n ++ s ≠ '-' :: s' := by
    intro n s s' heq
    obtain ⟨d, cs, hd, -, hcs⟩ := Reader.exists_toDigits_cons n
    have hne : ∀ d, d < 10 → Nat.digitChar d ≠ '-' := by decide
    rw [hcs, List.cons_append, List.cons.injEq] at heq
    exact hne d hd heq.1
  cases n with
  | natural n =>
    cases n' with
    | natural n' =>
      obtain ⟨rfl, hrest⟩ := digits_append_inj hs hs' h
      exact ⟨rfl, hrest⟩
    | negative n' => exact absurd h (hsign _ _ _)
    | float x => cases hn'
  | negative n =>
    cases n' with
    | natural n' => exact absurd h.symm (hsign _ _ _)
    | negative n' =>
      obtain ⟨heq, hrest⟩ := digits_append_inj hs hs' (List.cons.inj h).2
      exact ⟨congrArg Number.negative (Nat.succ.inj heq), hrest⟩
    | float x => cases hn'
  | float x => cases hn

/-- Between its brackets an array has the items that would stand there after another one, without
the comma before the first. -/
theorem writeItems_of_array {items items' : List Json} (hitems : ItemsWhole items)
    (hitems' : ItemsWhole items')
    (h : (Json.array items).write ++ s = (Json.array items').write ++ s') :
    writeItems items ++ s = writeItems items' ++ s' := by
  -- no value starts with the bracket that closes an array without items
  have hclose : ∀ {v : Json} {t s : List Char}, Whole v → ']' :: s ≠ v.write ++ t := by
    intro v t s hv heq
    obtain ⟨c, cs, hcs, -, hc, -⟩ := exists_write_cons hv
    rw [hcs, List.cons_append, List.cons.injEq] at heq
    exact hc heq.1.symm
  match items, items' with
  | [], [] => exact (List.cons.inj h).2
  | [], v' :: rest' =>
    rw [write, write, List.cons_append, List.cons_append, List.append_assoc] at h
    exact absurd (List.cons.inj h).2 (hclose hitems'.1)
  | v :: rest, [] =>
    rw [write, write, List.cons_append, List.cons_append, List.append_assoc] at h
    exact absurd (List.cons.inj h).2.symm (hclose hitems.1)
  | v :: rest, v' :: rest' => exact congrArg (',' :: ·) (List.cons.inj h).2

/-- Between its braces an object has the fields that would stand there after another one, without
the comma before the first. -/
theorem writeFields_of_object {fields fields' : List (String × Json)}
    (h : (Json.object fields).write ++ s = (Json.object fields').write ++ s') :
    writeFields fields ++ s = writeFields fields' ++ s' := by
  match fields, fields' with
  | [], [] => exact (List.cons.inj h).2
  | [], (key', v') :: rest' => cases (List.cons.inj (List.cons.inj h).2).1
  | (key, v) :: rest, [] => cases (List.cons.inj (List.cons.inj h).2).1
  | (key, v) :: rest, (key', v') :: rest' => exact congrArg (',' :: ·) (List.cons.inj h).2

end

mutual

/-- The text of a value tells the value, and where it ends. -/
theorem write_append_inj {v v' : Json} (hv : Whole v) (hv' : Whole v') {s s' : List Char}
    (hs : Closing (s.map some)) (hs' : Closing (s'.map some))
    (h : v.write ++ s = v'.write ++ s') : v = v' ∧ s = s' := by
  -- the first symbol tells the sort of the value
  have hstart : v.head.start = v'.head.start := by
    obtain ⟨c, cs, hcs, -, -, hc⟩ := exists_write_cons hv
    obtain ⟨c', cs', hcs', -, -, hc'⟩ := exists_write_cons hv'
    rw [hcs, hcs', List.cons_append, List.cons_append, List.cons.injEq] at h
    rw [← hc, ← hc', h.1]
  match v with
  | .null =>
    cases v' with
    | null => exact ⟨rfl, List.append_cancel_left h⟩
    | _ => cases hstart
  | .bool b =>
    cases v' with
    | bool b' =>
      cases b <;> cases b'
      · exact ⟨rfl, List.append_cancel_left h⟩
      · cases (List.cons.inj h).1
      · cases (List.cons.inj h).1
      · exact ⟨rfl, List.append_cancel_left h⟩
    | _ => cases hstart
  | .number n =>
    cases v' with
    | number n' =>
      obtain ⟨rfl, hrest⟩ := number_append_inj hv hv' hs hs' h
      exact ⟨rfl, hrest⟩
    | _ => cases hstart
  | .string t =>
    cases v' with
    | string t' =>
      obtain ⟨rfl, hrest⟩ := quote_append_inj h
      exact ⟨rfl, hrest⟩
    | _ => cases hstart
  | .array items =>
    cases v' with
    | array items' =>
      obtain ⟨rfl, hrest⟩ := writeItems_append_inj hv hv' (writeItems_of_array hv hv' h)
      exact ⟨rfl, hrest⟩
    | _ => cases hstart
  | .object fields =>
    cases v' with
    | object fields' =>
      obtain ⟨rfl, hrest⟩ := writeFields_append_inj hv hv' (writeFields_of_object h)
      exact ⟨rfl, hrest⟩
    | _ => cases hstart

/-- Items can be told from their text, whatever follows it. -/
theorem writeItems_append_inj {items items' : List Json} (h : ItemsWhole items)
    (h' : ItemsWhole items') {s s' : List Char}
    (heq : writeItems items ++ s = writeItems items' ++ s') : items = items' ∧ s = s' := by
  match items, items' with
  | [], [] => exact ⟨rfl, (List.cons.inj heq).2⟩
  | [], v' :: rest' => cases (List.cons.inj heq).1
  | v :: rest, [] => cases (List.cons.inj heq).1
  | v :: rest, v' :: rest' =>
    have hclosing : ∀ rest s, Closing ((writeItems rest ++ s).map some) := fun rest s => by
      rw [List.map_append]
      exact closing_writeItems rest _
    rw [writeItems, writeItems, List.cons_append, List.cons_append, List.append_assoc,
      List.append_assoc] at heq
    obtain ⟨rfl, htail⟩ :=
      write_append_inj h.1 h'.1 (hclosing _ _) (hclosing _ _) (List.cons.inj heq).2
    obtain ⟨rfl, hrest⟩ := writeItems_append_inj h.2 h'.2 htail
    exact ⟨rfl, hrest⟩

/-- Fields can be told from their text, whatever follows it. -/
theorem writeFields_append_inj {fields fields' : List (String × Json)} (h : FieldsWhole fields)
    (h' : FieldsWhole fields') {s s' : List Char}
    (heq : writeFields fields ++ s = writeFields fields' ++ s') : fields = fields' ∧ s = s' := by
  match fields, fields' with
  | [], [] => exact ⟨rfl, (List.cons.inj heq).2⟩
  | [], (key', v') :: rest' => cases (List.cons.inj heq).1
  | (key, v) :: rest, [] => cases (List.cons.inj heq).1
  | (key, v) :: rest, (key', v') :: rest' =>
    have hclosing : ∀ rest s, Closing ((writeFields rest ++ s).map some) := fun rest s => by
      rw [List.map_append]
      exact closing_writeFields rest _
    simp only [writeFields, List.cons_append, List.append_assoc, List.cons.injEq, true_and] at heq
    -- the key, the colon, the value, and the fields after it
    obtain ⟨rfl, hcolon⟩ := quote_append_inj heq
    obtain ⟨rfl, htail⟩ :=
      write_append_inj h.1 h'.1 (hclosing _ _) (hclosing _ _) (List.cons.inj hcolon).2
    obtain ⟨rfl, hrest⟩ := writeFields_append_inj h.2 h'.2 htail
    exact ⟨rfl, hrest⟩

end

/-- Values with the same text are the same. -/
theorem write_inj {v v' : Json} (hv : Whole v) (hv' : Whole v') (h : v.write = v'.write) :
    v = v' := by
  have hclosing : Closing (([] : List Char).map some) := closing_nil
  have hnothing : v.write ++ [] = v'.write ++ [] := by rw [h]
  exact (write_append_inj hv hv' hclosing hclosing hnothing).1

end MemorySentry.Json
