import MemorySentry.Proofs.Json.Texts

/-!
# Values that are read back from their text

A value whose numbers are whole and of at most 64 bits is read back from its text, unless it nests
too deep (`read_write`). Its text has no line break (`newline_not_mem_write`), so it is one line of
a log.
-/

namespace MemorySentry.Json

/-- A number that is kept exactly. -/
def Number.Exact : Number → Prop
  | .natural n => n ≤ Numeral.mostInteger
  | .negative n => n < 1 <<< 63
  | .float _ => False

mutual

/-- A value with exact numbers that nests at most `levels` deep. -/
def Readable : (levels : Nat) → Json → Prop
  | _, .number n => n.Exact
  | 0, .array _ | 0, .object _ => False
  | levels + 1, .array items => ItemsReadable levels items
  | levels + 1, .object fields => FieldsReadable levels fields
  | _, .null | _, .bool _ | _, .string _ => True

/-- All items of an array are readable. -/
def ItemsReadable (levels : Nat) : List Json → Prop
  | [] => True
  | v :: rest => Readable levels v ∧ ItemsReadable levels rest

/-- The values of all fields are readable. -/
def FieldsReadable (levels : Nat) : List (String × Json) → Prop
  | [] => True
  | (_, v) :: rest => Readable levels v ∧ FieldsReadable levels rest

end

theorem readable_number {levels : Nat} {n : Number} : Readable levels (.number n) ↔ n.Exact := by
  cases levels <;> rfl

theorem readable_string (levels : Nat) (s : String) : Readable levels (.string s) := by
  cases levels <;> trivial

theorem readable_bool (levels : Nat) (b : Bool) : Readable levels (.bool b) := by
  cases levels <;> trivial

/-- A natural number is readable if it fits a word. -/
theorem readable_nat {n : Nat} (levels : Nat) (h : n < UInt64.size) : Readable levels (.nat n) :=
  readable_number.mpr (Nat.le_sub_one_of_lt h)

theorem readable_word (levels : Nat) (w : UInt64) : Readable levels (.word w) :=
  readable_nat levels w.toNat_lt_size

theorem fieldsReadable_append {levels : Nat} {fields more : List (String × Json)} :
    FieldsReadable levels (fields ++ more) ↔
      FieldsReadable levels fields ∧ FieldsReadable levels more := by
  induction fields with
  | nil => simp [FieldsReadable]
  | cons f rest ih => simp [FieldsReadable, ih, and_assoc]

/-- A number that is kept exactly is whole. -/
theorem Number.Exact.whole {n : Number} (h : n.Exact) : n.Whole := by
  cases n with
  | natural n => trivial
  | negative n => trivial
  | float x => cases h

mutual

/-- A readable value has no numbers but whole ones. -/
theorem Readable.whole {levels : Nat} {v : Json} (h : Readable levels v) : Whole v := by
  match v with
  | .null | .bool _ | .string _ => trivial
  | .number n => exact (readable_number.mp h).whole
  | .array items =>
    cases levels with
    | zero => cases h
    | succ levels => exact ItemsReadable.whole h
  | .object fields =>
    cases levels with
    | zero => cases h
    | succ levels => exact FieldsReadable.whole h

theorem ItemsReadable.whole {levels : Nat} {items : List Json} (h : ItemsReadable levels items) :
    ItemsWhole items := by
  match items with
  | [] => trivial
  | v :: rest => exact ⟨Readable.whole h.1, ItemsReadable.whole h.2⟩

theorem FieldsReadable.whole {levels : Nat} {fields : List (String × Json)}
    (h : FieldsReadable levels fields) : FieldsWhole fields := by
  match fields with
  | [] => trivial
  | (key, v) :: rest => exact ⟨Readable.whole h.1, FieldsReadable.whole h.2⟩

end

namespace Reader

/-! ### Heads -/

/-- A quoted text before other characters, with its quotation marks set apart. -/
theorem quote_append (t : String) (s : Input) :
    (quote t).map some ++ s = some '"' :: ((escape t.toList).map some ++ some '"' :: s) := by
  simp [quote]

/-- A text is read back from its quotation. -/
theorem readHead_quote (t : String) (s : Input) :
    readHead ((quote t).map some ++ s) = .ok (.string t, s) := by
  have hhead : ∀ rest, readHead (some '"' :: rest) = do return (← readString rest).map .string id :=
    fun _ => rfl
  rw [quote_append, hhead, readString_quote]
  rfl

/-- A number without a sign starts with a digit. -/
theorem readHead_digit {d : Nat} (hd : d < 10) (s : Input) :
    readHead (some (Nat.digitChar d) :: s) =
      do return (← readNumber false (some (Nat.digitChar d) :: s)).map .number id := by
  match d, hd with
  | 0, _ | 1, _ | 2, _ | 3, _ | 4, _ | 5, _ | 6, _ | 7, _ | 8, _ | 9, _ => rfl

/-- A number is read back where nothing goes on with it. -/
theorem readHead_number {n : Number} (hn : n.Exact) {s : Input} (hs : Closing s) :
    readHead (n.write.map some ++ s) = .ok (.number n, s) := by
  cases n with
  | natural n =>
    -- the head is chosen by the first digit, which is then read once more with the others
    have hread := readNumber_natural hn hs
    obtain ⟨d, cs, hd, -, hcs⟩ := exists_toDigits_cons n
    rw [Number.write, hcs, List.map_cons, List.cons_append] at hread ⊢
    rw [readHead_digit hd, hread]
    rfl
  | negative n =>
    have hhead : ∀ rest, readHead (some '-' :: rest) =
        do return (← readNumber true rest).map .number id := fun _ => rfl
    rw [Number.write, List.map_cons, List.cons_append, hhead, readNumber_negative hn hs]
    rfl
  | float x => cases hn

/-! ### Values -/

/-- Reads an item of an array and puts it before the items so far. -/
def addItem (levels : Nat) (items : List Json) (s : Input) :
    Except ReadError (List Json × Input) := do
  let (v, s) ← readValue levels s
  return (v :: items, s)

/-- Reads a field of an object from its colon on and puts it before the fields so far. -/
def addField (levels : Nat) (fields : List (String × Json)) (key : String) (s : Input) :
    Except ReadError (List (String × Json) × Input) := do
  let (v, s) ← readValue levels (← afterColon s)
  return ((key, v) :: fields, s)

/-- An array is read as its items are. -/
theorem readValue_array {levels : Nat} {s s' rest : Input} {items : List Json}
    (hs : s = some '[' :: s') (hitems : readItems (addItem levels) [] s' = .ok (items, rest)) :
    readValue (levels + 1) s = .ok (.array items.reverse, rest) := by
  have hhead : readHead (some '[' :: s') = .ok (.array, s') := rfl
  have hread : readItems (fun items s => do
      let (v, s) ← readValue levels s
      return (v :: items, s)) [] s' = .ok (items, rest) := hitems
  rw [hs, readValue, hhead]
  simp only [bind, Except.bind] at hread ⊢
  rw [hread]
  rfl

/-- An object is read as its fields are. -/
theorem readValue_object {levels : Nat} {s s' rest : Input} {fields : List (String × Json)}
    (hs : s = some '\x7b' :: s')
    (hfields : readFields (addField levels) [] s' = .ok (fields, rest)) :
    readValue (levels + 1) s = .ok (.object fields.reverse, rest) := by
  have hhead : readHead (some '\x7b' :: s') = .ok (.object, s') := rfl
  have hread : readFields (fun fields key s => do
      let (v, s) ← readValue levels (← afterColon s)
      return ((key, v) :: fields, s)) [] s' = .ok (fields, rest) := hfields
  rw [hs, readValue, hhead]
  simp only [bind, Except.bind] at hread ⊢
  rw [hread]
  rfl

theorem nextItem_true {c : Char} {s : Input} (hspace : isSpace (some c) = false) (hc : c ≠ ']') :
    nextItem true (some c :: s) = .ok (some (some c :: s)) := by
  have hskip : skipSpace (some c :: s) = some c :: s :=
    List.dropWhile_cons_of_neg (by simp [hspace])
  simp only [nextItem, nextSymbol, hskip, bind, Except.bind, Option.some.injEq, hc, if_false,
    if_true]
  rfl

theorem nextItem_comma {c : Char} {s : Input} (hspace : isSpace (some c) = false) (hc : c ≠ ']') :
    nextItem false (some ',' :: some c :: s) = .ok (some (some c :: s)) := by
  have hcomma : skipSpace (some ',' :: some c :: s) = some ',' :: some c :: s := rfl
  have hskip : skipSpace (some c :: s) = some c :: s :=
    List.dropWhile_cons_of_neg (by simp [hspace])
  simp only [nextItem, nextSymbol, hcomma, hskip, bind, Except.bind, Option.some.injEq, hc,
    if_false]
  rfl

theorem nextKey_true (key : String) (s : Input) :
    nextKey true ((quote key).map some ++ s) = .ok (some (key, s)) := by
  have hnext : ∀ rest, nextKey true (some '"' :: rest) = do return some (← readString rest) :=
    fun _ => rfl
  rw [quote_append, hnext, readString_quote]
  rfl

theorem nextKey_comma (key : String) (s : Input) :
    nextKey false (some ',' :: ((quote key).map some ++ s)) = .ok (some (key, s)) := by
  have hnext : ∀ rest, nextKey false (some ',' :: some '"' :: rest) =
      do return some (← readString rest) := fun _ => rfl
  rw [quote_append, hnext, readString_quote]
  rfl

section

variable {levels : Nat} {x : Option Char} {bound s s' rest : Input} {first : Bool} {v : Json}

theorem readItemsUpTo_cons {items : List Json} (hnext : nextItem first s = .ok (some s'))
    (hv : readValue levels s' = .ok (v, rest)) :
    readItemsUpTo (addItem levels) (x :: bound) first items s =
      readItemsUpTo (addItem levels) bound false (v :: items) rest := by
  simp only [readItemsUpTo, hnext, bind, Except.bind, addItem, hv]
  rfl

theorem readFieldsUpTo_cons {fields : List (String × Json)} {key : String}
    (hnext : nextKey first s = .ok (some (key, some ':' :: s')))
    (hv : readValue levels s' = .ok (v, rest)) :
    readFieldsUpTo (addField levels) (x :: bound) first fields s =
      readFieldsUpTo (addField levels) bound false ((key, v) :: fields) rest := by
  have hcolon : afterColon (some ':' :: s') = .ok s' := rfl
  simp only [readFieldsUpTo, hnext, bind, Except.bind, addField, hcolon, hv]
  rfl

end

/-- The text of items has more characters than there are items. -/
theorem length_lt_length_writeItems (items : List Json) :
    items.length < (writeItems items).length := by
  induction items with
  | nil => exact Nat.zero_lt_one
  | cons v rest ih =>
    rw [writeItems, List.length_append, List.length_cons, List.length_cons]
    omega

/-- The text of fields has more characters than there are fields. -/
theorem length_lt_length_writeFields (fields : List (String × Json)) :
    fields.length < (writeFields fields).length := by
  induction fields with
  | nil => exact Nat.zero_lt_one
  | cons f rest ih =>
    rw [writeFields, List.length_append, List.length_append, List.length_cons, List.length_cons]
    omega

/-- Items are read if the first one and those after it are. -/
theorem readItems_write {levels : Nat} {v : Json} {rest : List Json} {s : Input}
    (h : Readable levels v)
    (hv : readValue levels (v.write.map some ++ ((writeItems rest).map some ++ s)) =
      .ok (v, (writeItems rest).map some ++ s))
    (hrest : ∀ bound, rest.length < bound.length →
      readItemsUpTo (addItem levels) bound false [v] ((writeItems rest).map some ++ s) =
        .ok (rest.reverse ++ [v], s)) :
    readItems (addItem levels) [] (v.write.map some ++ ((writeItems rest).map some ++ s)) =
      .ok (rest.reverse ++ [v], s) := by
  obtain ⟨c, cs, hcs, hspace, hc, -⟩ := exists_write_cons h.whole
  have hlength := length_lt_length_writeItems rest
  rw [hcs, List.map_cons, List.cons_append] at hv ⊢
  rw [readItems, readItemsUpTo_cons (nextItem_true hspace hc) hv]
  refine hrest _ ?_
  simp only [List.length_append, List.length_map]
  omega

/-- Fields are read if the first one and those after it are. -/
theorem readFields_write {levels : Nat} {key : String} {v : Json} {rest : List (String × Json)}
    {s : Input}
    (hv : readValue levels (v.write.map some ++ ((writeFields rest).map some ++ s)) =
      .ok (v, (writeFields rest).map some ++ s))
    (hrest : ∀ bound, rest.length < bound.length →
      readFieldsUpTo (addField levels) bound false [(key, v)] ((writeFields rest).map some ++ s) =
        .ok (rest.reverse ++ [(key, v)], s)) :
    readFields (addField levels) []
        ((quote key).map some ++
          some ':' :: (v.write.map some ++ ((writeFields rest).map some ++ s))) =
      .ok (rest.reverse ++ [(key, v)], s) := by
  have hlength := length_lt_length_writeFields rest
  have hnext :=
    nextKey_true key (some ':' :: (v.write.map some ++ ((writeFields rest).map some ++ s)))
  rw [quote_append] at hnext ⊢
  rw [readFields, readFieldsUpTo_cons hnext hv]
  refine hrest _ ?_
  simp only [List.length_append, List.length_cons, List.length_map]
  omega

mutual

/-- A readable value is read back, and the text after it is left. -/
theorem readValue_write {levels : Nat} {v : Json} (h : Readable levels v) {s : Input}
    (hs : Closing s) : readValue levels (v.write.map some ++ s) = .ok (v, s) := by
  -- inside an array or an object a comma or a bracket follows, so `Closing` holds there too
  match v with
  | .null | .bool true | .bool false =>
    rw [readValue]
    rfl
  | .number n =>
    rw [readValue, write, readHead_number (readable_number.mp h) hs]
    rfl
  | .string t =>
    rw [readValue, write, readHead_quote]
    rfl
  | .array items =>
    cases levels with
    | zero => cases h
    | succ levels =>
      match items with
      | [] =>
        have hitems : readItems (addItem levels) [] (some ']' :: s) = .ok ([], s) := rfl
        exact readValue_array rfl hitems
      | v :: rest =>
        have hv := readValue_write h.1 (closing_writeItems rest s)
        have hread := readValue_array rfl (readItems_write h.1 hv fun bound hbound =>
          readItemsUpTo_writeItems h.2 hbound [v] s)
        simpa [write] using hread
  | .object fields =>
    cases levels with
    | zero => cases h
    | succ levels =>
      match fields with
      | [] =>
        have hfields : readFields (addField levels) [] (some '\x7d' :: s) = .ok ([], s) := rfl
        exact readValue_object rfl hfields
      | (key, v) :: rest =>
        have hv := readValue_write h.1 (closing_writeFields rest s)
        have hread := readValue_object rfl (readFields_write hv fun bound hbound =>
          readFieldsUpTo_writeFields h.2 hbound [(key, v)] s)
        simpa [write] using hread

/-- Items are read back from their text, behind those that were read before. -/
theorem readItemsUpTo_writeItems {levels : Nat} {items : List Json} (h : ItemsReadable levels items)
    {bound : Input} (hbound : items.length < bound.length) (before : List Json) (s : Input) :
    readItemsUpTo (addItem levels) bound false before ((writeItems items).map some ++ s) =
      .ok (items.reverse ++ before, s) := by
  -- one symbol of the bound for each item and one for the bracket at the end
  match items, bound with
  | _, [] => cases hbound
  | [], x :: bound => rfl
  | v :: rest, x :: bound =>
    obtain ⟨c, cs, hcs, hspace, hc, -⟩ := exists_write_cons h.1.whole
    have hv := readValue_write h.1 (closing_writeItems rest s)
    have hnext : nextItem false ((writeItems (v :: rest)).map some ++ s) =
        .ok (some (v.write.map some ++ ((writeItems rest).map some ++ s))) := by
      rw [writeItems, List.map_append, List.map_cons, hcs]
      exact (nextItem_comma hspace hc).trans (by simp)
    rw [readItemsUpTo_cons hnext hv,
      readItemsUpTo_writeItems h.2 (Nat.lt_of_succ_lt_succ hbound) (v :: before) s]
    simp

/-- Fields are read back from their text, behind those that were read before. -/
theorem readFieldsUpTo_writeFields {levels : Nat} {fields : List (String × Json)}
    (h : FieldsReadable levels fields) {bound : Input} (hbound : fields.length < bound.length)
    (before : List (String × Json)) (s : Input) :
    readFieldsUpTo (addField levels) bound false before ((writeFields fields).map some ++ s) =
      .ok (fields.reverse ++ before, s) := by
  match fields, bound with
  | _, [] => cases hbound
  | [], x :: bound => rfl
  | (key, v) :: rest, x :: bound =>
    have hv := readValue_write h.1 (closing_writeFields rest s)
    have hnext : nextKey false ((writeFields ((key, v) :: rest)).map some ++ s) =
        .ok (some (key, some ':' :: (v.write.map some ++ ((writeFields rest).map some ++ s)))) := by
      simpa [writeFields] using nextKey_comma key
        (some ':' :: (v.write.map some ++ ((writeFields rest).map some ++ s)))
    rw [readFieldsUpTo_cons hnext hv,
      readFieldsUpTo_writeFields h.2 (Nat.lt_of_succ_lt_succ hbound) ((key, v) :: before) s]
    simp

end

end Reader

/-- A value is read back from its text if its numbers are exact and it nests no deeper than values
may. -/
theorem read_write {v : Json} (h : Readable mostLevels v) : read (v.write.map some) = .ok v := by
  have hv := Reader.readValue_write h closing_nil
  rw [List.append_nil] at hv
  simp only [read, hv, bind, Except.bind]
  rfl

/-- The text of a value is one line. -/
theorem newline_not_mem_write {levels : Nat} {v : Json} (h : Readable levels v) : '\n' ∉ v.write :=
  fun hmem => Bool.noConfusion (not_isControl_write h.whole _ hmem)

end MemorySentry.Json
