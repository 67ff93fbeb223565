import MemorySentry.Proofs.SpanMap.Refinement

/-!
# What the operations on spans mean

`Meets` says for each operation what it answers and which entries it leaves, by which spans are
stored and which addresses they cover, with no search and no order of search.

- `meets_perform`: the operations on an ascending list meet this and keep the list ascending;
- `performAll_empty`: every run from the empty span map answers like the list, without a fault, and
  what it answers from some point on depends on the entries stored there and on nothing else.
-/

namespace MemorySentry.SpanMap

variable {α : Type}

/-- `e` is the lowest entry that overlaps a span. -/
structure LowestOverlapping (entries : List (Span × α)) (s : Span) (e : Span × α) : Prop where
  /-- It is stored. -/
  mem : e ∈ entries
  /-- It shares an address with the span. -/
  overlaps : e.1.overlaps s = true
  /-- All others that do come after it. -/
  lowest : ∀ e' ∈ entries, e'.1.overlaps s = true → e' = e ∨ e.1.Before e'.1

/-- No stored span shares an address with `s`. -/
def Free (entries : List (Span × α)) (s : Span) : Prop :=
  ∀ e ∈ entries, e.1.overlaps s = false

/-- No stored span covers an address. -/
def Uncovered (entries : List (Span × α)) (a : Address) : Prop :=
  ∀ e ∈ entries, e.1.contains a = false

/-- What an operation on `entries` answers and which entries `entries'` it leaves. -/
def Meets (entries : List (Span × α)) (answer : Answer α) (entries' : List (Span × α)) :
    Command α → Prop
  | .insert s v =>
    (Free entries s ∧ answer = .done ∧ entries'.Perm ((s, v) :: entries)) ∨
    (∃ e, LowestOverlapping entries s e ∧ answer = .refused (.overlap s e.1) ∧ entries' = entries)
  | .remove s =>
    (∃ v, (s, v) ∈ entries ∧ answer = .value v ∧ entries.Perm ((s, v) :: entries')) ∨
    (∃ e ∈ entries, e.1.contains s.start = true ∧ e.1 ≠ s ∧
      answer = .refused (.mismatch s e.1) ∧ entries' = entries) ∨
    (Uncovered entries s.start ∧ answer = .refused (.notFound s.start) ∧ entries' = entries)
  | .removeAt base =>
    (∃ e ∈ entries, e.1.start = base ∧ answer = .entry (some e) ∧ entries.Perm (e :: entries')) ∨
    (∃ e ∈ entries, e.1.contains base = true ∧ e.1.start ≠ base ∧
      answer = .refused (.notBase base e.1) ∧ entries' = entries) ∨
    (Uncovered entries base ∧ answer = .refused (.notFound base) ∧ entries' = entries)
  | .lookup a =>
    ((∃ e ∈ entries, e.1.contains a = true ∧ answer = .entry (some e)) ∨
      (Uncovered entries a ∧ answer = .entry none)) ∧ entries' = entries
  | .firstOverlapping s =>
    ((∃ e, LowestOverlapping entries s e ∧ answer = .entry (some e)) ∨
      (Free entries s ∧ answer = .entry none)) ∧ entries' = entries
  | .clear => answer = .done ∧ entries' = []
  | .size => answer = .count entries.length ∧ entries' = entries
  | .isEmpty => (answer = .truth true ↔ entries = []) ∧ (answer = .truth false ↔ entries ≠ []) ∧
      entries' = entries
  | .toList => answer = .entries entries ∧ entries' = entries

/-! ### Searching and changing ascending entries -/

/-- The first entry that overlaps a span is the lowest one. -/
theorem lowestOverlapping_of_find? {entries : List (Span × α)} (hasc : Ascending entries) {s : Span}
    {e : Span × α} (hfind : (entries.find? fun e => e.1.overlaps s) = some e) :
    LowestOverlapping entries s e := by
  obtain ⟨hov, low, high, hsplit, hlow⟩ := List.find?_eq_some_iff_append.mp hfind
  refine ⟨List.mem_of_find?_eq_some hfind, hov, fun e' he' hov' => ?_⟩
  rw [hsplit, List.mem_append, List.mem_cons] at he'
  rcases he' with hmem | rfl | hmem
  · -- what stands before the first hit does not overlap
    have hnot := hlow e' hmem
    rw [hov'] at hnot
    cases hnot
  · exact Or.inl rfl
  · rw [hsplit, Ascending.append_iff, Ascending.cons_iff] at hasc
    exact Or.inr (hasc.2.1.1 e' hmem)

/-- A span that no entry overlaps is free. -/
theorem free_of_find? {entries : List (Span × α)} {s : Span}
    (hfind : (entries.find? fun e => e.1.overlaps s) = none) : Free entries s := by
  intro e he
  simpa using List.find?_eq_none.mp hfind e he

/-- An address that no entry contains is uncovered. -/
theorem uncovered_of_find? {entries : List (Span × α)} {a : Address}
    (hfind : (entries.find? fun e => e.1.contains a) = none) : Uncovered entries a := by
  intro e he
  simpa using List.find?_eq_none.mp hfind e he

/-- The entry that is found for an address contains it. -/
theorem contains_of_find? {entries : List (Span × α)} {a : Address} {e : Span × α}
    (hfind : (entries.find? fun e => e.1.contains a) = some e) : e.1.contains a = true := by
  have hcontains := List.find?_some hfind
  exact hcontains

/-- Filtering by the span takes out one entry. -/
theorem perm_cons_filter_ne {entries : List (Span × α)} (hasc : Ascending entries) {e : Span × α}
    (he : e ∈ entries) : entries.Perm (e :: entries.filter fun e' => e'.1 ≠ e.1) := by
  obtain ⟨low, high, rfl⟩ := List.append_of_mem he
  rw [Ascending.append_iff, Ascending.cons_iff] at hasc
  rw [filter_split]
  · exact List.perm_middle
  · simp
  · intro e' he'
    simpa using (hasc.2.2 e' he' e (by simp)).ne
  · intro e' he'
    simpa using (hasc.2.1.1 e' he').ne.symm

/-- Every operation on an ascending list meets its description and leaves an ascending list. -/
theorem meets_perform {l : SpanList α} (hasc : Ascending l.entries) (c : Command α) :
    Meets l.entries (l.perform c).1 (l.perform c).2.entries c ∧
      Ascending (l.perform c).2.entries := by
  cases c with
  | insert s v =>
    simp only [SpanList.perform, SpanList.insert, SpanList.firstOverlapping]
    cases hfind : l.entries.find? fun e => e.1.overlaps s with
    | none =>
      have hfree := free_of_find? hfind
      exact ⟨Or.inl ⟨hfree, rfl, place_perm s v l.entries⟩, hasc.place v hfree⟩
    | some e => exact ⟨Or.inr ⟨e, lowestOverlapping_of_find? hasc hfind, rfl, rfl⟩, hasc⟩
  | remove s =>
    simp only [SpanList.perform, SpanList.remove, SpanList.lookup]
    cases hfind : l.entries.find? fun e => e.1.contains s.start with
    | none => exact ⟨Or.inr (Or.inr ⟨uncovered_of_find? hfind, rfl, rfl⟩), hasc⟩
    | some e =>
      have hmem := List.mem_of_find?_eq_some hfind
      have hcontains := contains_of_find? hfind
      by_cases heq : e.1 = s
      · subst heq
        simp only [if_true]
        exact ⟨Or.inl ⟨e.2, hmem, rfl, perm_cons_filter_ne hasc hmem⟩, hasc.filter _⟩
      · -- the first byte lies in another span, which the refusal names
        simp only [heq, if_false]
        exact ⟨Or.inr (Or.inl ⟨e, hmem, hcontains, heq, rfl, rfl⟩), hasc⟩
  | removeAt base =>
    simp only [SpanList.perform, SpanList.removeAt, SpanList.lookup]
    cases hfind : l.entries.find? fun e => e.1.contains base with
    | none => exact ⟨Or.inr (Or.inr ⟨uncovered_of_find? hfind, rfl, rfl⟩), hasc⟩
    | some e =>
      have hmem := List.mem_of_find?_eq_some hfind
      have hcontains := contains_of_find? hfind
      by_cases heq : e.1.start = base
      · subst heq
        simp only [if_true, filter_start_ne hasc hmem]
        exact ⟨Or.inl ⟨e, hmem, rfl, rfl, perm_cons_filter_ne hasc hmem⟩, hasc.filter _⟩
      · simp only [heq, if_false]
        exact ⟨Or.inr (Or.inl ⟨e, hmem, hcontains, heq, rfl, rfl⟩), hasc⟩
  | lookup a =>
    refine ⟨⟨?_, rfl⟩, hasc⟩
    simp only [SpanList.perform, SpanList.lookup]
    cases hfind : l.entries.find? fun e => e.1.contains a with
    | none => exact Or.inr ⟨uncovered_of_find? hfind, rfl⟩
    | some e => exact Or.inl ⟨e, List.mem_of_find?_eq_some hfind, contains_of_find? hfind, rfl⟩
  | firstOverlapping s =>
    refine ⟨⟨?_, rfl⟩, hasc⟩
    simp only [SpanList.perform, SpanList.firstOverlapping]
    cases hfind : l.entries.find? fun e => e.1.overlaps s with
    | none => exact Or.inr ⟨free_of_find? hfind, rfl⟩
    | some e => exact Or.inl ⟨e, lowestOverlapping_of_find? hasc hfind, rfl⟩
  | clear => exact ⟨⟨rfl, rfl⟩, .nil⟩
  | size => exact ⟨⟨rfl, rfl⟩, hasc⟩
  | isEmpty =>
    refine ⟨?_, hasc⟩
    simp only [Meets, SpanList.perform]
    cases l.entries <;> simp
  | toList => exact ⟨⟨rfl, rfl⟩, hasc⟩

/-- In every run from the empty map, all operations answer what they answer on a list of the stored
spans. After any run `cs`, an operation `c` meets no fault and its description, and what all further
operations answer depends on the entries alone, not on the shape of the tree. -/
theorem performAll_empty (cs after : List (Command α)) (c : Command α) :
    let m := ((empty : SpanMap α).performAll cs).2
    let l := ((SpanList.empty : SpanList α).performAll cs).2
    ((empty : SpanMap α).performAll cs).1 = ((SpanList.empty : SpanList α).performAll cs).1 ∧
      (m.performAll after).1 = (SpanList.performAll ⟨m.toList⟩ after).1 ∧
      c.Faultless m ∧ Ascending l.entries ∧
      Meets l.entries (m.perform c).1 (l.perform c).2.entries c := by
  intro m l
  obtain ⟨hanswers, hrep⟩ := performAll_represents (represents_empty (α := α)) cs
  -- a list that a map represents is ascending, which is all that the descriptions need
  have hasc : Ascending l.entries := hrep.ascending
  refine ⟨hanswers, ?_, hrep.faultless c, hasc, ?_⟩
  · rw [(performAll_represents hrep after).1, hrep.toList]
  · rw [(perform_represents hrep c).1]
    exact (meets_perform hasc c).1

end MemorySentry.SpanMap
