import MemorySentry.Pool.Linear
import MemorySentry.Proofs.SpanMap.Contract

/-!
# Lists of objects with disjoint spans

A linear pool holds its objects in lists, and objects of such a list share no address: they are
`Apart`. Then at most one of them covers an address, wherever it stands in the list, and a search
finds it (`covering_eq_some_iff`).

- `ascending_entries_apart`, `entries_place`: the entries of a span map seen as objects;
- `contains_hullOf_iff`: the hull of a span and of objects that overlap it has no addresses but
  theirs;
- `newest`: the last objects of a list.
-/

namespace MemorySentry

/-- An object as the entry of a span map. -/
def Object.entry (o : Object) : Span × Object :=
  (o.span, o)

/-- What the quarantine holds of an object. -/
def Object.key (o : Object) : Address × Nat :=
  (o.span.start, o.allocId)

/-- Objects of which no two share an address. -/
def Apart (os : List Object) : Prop :=
  os.Pairwise fun o o' => o.span.overlaps o'.span = false

namespace Apart

variable {os os' : List Object}

/-- Whether objects lie apart does not depend on their order. -/
theorem perm (h : Apart os) (hperm : os.Perm os') : Apart os' :=
  (hperm.pairwise_iff fun {o o'} hoo' => by rw [Span.overlaps_comm, hoo']).mp h

/-- Fewer objects lie apart as well. -/
theorem sublist (h : Apart os) (hsub : List.Sublist os' os) : Apart os' :=
  List.Pairwise.sublist hsub h

/-- Two lists of objects lie apart together if each does and none of one overlaps one of the
other. -/
theorem append_iff :
    Apart (os ++ os') ↔
      Apart os ∧ Apart os' ∧ ∀ o ∈ os, ∀ o' ∈ os', o.span.overlaps o'.span = false :=
  List.pairwise_append

/-- One object more lies apart from the others if it overlaps none of them. -/
theorem cons_iff {o : Object} :
    Apart (o :: os) ↔ (∀ o' ∈ os, o.span.overlaps o'.span = false) ∧ Apart os :=
  List.pairwise_cons

/-- Two objects that share an address are the same. -/
theorem eq_of_overlaps (h : Apart os) {o o' : Object} (ho : o ∈ os) (ho' : o' ∈ os)
    (hov : o.span.overlaps o'.span = true) : o = o' := by
  -- apart objects stand in no particular order, so the relation is symmetric
  have hsymm : Std.Symm fun o o' : Object => o.span.overlaps o'.span = false :=
    ⟨fun a b hab => by rw [Span.overlaps_comm, hab]⟩
  by_contra hne
  rw [List.Pairwise.forall h ho ho' hne] at hov
  cases hov

/-- Two objects that cover an address are the same. -/
theorem eq_of_contains (h : Apart os) {o o' : Object} (ho : o ∈ os) (ho' : o' ∈ os) {a : Address}
    (ha : o.span.contains a = true) (ha' : o'.span.contains a = true) : o = o' :=
  h.eq_of_overlaps ho ho' (Span.overlaps_of_contains ha ha')

/-- Two objects with one base are the same. -/
theorem eq_of_start_eq (h : Apart os) {o o' : Object} (ho : o ∈ os) (ho' : o' ∈ os)
    (hstart : o.span.start = o'.span.start) : o = o' :=
  h.eq_of_overlaps ho ho' (Span.overlaps_of_start_eq hstart)

end Apart

/-! ### Objects as the entries of a span map -/

/-- Objects in ascending order lie apart. -/
theorem ascending_entries_apart {os : List Object}
    (h : SpanMap.Ascending (os.map Object.entry)) : Apart os := by
  refine (List.pairwise_map.mp h).imp ?_
  intro o o' hbefore
  exact hbefore.overlaps_eq_false

theorem map_snd_entry (o : Option Object) : (o.map Object.entry).map Prod.snd = o := by
  cases o <;> rfl

/-- To look for an entry by its span is to look for its object. -/
theorem find?_entries (p : Span → Bool) (os : List Object) :
    ((os.map Object.entry).find? fun e => p e.1) =
      (os.find? fun o => p o.span).map Object.entry := by
  rw [List.find?_map]
  rfl

/-- To pick entries by their spans is to pick their objects. -/
theorem filter_entries (p : Span → Bool) (os : List Object) :
    ((os.map Object.entry).filter fun e => p e.1) =
      (os.filter fun o => p o.span).map Object.entry := by
  rw [List.filter_map]
  rfl

namespace LinearPool

/-- An object is put in its place as its entry is. -/
theorem entries_place (o : Object) (os : List Object) :
    (place o os).map Object.entry = SpanList.place o.span o (os.map Object.entry) := by
  induction os with
  | nil => rfl
  | cons e rest ih =>
    simp only [place, SpanList.place, List.map_cons, Object.entry]
    split
    · rfl
    · rw [List.map_cons, ih]
      rfl

/-- To put an object in its place adds it and nothing else. -/
theorem place_perm (o : Object) (os : List Object) : (place o os).Perm (o :: os) := by
  induction os with
  | nil => exact List.Perm.refl _
  | cons e rest ih =>
    unfold place
    split
    · exact List.Perm.refl _
    · exact (ih.cons e).trans (List.Perm.swap _ _ _)

/-! ### Searching -/

/-- A search for an address finds the object that covers it. -/
theorem covering_eq_some_iff {os : List Object} (h : Apart os) {a : Address} {o : Object} :
    covering os a = some o ↔ o ∈ os ∧ o.span.contains a = true := by
  constructor
  · intro hfind
    have hcontains := List.find?_some hfind
    exact ⟨List.mem_of_find?_eq_some hfind, hcontains⟩
  · rintro ⟨hmem, hcontains⟩
    cases hfind : covering os a with
    | none => exact absurd hcontains (List.find?_eq_none.mp hfind o hmem)
    | some o' =>
      have hcontains' := List.find?_some hfind
      rw [h.eq_of_contains (List.mem_of_find?_eq_some hfind) hmem hcontains' hcontains]

/-- Nothing covers an address exactly if no object contains it. -/
theorem covering_eq_none_iff {os : List Object} {a : Address} :
    covering os a = none ↔ ∀ o ∈ os, o.span.contains a = false := by
  simp [covering]

/-- Where objects stand in a list does not matter for a search. -/
theorem covering_perm {os os' : List Object} (h : Apart os) (hperm : os.Perm os') (a : Address) :
    covering os a = covering os' a := by
  cases hfind : covering os a with
  | none =>
    rw [covering_eq_none_iff] at hfind
    exact (covering_eq_none_iff.mpr fun o ho => hfind o (hperm.mem_iff.mpr ho)).symm
  | some o =>
    rw [covering_eq_some_iff h, hperm.mem_iff] at hfind
    exact ((covering_eq_some_iff (h.perm hperm)).mpr hfind).symm

/-! ### The newest objects -/

/-- The newest objects are some of them, in their order. -/
theorem newest_sublist (n : Nat) (os : List Object) : List.Sublist (newest n os) os :=
  List.drop_sublist _ _

/-- There are no more newest objects than are asked for. -/
theorem length_newest_le (n : Nat) (os : List Object) : (newest n os).length ≤ n := by
  rw [newest, List.length_drop]
  omega

/-- All objects are among the newest if there are few. -/
theorem newest_of_length_le {n : Nat} {os : List Object} (h : os.length ≤ n) :
    newest n os = os := by
  rw [newest, Nat.sub_eq_zero_of_le h, List.drop_zero]

/-- As many objects at the end of a list as may stay do stay. -/
theorem newest_append {n : Nat} (older os : List Object) (h : os.length ≤ n) :
    ∃ older', newest n (older ++ os) = older' ++ os := by
  refine ⟨older.drop ((older ++ os).length - n), ?_⟩
  rw [newest, List.drop_append_of_le_length]
  rw [List.length_append]
  omega

/-- The oldest object is the first that is dropped. -/
theorem newest_cons {n : Nat} {o : Object} {os : List Object} (h : n ≤ os.length) :
    newest n (o :: os) = newest n os := by
  rw [newest, newest, List.length_cons, Nat.sub_add_comm h, List.drop_succ_cons]

end LinearPool

/-! ### The hull of objects -/

/-- The least span that covers a span and the spans of objects. -/
def hullOf (s : Span) (os : List Object) : Span :=
  os.foldl (fun acc o => acc.hull o.span) s

/-- The hull of a span and of objects that overlap it has no addresses but theirs. -/
theorem contains_hullOf_iff {s : Span} {os : List Object}
    (hov : ∀ o ∈ os, o.span.overlaps s = true) {a : Address} :
    (hullOf s os).contains a = true ↔
      s.contains a = true ∨ ∃ o ∈ os, o.span.contains a = true := by
  induction os generalizing s with
  | nil => simp [hullOf]
  | cons o rest ih =>
    have ho : s.overlaps o.span = true := by
      rw [Span.overlaps_comm]
      exact hov o (by simp)
    -- the others overlap the span, and so the wider one, from which the induction goes on
    have hrest : ∀ o' ∈ rest, o'.span.overlaps (s.hull o.span) = true := fun o' ho' =>
      (Span.overlaps_hull_iff ho).mpr (Or.inl (hov o' (List.mem_cons_of_mem o ho')))
    have hstep : hullOf s (o :: rest) = hullOf (s.hull o.span) rest := rfl
    rw [hstep, ih hrest, Span.contains_hull_iff ho, List.exists_mem_cons_iff, or_assoc]

/-- What overlaps the hull of a span and of objects that overlap the span overlaps one of them. -/
theorem overlaps_hullOf_iff {s u : Span} {os : List Object}
    (hov : ∀ o ∈ os, o.span.overlaps s = true) :
    u.overlaps (hullOf s os) = true ↔
      u.overlaps s = true ∨ ∃ o ∈ os, u.overlaps o.span = true := by
  simp only [Span.overlaps_iff_exists_contains, contains_hullOf_iff hov]
  constructor
  · rintro ⟨a, hu, hs | ⟨o, ho, hcontains⟩⟩
    · exact Or.inl ⟨a, hu, hs⟩
    · exact Or.inr ⟨o, ho, a, hu, hcontains⟩
  · rintro (⟨a, hu, hs⟩ | ⟨o, ho, a, hu, hcontains⟩)
    · exact ⟨a, hu, Or.inl hs⟩
    · exact ⟨a, hu, Or.inr ⟨o, ho, hcontains⟩⟩

end MemorySentry
