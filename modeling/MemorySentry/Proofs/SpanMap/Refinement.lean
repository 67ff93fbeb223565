import MemorySentry.Proofs.SpanMap.Operations

/-!
# A span map answers like a sorted list

`m.Represents l` says that the links of the map form a tree whose entries are those of the list.
Every operation answers what it answers on the list and leads to a map that represents the new list
(`perform_represents`), so whole runs answer alike (`performAll_represents`), whatever shape the
tree has taken on.

- `Meets`: what each operation answers and leaves, said of the stored spans without an algorithm;
- `meets_perform`: the operations on a sorted list meet it;
- `performAll_empty`: so do the operations of a map, in every run from the empty map.
-/

namespace MemorySentry.SpanMap

open Arena

variable {α : Type}

/-- The links of the map form a tree with the entries of the list. -/
def Represents (m : SpanMap α) (l : SpanList α) : Prop :=
  ∃ t, m.Shaped t ∧ t.entries = l.entries

/-- A new map stands for no entries. -/
theorem represents_empty : (empty : SpanMap α).Represents SpanList.empty :=
  ⟨.leaf, ⟨rfl, trivial, ⟨[], rfl, List.Perm.refl _, rfl, Nat.le_refl _⟩, .nil⟩, rfl⟩

/-- To remove a span is to take out what covers its start, if it is the span. -/
theorem remove_eq_takeCovering (l : SpanList α) (s : Span) :
    l.remove s = (takeCovering l.entries s.start fun existing =>
      if existing = s then none else some (.mismatch s existing)).map
        (fun removed => removed.map Prod.snd) SpanList.mk := by
  simp only [SpanList.remove, SpanList.lookup, takeCovering]
  cases l.entries.find? fun e => e.1.contains s.start with
  | none => rfl
  | some e => by_cases heq : e.1 = s <;> simp [heq, Except.map]

/-- In an ascending list only the entry itself starts where it starts. -/
theorem filter_start_ne {entries : List (Span × α)} (hasc : Ascending entries) {e : Span × α}
    (he : e ∈ entries) :
    (entries.filter fun e' => e'.1.start ≠ e.1.start) = entries.filter fun e' => e'.1 ≠ e.1 := by
  -- entries with one start overlap there, and entries that overlap are the same
  refine List.filter_congr fun e' he' => ?_
  rw [decide_eq_decide, not_iff_not]
  constructor
  · intro hstart
    rw [hasc.eq_of_overlaps he' he (Span.overlaps_of_start_eq hstart)]
  · intro hspan
    rw [hspan]

/-- To remove at an address is to take out what covers it, if it starts there. -/
theorem removeAt_eq_takeCovering {l : SpanList α} (hasc : Ascending l.entries) (base : Address) :
    l.removeAt base = (takeCovering l.entries base fun existing =>
      if existing.start = base then none else some (.notBase base existing)).map id
        SpanList.mk := by
  simp only [SpanList.removeAt, SpanList.lookup, takeCovering]
  cases hfind : l.entries.find? fun e => e.1.contains base with
  | none => rfl
  | some e =>
    by_cases heq : e.1.start = base
    · subst heq
      simp only [if_true, filter_start_ne hasc (List.mem_of_find?_eq_some hfind)]
      rfl
    · simp [heq]

namespace Represents

variable {m : SpanMap α} {l : SpanList α}

/-- The entries of a map are in ascending order. -/
theorem ascending (h : m.Represents l) : Ascending l.entries := by
  obtain ⟨t, hshaped, hentries⟩ := h
  exact hentries ▸ hshaped.ascending

/-- A look-up meets no fault and finds what the list says. -/
theorem lookupRaw (h : m.Represents l) (a : Address) :
    ∃ m', m.lookupRaw a = .ok (l.lookup a, m') ∧ m'.Represents l := by
  obtain ⟨t, hshaped, hentries⟩ := h
  obtain ⟨m', t', hlookup, hshaped', hinorder⟩ := hshaped.lookupRaw_eq_ok a
  rw [hentries] at hlookup
  exact ⟨m', hlookup, t', hshaped', (Tree.entries_eq_of_inorder_eq hinorder).trans hentries⟩

/-- So does the search for an overlapping entry. -/
theorem firstOverlappingRaw (h : m.Represents l) (s : Span) :
    ∃ m', m.firstOverlappingRaw s = .ok (l.firstOverlapping s, m') ∧ m'.Represents l := by
  obtain ⟨t, hshaped, hentries⟩ := h
  obtain ⟨m', t', hsearch, hshaped', hinorder, -⟩ := hshaped.firstOverlappingRaw_eq_ok s
  rw [hentries] at hsearch
  exact ⟨m', hsearch, t', hshaped', (Tree.entries_eq_of_inorder_eq hinorder).trans hentries⟩

/-- An insertion meets no fault and does what the list says. -/
theorem insertRaw (h : m.Represents l) (s : Span) (v : α) :
    ∃ m', m.insertRaw s v = .ok ((l.insert s v).1, m') ∧ m'.Represents (l.insert s v).2 := by
  obtain ⟨t, hshaped, hentries⟩ := h
  cases hhit : l.firstOverlapping s with
  | none =>
    obtain ⟨m', t', hinsert, hshaped', hplace⟩ :=
      hshaped.insertRaw_of_free s v (by rw [hentries]; exact hhit)
    rw [SpanList.insert, hhit]
    exact ⟨m', hinsert, t', hshaped', by rw [hplace, hentries]⟩
  | some e =>
    obtain ⟨m', t', hinsert, hshaped', hinorder⟩ :=
      hshaped.insertRaw_of_overlap s v (by rw [hentries]; exact hhit)
    rw [SpanList.insert, hhit]
    exact ⟨m', hinsert, t', hshaped', (Tree.entries_eq_of_inorder_eq hinorder).trans hentries⟩

/-- So does a removal. -/
theorem removeCoveringRaw (h : m.Represents l) (a : Address) (wanted : Span → Option Error) :
    ∃ m', m.removeCoveringRaw a wanted = .ok ((takeCovering l.entries a wanted).1, m') ∧
      m'.Represents ⟨(takeCovering l.entries a wanted).2⟩ := by
  obtain ⟨t, hshaped, hentries⟩ := h
  obtain ⟨m', t', hremove, hshaped', hentries'⟩ := hshaped.removeCoveringRaw_eq_ok a wanted
  rw [hentries] at hremove hentries'
  exact ⟨m', hremove, t', hshaped', hentries'⟩

/-- A walk through the tree meets the entries of the list. -/
theorem inorder (h : m.Represents l) : m.arena.inorder m.root = .ok l.entries := by
  obtain ⟨t, hshaped, hentries⟩ := h
  rw [hshaped.root, inorder_eq_ok hshaped.holds hshaped.nodup, hentries]

/-! ### The answers of the plain operations -/

/-- A look-up answers as the list does. -/
theorem lookup (h : m.Represents l) (a : Address) :
    ∃ m', m.lookup a = (l.lookup a, m') ∧ m'.Represents l := by
  obtain ⟨m', hlookup, h'⟩ := h.lookupRaw a
  exact ⟨m', by rw [SpanMap.lookup, hlookup], h'⟩

/-- So does the search for an overlapping entry. -/
theorem firstOverlapping (h : m.Represents l) (s : Span) :
    ∃ m', m.firstOverlapping s = (l.firstOverlapping s, m') ∧ m'.Represents l := by
  obtain ⟨m', hsearch, h'⟩ := h.firstOverlappingRaw s
  exact ⟨m', by rw [SpanMap.firstOverlapping, hsearch], h'⟩

/-- So does an insertion. -/
theorem insert (h : m.Represents l) (s : Span) (v : α) :
    ∃ m', m.insert s v = ((l.insert s v).1, m') ∧ m'.Represents (l.insert s v).2 := by
  obtain ⟨m', hinsert, h'⟩ := h.insertRaw s v
  exact ⟨m', by rw [SpanMap.insert, hinsert], h'⟩

/-- So does the removal of a span. -/
theorem remove (h : m.Represents l) (s : Span) :
    ∃ m', m.remove s = ((l.remove s).1, m') ∧ m'.Represents (l.remove s).2 := by
  obtain ⟨m', hremove, h'⟩ := h.removeCoveringRaw s.start fun existing =>
    if existing = s then none else some (.mismatch s existing)
  rw [remove_eq_takeCovering]
  exact ⟨m', by rw [SpanMap.remove, removeRaw, hremove]; rfl, h'⟩

/-- So does the removal at an address. -/
theorem removeAt (h : m.Represents l) (base : Address) :
    ∃ m', m.removeAt base = ((l.removeAt base).1, m') ∧ m'.Represents (l.removeAt base).2 := by
  obtain ⟨m', hremove, h'⟩ := h.removeCoveringRaw base fun existing =>
    if existing.start = base then none else some (.notBase base existing)
  rw [removeAt_eq_takeCovering h.ascending]
  exact ⟨m', by rw [SpanMap.removeAt, removeAtRaw, hremove]; rfl, h'⟩

/-- A cleared map stands for no entries. -/
theorem clear (m : SpanMap α) : m.clear.Represents SpanList.empty :=
  ⟨.leaf, ⟨rfl, trivial, ⟨[], Accounts.clear m.arena⟩, .nil⟩, rfl⟩

/-- There are as many entries as the list has. -/
theorem size (h : m.Represents l) : m.size = l.entries.length := by
  obtain ⟨t, hshaped, hentries⟩ := h
  obtain ⟨vacant, haccounts⟩ := hshaped.accounts
  rw [SpanMap.size, haccounts.count, ← hentries]
  simp

theorem isEmpty (h : m.Represents l) : m.isEmpty = l.entries.isEmpty := by
  obtain ⟨t, hshaped, hentries⟩ := h
  rw [SpanMap.isEmpty, hshaped.root, ← hentries]
  cases t <;> simp

/-- The entries are those of the list. -/
theorem toList (h : m.Represents l) : m.toList = l.entries := by
  rw [SpanMap.toList, h.inorder]

end Represents

/-! ### Runs -/

/-- The operation does not meet a broken link. -/
def Command.Faultless (m : SpanMap α) : Command α → Prop
  | .insert s v => ∃ answer, m.insertRaw s v = .ok answer
  | .remove s => ∃ answer, m.removeRaw s = .ok answer
  | .removeAt base => ∃ answer, m.removeAtRaw base = .ok answer
  | .lookup a => ∃ answer, m.lookupRaw a = .ok answer
  | .firstOverlapping s => ∃ answer, m.firstOverlappingRaw s = .ok answer
  | .toList => ∃ answer, m.arena.inorder m.root = .ok answer
  | .clear | .size | .isEmpty => True

/-- No operation meets a fault in a map that stands for a list. -/
theorem Represents.faultless {m : SpanMap α} {l : SpanList α} (h : m.Represents l) (c : Command α) :
    c.Faultless m := by
  cases c with
  | insert s v => exact (h.insertRaw s v).imp' _ fun _ hraw => hraw.1
  | remove s => exact (h.removeCoveringRaw s.start _).imp' _ fun _ hraw => hraw.1
  | removeAt base => exact (h.removeCoveringRaw base _).imp' _ fun _ hraw => hraw.1
  | lookup a => exact (h.lookupRaw a).imp' _ fun _ hraw => hraw.1
  | firstOverlapping s => exact (h.firstOverlappingRaw s).imp' _ fun _ hraw => hraw.1
  | toList => exact ⟨_, h.inorder⟩
  | clear | size | isEmpty => trivial

/-- An operation answers on a map what it answers on the list, and keeps map and list together. -/
theorem perform_represents {m : SpanMap α} {l : SpanList α} (h : m.Represents l) (c : Command α) :
    (m.perform c).1 = (l.perform c).1 ∧ (m.perform c).2.Represents (l.perform c).2 := by
  cases c with
  | insert s v =>
    obtain ⟨m', hinsert, h'⟩ := h.insert s v
    simp only [perform, SpanList.perform, hinsert]
    -- map and list give the same answer, so one case split serves both
    revert h'
    rcases l.insert s v with ⟨_ | _, l'⟩ <;> exact fun h' => ⟨rfl, h'⟩
  | remove s =>
    obtain ⟨m', hremove, h'⟩ := h.remove s
    simp only [perform, SpanList.perform, hremove]
    revert h'
    rcases l.remove s with ⟨_ | _, l'⟩ <;> exact fun h' => ⟨rfl, h'⟩
  | removeAt base =>
    obtain ⟨m', hremove, h'⟩ := h.removeAt base
    simp only [perform, SpanList.perform, hremove]
    revert h'
    rcases l.removeAt base with ⟨_ | _, l'⟩ <;> exact fun h' => ⟨rfl, h'⟩
  | lookup a =>
    obtain ⟨m', hlookup, h'⟩ := h.lookup a
    simp only [perform, SpanList.perform, hlookup]
    exact ⟨trivial, h'⟩
  | firstOverlapping s =>
    obtain ⟨m', hsearch, h'⟩ := h.firstOverlapping s
    simp only [perform, SpanList.perform, hsearch]
    exact ⟨trivial, h'⟩
  | clear => exact ⟨rfl, Represents.clear m⟩
  | size => exact ⟨congrArg Answer.count h.size, h⟩
  | isEmpty => exact ⟨congrArg Answer.truth h.isEmpty, h⟩
  | toList => exact ⟨congrArg Answer.entries h.toList, h⟩

/-- A run answers on a map what it answers on the list. -/
theorem performAll_represents {m : SpanMap α} {l : SpanList α} (h : m.Represents l)
    (cs : List (Command α)) :
    (m.performAll cs).1 = (l.performAll cs).1 ∧
      (m.performAll cs).2.Represents (l.performAll cs).2 := by
  induction cs generalizing m l with
  | nil => exact ⟨rfl, h⟩
  | cons c rest ih =>
    obtain ⟨hanswer, hstep⟩ := perform_represents h c
    obtain ⟨hanswers, hrest⟩ := ih hstep
    exact ⟨congrArg₂ List.cons hanswer hanswers, hrest⟩

end MemorySentry.SpanMap
