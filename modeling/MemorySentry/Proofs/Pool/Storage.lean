import MemorySentry.Proofs.Pool.Validity

/-!
# The maps of a pool as lists of objects

A pool stores each object under its own span, so a map of a pool is a list of objects in the order
of addresses: `m.Lists os`. Where the order is not of interest, `m.Stores os` leaves it open. The
loops of a pool are filters of this list:

- `dropOverlapping_eq`: eviction takes out the objects that overlap a span, and their places in the
  quarantine;
- `trim_eq`: trimming keeps the newest objects of the quarantine.
-/

namespace MemorySentry

namespace SpanMap

/-- A map holds the objects of a list under their spans, in this order. -/
def Lists (m : SpanMap Object) (os : List Object) : Prop :=
  m.Represents ⟨os.map Object.entry⟩

/-- A map holds the objects of a list under their spans. -/
def Stores (m : SpanMap Object) (os : List Object) : Prop :=
  ∃ sorted : List Object, sorted.Perm os ∧ m.Lists sorted

namespace Lists

variable {m : SpanMap Object} {os : List Object}

/-- The objects in a map lie apart. -/
theorem apart (h : m.Lists os) : Apart os :=
  ascending_entries_apart h.ascending

/-- A look-up finds the object that covers the address, and the map has the same objects still. -/
theorem lookup (h : m.Lists os) (a : Address) :
    ∃ m', m.lookup a = ((LinearPool.covering os a).map Object.entry, m') ∧ m'.Lists os := by
  obtain ⟨m', hlookup, h'⟩ := Represents.lookup h a
  exact ⟨m', by rw [hlookup, LinearPool.covering, ← find?_entries fun s => s.contains a]; rfl, h'⟩

/-- The first overlapping entry is that of the first object that overlaps the span. -/
theorem firstOverlapping (h : m.Lists os) (s : Span) :
    ∃ m', m.firstOverlapping s = ((os.find? fun o => o.span.overlaps s).map Object.entry, m') ∧
      m'.Lists os := by
  obtain ⟨m', hsearch, h'⟩ := Represents.firstOverlapping h s
  exact ⟨m', by rw [hsearch, ← find?_entries fun t => t.overlaps s]; rfl, h'⟩

/-- An object that overlaps no other one is put in its place. -/
theorem insert (h : m.Lists os) {o : Object} (hfree : ∀ e ∈ os, e.span.overlaps o.span = false) :
    ∃ m', m.insert o.span o = (.ok (), m') ∧ m'.Lists (LinearPool.place o os) := by
  obtain ⟨m', hinsert, h'⟩ := Represents.insert h o.span o
  have hnone : (SpanList.mk (os.map Object.entry)).firstOverlapping o.span = none := by
    rw [SpanList.firstOverlapping, find?_entries fun t => t.overlaps o.span,
      List.find?_eq_none.mpr fun e he => by simp [hfree e he]]
    rfl
  rw [SpanList.insert, hnone] at hinsert h'
  refine ⟨m', hinsert, ?_⟩
  rw [Lists, LinearPool.entries_place]
  exact h'

/-- A look-up at the base of an object finds it. -/
theorem lookup_start (h : m.Lists os) {o : Object} (ho : o ∈ os) :
    (SpanList.mk (os.map Object.entry)).lookup o.span.start = some o.entry := by
  have hcovering := (LinearPool.covering_eq_some_iff h.apart).mpr ⟨ho, o.span.contains_start⟩
  rw [LinearPool.covering] at hcovering
  rw [SpanList.lookup, find?_entries fun t => t.contains o.span.start, hcovering]
  rfl

/-- Removing an object by its span. -/
theorem remove (h : m.Lists os) {o : Object} (ho : o ∈ os) :
    ∃ m', m.remove o.span = (.ok o, m') ∧ m'.Lists (os.filter fun e => e.span ≠ o.span) := by
  obtain ⟨m', hremove, h'⟩ := Represents.remove h o.span
  rw [SpanList.remove, h.lookup_start ho] at hremove h'
  simp only [Object.entry, if_true] at hremove h'
  refine ⟨m', hremove, ?_⟩
  rw [Lists, ← filter_entries fun t => t ≠ o.span]
  exact h'

/-- Taking out the object at a base, if there is one. -/
theorem removeAt (h : m.Lists os) (base : Address) :
    ∃ r m', m.removeAt base = (r, m') ∧
      r.toOption = (os.find? fun o => o.span.start == base).map Object.entry ∧
      m'.Lists (os.filter fun e => e.span.start ≠ base) := by
  obtain ⟨m', hremove, h'⟩ := Represents.removeAt h base
  refine ⟨_, m', hremove, ?_⟩
  rw [Lists, ← filter_entries fun t => t.start ≠ base]
  cases hfind : os.find? fun o => o.span.start == base with
  | some o =>
    obtain rfl : o.span.start = base := by simpa using List.find?_some hfind
    rw [SpanList.removeAt, h.lookup_start (List.mem_of_find?_eq_some hfind)] at h' ⊢
    simp only [Object.entry, if_true] at h' ⊢
    exact ⟨rfl, h'⟩
  | none =>
    have hnone : ∀ e ∈ os.map Object.entry, e.1.start ≠ base := by
      intro e he
      obtain ⟨o, ho, rfl⟩ := List.mem_map.mp he
      simpa [Object.entry] using List.find?_eq_none.mp hfind o ho
    -- an entry that covers the base begins elsewhere, so it is not taken out either
    have hrefused : ∃ e, (SpanList.mk (os.map Object.entry)).removeAt base =
        (.error e, ⟨os.map Object.entry⟩) := by
      rw [SpanList.removeAt]
      cases hlookup : (SpanList.mk (os.map Object.entry)).lookup base with
      | none => exact ⟨_, rfl⟩
      | some e => exact ⟨_, if_neg (hnone e (List.mem_of_find?_eq_some hlookup))⟩
    obtain ⟨e, hrefused⟩ := hrefused
    rw [hrefused] at h' ⊢
    refine ⟨rfl, ?_⟩
    rw [List.filter_eq_self.mpr fun e he => by simpa using hnone e he]
    exact h'

/-- A map has as many entries as objects. -/
theorem size (h : m.Lists os) : m.size = os.length := by
  rw [Represents.size h, List.length_map]

/-- Its entries are those of the objects, in their order. -/
theorem toList (h : m.Lists os) : m.toList = os.map Object.entry :=
  Represents.toList h

end Lists

namespace Stores

variable {m : SpanMap Object} {os : List Object}

/-- The objects in a map lie apart, in whatever order they are listed. -/
theorem apart (h : m.Stores os) : Apart os := by
  obtain ⟨sorted, hperm, hlists⟩ := h
  exact hlists.apart.perm hperm

/-- A look-up finds the object that covers the address, and the map has the same objects still. -/
theorem lookup (h : m.Stores os) (a : Address) :
    ∃ m', m.lookup a = ((LinearPool.covering os a).map Object.entry, m') ∧ m'.Stores os := by
  obtain ⟨sorted, hperm, hlists⟩ := h
  obtain ⟨m', hlookup, hlists'⟩ := hlists.lookup a
  rw [LinearPool.covering_perm hlists.apart hperm] at hlookup
  exact ⟨m', hlookup, sorted, hperm, hlists'⟩

/-- An object that overlaps no other one is listed last. -/
theorem insert (h : m.Stores os) {o : Object} (hfree : ∀ e ∈ os, e.span.overlaps o.span = false) :
    ∃ m', m.insert o.span o = (.ok (), m') ∧ m'.Stores (os ++ [o]) := by
  obtain ⟨sorted, hperm, hlists⟩ := h
  obtain ⟨m', hinsert, hlists'⟩ := hlists.insert fun e he => hfree e (hperm.mem_iff.mp he)
  refine ⟨m', hinsert, _, ?_, hlists'⟩
  exact (LinearPool.place_perm o sorted).trans
    ((hperm.cons o).trans (List.perm_append_singleton o os).symm)

/-- To remove an address leaves the objects that start elsewhere. -/
theorem removeAt (h : m.Stores os) (base : Address) :
    (m.removeAt base).2.Stores (os.filter fun e => e.span.start ≠ base) := by
  obtain ⟨sorted, hperm, hlists⟩ := h
  obtain ⟨r, m', hremove, -, hlists'⟩ := hlists.removeAt base
  rw [hremove]
  exact ⟨_, hperm.filter _, hlists'⟩

/-- There are as many entries as objects. -/
theorem size (h : m.Stores os) : m.size = os.length := by
  obtain ⟨sorted, hperm, hlists⟩ := h
  rw [hlists.size, hperm.length_eq]

end Stores

/-- A cleared map has no objects. -/
theorem stores_clear (m : SpanMap Object) : m.clear.Stores [] :=
  ⟨[], List.Perm.refl _, Represents.clear m⟩

end SpanMap

namespace Pool

open SpanMap

/-! ### Eviction -/

theorem filter_of_find?_eq_none {os : List Object} {p : Object → Bool} (hfind : os.find? p = none) :
    os.filter p = [] ∧ (os.filter fun e => !p e) = os := by
  rw [List.find?_eq_none] at hfind
  refine ⟨List.filter_eq_nil_iff.mpr hfind, List.filter_eq_self.mpr ?_⟩
  intro e he
  simpa using hfind e he

/-- The object that a search finds is the first one that its filter keeps. -/
theorem filter_of_find? {os : List Object} (h : Apart os) {p : Object → Bool} {o : Object}
    (hfind : os.find? p = some o) :
    os.filter p = o :: (os.filter fun e => e.span ≠ o.span).filter p ∧
      (os.filter fun e => !p e) = (os.filter fun e => e.span ≠ o.span).filter fun e => !p e := by
  obtain ⟨hp, low, high, rfl, hlow⟩ := List.find?_eq_some_iff_append.mp hfind
  -- objects that are apart are told apart by their spans, and none stands in the list twice
  have hne : ∀ e ∈ low ++ o :: high, e ≠ o → e.span ≠ o.span := by
    intro e he hne hspan
    exact hne (h.eq_of_overlaps he (by simp) (by rw [hspan]; exact Span.overlaps_self _))
  have hnodup : (low ++ o :: high).Nodup := by
    refine List.Pairwise.imp ?_ h
    rintro e e' hov rfl
    rw [Span.overlaps_self] at hov
    cases hov
  have hrest : ((low ++ o :: high).filter fun e => e.span ≠ o.span) = low ++ high := by
    rw [List.nodup_append', List.nodup_cons, List.disjoint_cons_right] at hnodup
    rw [List.filter_append, List.filter_cons_of_neg (by simp), List.filter_eq_self.mpr,
      List.filter_eq_self.mpr]
    · intro e he
      have hoff : e ≠ o := fun heq => hnodup.2.1.1 (heq ▸ he)
      simpa using hne e (by simp [he]) hoff
    · intro e he
      have hoff : e ≠ o := fun heq => hnodup.2.2.1 (heq ▸ he)
      simpa using hne e (by simp [he]) hoff
  rw [hrest]
  constructor
  · have hnone : low.filter p = [] := by
      rw [List.filter_eq_nil_iff]
      intro e he
      simpa using hlow e he
    rw [List.filter_append, List.filter_cons_of_pos hp, List.filter_append, hnone]
    rfl
  · rw [List.filter_append, List.filter_cons_of_neg (by simp [hp]), List.filter_append]

/-- Evicting takes out the objects that overlap a span and their places in the quarantine. -/
theorem dropOverlapping_eq {m : SpanMap Object} {os : List Object} (h : m.Lists os) (s : Span)
    (n : Nat) (hn : (os.filter fun o => o.span.overlaps s).length < n)
    (quarantine : List (Address × Nat)) :
    ∃ m', dropOverlapping s n m quarantine =
        (m', quarantine.filter fun k => k ∉ (os.filter fun o => o.span.overlaps s).map Object.key) ∧
      m'.Lists (os.filter fun o => !o.span.overlaps s) := by
  induction n generalizing m os quarantine with
  | zero => omega
  | succ n ih =>
    obtain ⟨m₁, hsearch, hlists⟩ := h.firstOverlapping s
    rw [dropOverlapping, hsearch]
    cases hfind : os.find? fun o => o.span.overlaps s with
    | none =>
      obtain ⟨hnil, hall⟩ := filter_of_find?_eq_none hfind
      rw [hall]
      refine ⟨m₁, ?_, hlists⟩
      simp [hnil]
    | some o =>
      obtain ⟨m₂, hremove, hlists'⟩ := hlists.remove (List.mem_of_find?_eq_some hfind)
      obtain ⟨hhit, hrest⟩ := filter_of_find? h.apart hfind
      rw [hhit, List.length_cons] at hn
      -- the rest of the loop takes out the other hits, which the bound still allows
      obtain ⟨m', hdrop, hlists''⟩ := ih hlists' (by omega)
        (quarantine.filter fun k => k ≠ (o.span.start, o.allocId))
      refine ⟨m', ?_, ?_⟩
      · simp only [Option.map_some, Object.entry, hremove]
        rw [hdrop, List.filter_filter, hhit]
        simp [Object.key, Bool.and_comm]
      · rw [hrest]
        exact hlists''

/-- Evicting from a map whose objects stand in the quarantine in some order. -/
theorem dropOverlapping_stores {m : SpanMap Object} {os : List Object} (h : m.Stores os)
    (s : Span) :
    ∃ m', dropOverlapping s (m.size + 1) m (os.map Object.key) =
        (m', (os.filter fun o => !o.span.overlaps s).map Object.key) ∧
      m'.Stores (os.filter fun o => !o.span.overlaps s) := by
  have happart := h.apart
  obtain ⟨sorted, hperm, hlists⟩ := h
  -- there is a round for each object of the map, and one to find no more
  have hn : (sorted.filter fun o => o.span.overlaps s).length < m.size + 1 := by
    rw [hlists.size]
    exact Nat.lt_succ_of_le (List.length_filter_le _ _)
  obtain ⟨m', hdrop, hlists'⟩ := dropOverlapping_eq hlists s _ hn (os.map Object.key)
  refine ⟨m', ?_, _, hperm.filter _, hlists'⟩
  rw [hdrop, List.filter_map]
  -- the quarantine loses the keys of the hits, and no other object has one of these keys
  congr 2
  refine List.filter_congr fun o ho => ?_
  rw [Function.comp_apply, Bool.eq_iff_iff, decide_eq_true_iff, Bool.not_eq_true']
  constructor
  · intro hnot
    rw [← Bool.not_eq_true]
    exact fun hov => hnot (List.mem_map.mpr
      ⟨o, List.mem_filter.mpr ⟨hperm.mem_iff.mpr ho, hov⟩, rfl⟩)
  · -- an object with the same base shares that base, so it is the same object
    intro hov hmem
    obtain ⟨o', ho', hkey⟩ := List.mem_map.mp hmem
    obtain ⟨hmem', hov'⟩ := List.mem_filter.mp ho'
    rw [happart.eq_of_start_eq (hperm.mem_iff.mp hmem') ho (congrArg Prod.fst hkey), hov] at hov'
    cases hov'

/-! ### Trimming -/

/-- Trimming keeps the newest objects. -/
theorem trim_eq {m : SpanMap Object} {os : List Object} (h : m.Stores os) (most : Nat) :
    ∃ m', trim most (os.map Object.key) m = ((LinearPool.newest most os).map Object.key, m') ∧
      m'.Stores (LinearPool.newest most os) := by
  induction os generalizing m with
  | nil =>
    rw [LinearPool.newest_of_length_le (Nat.zero_le most)]
    exact ⟨m, rfl, h⟩
  | cons o rest ih =>
    have hsize := h.size
    rw [List.length_cons] at hsize
    rw [List.map_cons, Object.key, trim, hsize]
    by_cases hlt : most < rest.length + 1
    · -- the front of the quarantine names the object at that base, and no other has the base
      obtain ⟨m₁, hlookup, hstores⟩ := h.lookup o.span.start
      rw [(LinearPool.covering_eq_some_iff h.apart).mpr ⟨by simp, o.span.contains_start⟩] at hlookup
      have hrest : ((o :: rest).filter fun e => e.span.start ≠ o.span.start) = rest := by
        rw [List.filter_cons_of_neg (by simp), List.filter_eq_self]
        intro e he
        have hov := (Apart.cons_iff.mp h.apart).1 e he
        simp only [ne_eq, decide_eq_true_eq]
        intro hstart
        rw [Span.overlaps_of_start_eq hstart.symm] at hov
        cases hov
      have hstores' := hstores.removeAt o.span.start
      rw [hrest] at hstores'
      obtain ⟨m', htrim, hstores''⟩ := ih hstores'
      rw [LinearPool.newest_cons (by omega)]
      refine ⟨m', ?_, hstores''⟩
      simpa [hlt, hlookup, Object.entry] using htrim
    · -- so few objects may all stay
      rw [if_neg hlt, LinearPool.newest_of_length_le (by simp; omega)]
      exact ⟨m, rfl, h⟩

end Pool

end MemorySentry
