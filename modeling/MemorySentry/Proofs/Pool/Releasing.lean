import MemorySentry.Proofs.Pool.Registering
import Mathlib.Order.CompletePartialOrder

/-!
# Removing what was registered

An object is registered at the start of its life and removed at the end of it: a block from an
allocator by a free, an object of a scope when the scope ends. Both removals go by the base of the
object. A registration may find objects in the way that nobody has removed, and takes them out or
takes them in. Where it takes one in that begins below the new one, the base is another one
afterwards, and the removal finds no object there.

- `LinearPool.newcomer_start_eq_iff`: when a registration leaves its object where it was registered;
- `Pools.performAll_release`: when the removal that follows a registration clears the span.
-/

namespace MemorySentry

/-- Spans that do not overlap have no byte in common. -/
theorem Span.disjoint_bytes {s t : Span} (h : s.overlaps t = false) : Disjoint s.bytes t.bytes := by
  rw [Set.disjoint_left]
  intro n hs ht
  -- a common byte has an address, and so the spans overlap there
  obtain ⟨a, rfl⟩ := exists_address hs
  rw [overlaps_of_contains (mem_bytes_iff.mp hs) (mem_bytes_iff.mp ht)] at h
  cases h

/-- Spans have no byte in common exactly if they do not overlap. -/
theorem Span.disjoint_bytes_iff {s t : Span} :
    Disjoint s.bytes t.bytes ↔ s.overlaps t = false := by
  refine ⟨fun h => ?_, disjoint_bytes⟩
  rw [← Bool.not_eq_true, overlaps_iff_exists_contains]
  rintro ⟨a, hs, ht⟩
  exact Set.disjoint_left.mp h (mem_bytes_iff.mpr hs) (mem_bytes_iff.mpr ht)

namespace Pool

/-- The operations that remove an object of a kind from the pool, by its base. Objects that live as
long as the program are never removed. -/
inductive Command.Removes (a : Address) : ObjectKind → Command → Prop
  /-- A block is given back to its allocator. -/
  | free {kind : ObjectKind} (hkind : kind = .heap ∨ kind = .custom) (site : Option Site) :
      Removes a kind (.free a site)
  /-- The scope of a variable, or of an argument that was passed by value, ends. -/
  | endScope {kind : ObjectKind} (hkind : kind = .stack ∨ kind = .byValue) :
      Removes a kind (.endScope a)

/-- Of the objects that are ever removed, only those of the stack merge with others. -/
theorem Command.Removes.kind_eq_stack {a : Address} {kind : ObjectKind} {removal : Command}
    (h : removal.Removes a kind) (hmerges : kind.merges = true) : kind = .stack := by
  cases h with
  | free hkind => rcases hkind with rfl | rfl <;> cases hmerges
  | endScope hkind =>
    rcases hkind with rfl | rfl
    · rfl
    · cases hmerges

end Pool

namespace LinearPool

variable {q : LinearPool} {numbers : Numbering} {s : Span} {kind : ObjectKind}
  {site : Option Site}

/-- The new object begins where the span does, unless it takes in an object that begins below. -/
theorem newcomer_start_eq_iff :
    (q.newcomer numbers s kind site).span.start = s.start ↔
      ∀ o ∈ q.members s kind, s.start ≤ o.span.start := by
  constructor
  · intro hstart o ho
    have hfirst : (q.newcomer numbers s kind site).span.contains o.span.start = true :=
      contains_newcomer_iff.mpr (.inr ⟨o, ho, o.span.contains_start⟩)
    rw [← hstart]
    exact (Span.contains_iff.mp hfirst).1
  · intro hmembers
    have hfirst : (q.newcomer numbers s kind site).span.contains s.start = true :=
      contains_newcomer_iff.mpr (.inl s.contains_start)
    apply UInt64.le_antisymm (Span.contains_iff.mp hfirst).1
    -- the first address is one of the span or of an object that is taken in
    rcases contains_newcomer_iff.mp (q.newcomer numbers s kind site).span.contains_start with
      hspan | ⟨o, ho, hcontains⟩
    · exact (Span.contains_iff.mp hspan).1
    · exact UInt64.le_trans (hmembers o ho) (Span.contains_iff.mp hcontains).1

/-- An object of a kind that does not merge takes nothing in. -/
theorem members_of_not_merges (hkind : kind.merges = false) : q.members s kind = [] := by
  simp [members, hkind]

/-- An object that a span does not overlap starts elsewhere. -/
theorem start_ne_of_not_overlaps {o : Object} (hov : o.span.overlaps s = false) :
    o.span.start ≠ s.start := by
  intro hstart
  rw [Span.overlaps_of_start_eq hstart] at hov
  cases hov

/-- The live objects after a registration and the removal of its object are those of the
registration without the one that begins where the span does. -/
theorem live_removed (hq : q.Valid) (hs : s.start ≠ 0) {removal : Pool.Command}
    (hremoval : removal.Removes s.start kind) :
    (q.performAll numbers [.register s kind site, removal]).2.1.live =
      (q.register numbers s kind site).2.1.live.filter fun e => e.span.start ≠ s.start := by
  cases hremoval with
  | endScope =>
    show ((q.register numbers s kind site).2.1.endScope s.start).2.live = _
    rw [endScope_eq]
  | free hkind freeSite =>
    have hheap : kind.isHeap = true := by rcases hkind with rfl | rfl <;> rfl
    have hmerges : kind.merges = false := by rcases hkind with rfl | rfl <;> rfl
    have hvalid : (q.register numbers s kind site).2.1.Valid := hq.register numbers s kind site
    -- a block takes nothing in, so the free finds it where it was registered
    obtain ⟨-, hnew⟩ := register_of_no_member numbers site (members_of_not_merges hmerges)
    have hat : (q.register numbers s kind site).2.1.objectAt s.start =
        some (q.newcomer numbers s kind site) := by
      refine (covering_eq_some_iff hvalid.apart_live).mpr ⟨mem_register_live.mpr (.inl rfl), ?_⟩
      exact contains_newcomer_iff.mpr (.inl s.contains_start)
    show ((q.register numbers s kind site).2.1.free _ s.start freeSite).2.1.live = _
    rw [free, if_neg hs, hat, hnew]
    simp [Pool.newObject, hheap]

/-- Where the new object begins where the span does, its removal leaves the objects that do not
overlap the span. -/
theorem live_removed_of_start_eq
    (hstart : (q.newcomer numbers s kind site).span.start = s.start) :
    ((q.register numbers s kind site).2.1.live.filter fun e => e.span.start ≠ s.start).Perm
      (q.live.filter fun o => !o.span.overlaps s) := by
  -- the removal takes the new object, and no other object begins in the span
  have hperm : (q.register numbers s kind site).2.1.live.Perm
      (q.newcomer numbers s kind site :: q.live.filter fun o => !o.span.overlaps s) :=
    place_perm _ _
  have hrest : ((q.live.filter fun o => !o.span.overlaps s).filter fun e =>
      e.span.start ≠ s.start) = q.live.filter fun o => !o.span.overlaps s := by
    refine List.filter_eq_self.mpr fun e he => ?_
    have hov : e.span.overlaps s = false := by simpa using (List.mem_filter.mp he).2
    simpa using start_ne_of_not_overlaps hov
  refine (hperm.filter _).trans ?_
  rw [List.filter_cons_of_neg (by simp [hstart]), hrest]

/-- Where the new object begins elsewhere, no object begins where the span does. -/
theorem live_removed_of_start_ne
    (hstart : (q.newcomer numbers s kind site).span.start ≠ s.start) :
    ((q.register numbers s kind site).2.1.live.filter fun e => e.span.start ≠ s.start) =
      (q.register numbers s kind site).2.1.live := by
  -- the new object begins elsewhere, and all others are apart from the span
  refine List.filter_eq_self.mpr fun e he => ?_
  rcases mem_register_live.mp he with rfl | ⟨-, hov⟩
  · simpa using hstart
  · simpa using start_ne_of_not_overlaps hov

end LinearPool

namespace Pool.Refines

variable {p : Pool} {q : LinearPool} {s : Span} {kind : ObjectKind} {removal : Command}

/-- An object that was just registered and is then removed leaves the others that the registration
left. -/
theorem objects_removed (h : p.Refines q) (numbers : Numbering) (site : Option Site)
    (hs : s.start ≠ 0) (hremoval : removal.Removes s.start kind) :
    (p.performAll numbers [.register s kind site, removal]).2.1.objects =
      (q.register numbers s kind site).2.1.live.filter fun e => e.span.start ≠ s.start := by
  rw [← LinearPool.live_removed h.valid hs hremoval]
  exact (performAll_refines h numbers [.register s kind site, removal]).2.1.objects

/-- If a registration takes in nothing that begins below it, the removal clears the span and leaves
the objects beside it. -/
theorem removal_clears (h : p.Refines q) (numbers : Numbering) (site : Option Site)
    (hs : s.start ≠ 0) (hremoval : removal.Removes s.start kind)
    (hmembers : ∀ o ∈ p.members s kind, s.start ≤ o.span.start) :
    let after := (p.performAll numbers [.register s kind site, removal]).2.1.objects
    (∀ o ∈ after, Disjoint o.span.bytes s.bytes) ∧
      after.Perm (p.objects.filter fun o => !o.span.overlaps s) := by
  intro after
  rw [h.members_eq] at hmembers
  have hafter : after = (q.register numbers s kind site).2.1.live.filter
      fun e => e.span.start ≠ s.start := h.objects_removed numbers site hs hremoval
  have hperm : after.Perm (p.objects.filter fun o => !o.span.overlaps s) := by
    rw [hafter, h.objects]
    exact LinearPool.live_removed_of_start_eq (LinearPool.newcomer_start_eq_iff.mpr hmembers)
  refine ⟨fun o ho => ?_, hperm⟩
  have hov := (List.mem_filter.mp (hperm.mem_iff.mp ho)).2
  exact Span.disjoint_bytes (by simpa using hov)

/-- If a registration takes in an object that begins below it, the removal finds nothing, and the
wider object stays. -/
theorem removal_misses (h : p.Refines q) (numbers : Numbering) (site : Option Site)
    (hs : s.start ≠ 0) (hremoval : removal.Removes s.start kind) {low : Object}
    (hlow : low ∈ p.members s kind) (hbelow : low.span.start < s.start) :
    let after := (p.performAll numbers [.register s kind site, removal]).2.1.objects
    kind = .stack ∧ after = (p.register numbers s kind site).2.1.objects ∧
      ∃ o ∈ after, s.bytes ⊆ o.span.bytes := by
  intro after
  rw [h.members_eq] at hlow
  have hstart : (q.newcomer numbers s kind site).span.start ≠ s.start := by
    intro heq
    exact absurd hbelow (UInt64.not_lt.mpr (LinearPool.newcomer_start_eq_iff.mp heq low hlow))
  have hafter : after = (q.register numbers s kind site).2.1.live :=
    (h.objects_removed numbers site hs hremoval).trans
      (LinearPool.live_removed_of_start_ne hstart)
  -- the new object has the bytes of all that it is made of, those of the span among them
  have hbytes : s.bytes ⊆ (q.newcomer numbers s kind site).span.bytes := by
    rw [LinearPool.newcomer_span,
      Span.bytes_hullOf fun o ho => (LinearPool.mem_members.mp ho).1.2]
    exact Set.subset_union_left
  have hmerges : kind.merges = true := (LinearPool.mem_members.mp hlow).2.1
  refine ⟨hremoval.kind_eq_stack hmerges, ?_, q.newcomer numbers s kind site, ?_, hbytes⟩
  · exact hafter.trans (h.register numbers s kind site).refines.objects.symm
  · rw [hafter]
    exact LinearPool.mem_register_live.mpr (.inl rfl)

end Pool.Refines

namespace Pools

variable {ι : Type} [DecidableEq ι]

/-- In every pool that a run can reach, an object is registered and removed again at once. If the
registration takes in no object that begins below it, nothing live is left in its span, and of the
other live objects those are left that do not overlap the span. If it takes in such an object, which
only an object of the stack can do, the removal does nothing, and the object that is left has all
bytes of the span. -/
theorem performAll_release (retention : ι → Retention) (cs : List (ι × Pool.Command)) (i : ι)
    {s : Span} (hs : s.start ≠ 0) {kind : ObjectKind} (site : Option Site)
    {removal : Pool.Command} (hremoval : removal.Removes s.start kind) :
    let ps := ((fresh retention).performAll cs).2
    let p := ps.pool i
    let after := (p.performAll ps.numbers [.register s kind site, removal]).2.1.objects
    ((∀ o ∈ p.members s kind, s.start ≤ o.span.start) →
      (∀ o ∈ after, Disjoint o.span.bytes s.bytes) ∧
      after.Perm (p.objects.filter fun o => !o.span.overlaps s)) ∧
    ((∃ o ∈ p.members s kind, o.span.start < s.start) →
      kind = .stack ∧ after = (p.register ps.numbers s kind site).2.1.objects ∧
      ∃ o ∈ after, s.bytes ⊆ o.span.bytes) := by
  intro ps p after
  obtain ⟨qs, h, -⟩ := performAll_refines (refines_fresh retention) cs
  have hp : p.Refines (qs i) := h.pools i
  constructor
  · intro hmembers
    exact hp.removal_clears ps.numbers site hs hremoval hmembers
  · rintro ⟨low, hlow, hbelow⟩
    exact hp.removal_misses ps.numbers site hs hremoval hlow hbelow

/-- A frame of the stack was left without an end of its scope. A new frame with the same base takes
it in and takes it along at its own end. -/
theorem performAll_release_same_base :
    let ps := ((fresh fun _ : Unit => .immediate).performAll
      [((), .register ⟨4096, 4160, by decide⟩ .stack none)]).2
    let s : Span := ⟨4096, 4128, by decide⟩
    let after := ((ps.pool ()).performAll ps.numbers
      [.register s .stack none, .endScope 4096]).2.1.objects
    (∀ o ∈ (ps.pool ()).members s .stack, s.start ≤ o.span.start) ∧
      ∀ o ∈ after, Disjoint o.span.bytes s.bytes := by
  intro ps s after
  have hmembers : ∀ o ∈ (ps.pool ()).members s .stack, s.start ≤ o.span.start := by decide +kernel
  have hs : s.start ≠ 0 := by decide
  have hrelease := performAll_release (fun _ : Unit => .immediate)
    [((), .register ⟨4096, 4160, by decide⟩ .stack none)] () hs none
    (.endScope (show ObjectKind.stack = .stack ∨ _ from .inl rfl))
  exact ⟨hmembers, (hrelease.1 hmembers).1⟩

/-- A new frame above the base of the old one takes it in as well, but at its end no object has its
base. The old frame stays, with the bytes of both. -/
theorem release_keeps_wider_frame :
    let ps := ((fresh fun _ : Unit => .immediate).performAll
      [((), .register ⟨4096, 4160, by decide⟩ .stack none)]).2
    let s : Span := ⟨4128, 4192, by decide⟩
    s.start ≠ 0 ∧ Pool.Command.Removes s.start .stack (.endScope s.start) ∧
      ∃ o ∈ ((ps.pool ()).performAll ps.numbers
        [.register s .stack none, .endScope s.start]).2.1.objects,
        ¬ Disjoint o.span.bytes s.bytes := by
  intro ps s
  let wider : Object :=
    { span := ⟨4096, 4192, by decide⟩, kind := .stack, allocId := 1, allocSite := none }
  have hwider : wider ∈ ((ps.pool ()).performAll ps.numbers
      [.register s .stack none, .endScope s.start]).2.1.objects := by decide +kernel
  have hfirst : s.start.toNat ∈ wider.span.bytes := Span.mem_bytes_iff.mpr (by decide)
  refine ⟨by decide, .endScope (.inl rfl), wider, hwider, ?_⟩
  exact Set.not_disjoint_iff.mpr ⟨s.start.toNat, hfirst, s.start_mem_bytes⟩

end Pools

end MemorySentry
