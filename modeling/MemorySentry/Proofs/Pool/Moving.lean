import MemorySentry.Proofs.Pool.Frees
import MemorySentry.Proofs.Pool.Releasing

/-!
# What a move does

A reallocation frees the block at the old address and registers one at the new address, and the two
may be the same block, overlap or lie apart. The free comes first. So a refused free ends the move
before anything is registered (`move_of_free_error`), and a block that grows or shrinks where it is
takes back the addresses of the block that was freed. `Moves` says what a move that goes through
leaves.

- `move_failed`, `move_empty`: moves that are not moves;
- `Refines.moves`: the free and the registration put together;
- `Pools.performAll_move`: all moves in every pool that a run can reach.
-/

namespace MemorySentry

namespace LinearPool

/-- An object that has come to the end stays if any object may stay. -/
theorem mem_newest_concat_iff {n : Nat} {os : List Object} {o : Object} :
    o ∈ newest n (os ++ [o]) ↔ 0 < n := by
  constructor
  · intro hmem
    exact (List.length_pos_of_mem hmem).trans_le (length_newest_le n _)
  · intro hn
    obtain ⟨older, heq⟩ := newest_append os [o] hn
    rw [heq]
    exact List.mem_append_right older List.mem_cons_self

end LinearPool

namespace Pool

/-- What a move leaves that frees an object and registers a span: the answer, the pool and the
numbers after it. -/
structure Moves (p : Pool) (numbers : Numbering) (o : Object) (s : Span) (kind : ObjectKind)
    (site : Option Site) (r : Except Violation (Option Registration) × Pool × Numbering) :
    Prop where
  /-- The answer tells of the span. -/
  answer : ∃ registration, r.1 = .ok (some registration) ∧ registration.span = s
  /-- The new object takes the place of the old one and of all objects that overlap the span. The
  others are as they were. -/
  objects : r.2.1.objects.Perm
    (newObject numbers s kind site ::
      (p.objects.filter fun e => e ≠ o).filter fun e => !e.span.overlaps s)
  /-- The old object is retained if objects are retained at all and the span is beside it. -/
  retained_iff : o.retire numbers.nextFree site ∈ r.2.1.retainedObjects ↔
    p.retention.retains = true ∧ Disjoint o.span.bytes s.bytes
  /-- No object that is retained is in the span. -/
  vacated : ∀ e ∈ r.2.1.retainedObjects, Disjoint e.span.bytes s.bytes
  /-- The free and the registration have taken a number each. -/
  numbers : r.2.2 = { nextAlloc := numbers.nextAlloc + 1, nextFree := numbers.nextFree + 1 }

section

variable {p : Pool} {numbers : Numbering} {new old : Address} {size : ByteCount}
  {kind : ObjectKind} {site : Option Site}

/-- Without an old address a move is a plain registration. -/
theorem move_null : p.move numbers new 0 size kind site =
    (.ok (p.registerBytes numbers new size kind site).1,
      (p.registerBytes numbers new size kind site).2) := by
  rw [move, if_pos rfl]

/-- Bytes at the null address and bytes that make no span are not registered. -/
theorem registerBytes_eq_none
    (h : new = 0 ∨ ∀ s, Span.ofLength new size ≠ .ok s) :
    p.registerBytes numbers new size kind site = (none, p, numbers) := by
  rw [registerBytes]
  split
  · rfl
  · next hnew =>
    cases hspan : Span.ofLength new size with
    | error e => rfl
    | ok s => exact absurd hspan (h.resolve_left hnew s)

/-- A reallocation that returned null changes nothing. -/
theorem move_failed (hold : old ≠ 0) (hsize : size ≠ 0) :
    p.move numbers 0 old size kind site = (.ok none, p, numbers) := by
  rw [move, if_neg hold, if_neg hsize, if_pos rfl]

/-- A reallocation to no bytes is a free. -/
theorem move_empty (hold : old ≠ 0) :
    p.move numbers new old 0 kind site =
      ((p.free numbers old site).1.map fun _ => none, (p.free numbers old site).2) := by
  rw [move, if_neg hold, if_pos rfl]

/-- A refused free ends the move. -/
theorem move_of_free_error (hfailed : ¬ (old ≠ 0 ∧ size ≠ 0 ∧ new = 0)) {v : Violation}
    (hv : (p.free numbers old site).1 = .error v) :
    p.move numbers new old size kind site = (.error v, (p.free numbers old site).2) := by
  have hold : old ≠ 0 := by
    rintro rfl
    cases hv
  rcases hfree : p.free numbers old site with ⟨r, p', numbers'⟩
  obtain rfl : r = .error v := by rw [← hv, hfree]
  rw [move, if_neg hold, hfree]
  by_cases hsize : size = 0
  · rw [if_pos hsize]
    rfl
  · rw [if_neg hsize, if_neg (by tauto)]

/-- After the free the new block is registered with the numbers that the free has left. -/
theorem move_of_free_ok (hold : old ≠ 0) (hsize : size ≠ 0) (hnew : new ≠ 0)
    {freed : Option Object} (hfreed : (p.free numbers old site).1 = .ok freed) :
    p.move numbers new old size kind site =
      (.ok ((p.free numbers old site).2.1.registerBytes (p.free numbers old site).2.2 new size kind
          site).1,
        ((p.free numbers old site).2.1.registerBytes (p.free numbers old site).2.2 new size kind
          site).2) := by
  rcases hfree : p.free numbers old site with ⟨r, p', numbers'⟩
  obtain rfl : r = .ok freed := by rw [← hfreed, hfree]
  rw [move, if_neg hold, if_neg hsize, if_neg hnew, hfree]

/-- A move is refused exactly with the violation of its free. -/
theorem move_eq_error_iff {v : Violation} :
    (p.move numbers new old size kind site).1 = .error v ↔
      (p.free numbers old site).1 = .error v ∧ ¬ (old ≠ 0 ∧ size ≠ 0 ∧ new = 0) := by
  by_cases hold : old = 0
  · -- there is nothing to free, and a registration is never refused
    subst hold
    rw [move_null]
    simp [free]
  by_cases hsize : size = 0
  · subst hsize
    rw [move_empty hold]
    cases (p.free numbers old site).1 <;> simp [Except.map]
  by_cases hnew : new = 0
  · subst hnew
    rw [move_failed hold hsize]
    simp [hold, hsize]
  cases hfree : (p.free numbers old site).1 with
  | error v' =>
    rw [move_of_free_error (by tauto) hfree]
    simp [hnew]
  | ok freed =>
    rw [move_of_free_ok hold hsize hnew hfree]
    simp

end

namespace Refines

variable {p : Pool} {q : LinearPool}

/-- An object of a kind that does not merge is registered as it is, and takes the place of all that
overlap it. -/
theorem register_of_not_merges (h : p.Refines q) (numbers : Numbering) (s : Span)
    {kind : ObjectKind} (hkind : kind.merges = false) (site : Option Site) :
    (p.register numbers s kind site).1.span = s ∧
      (p.register numbers s kind site).2.1.objects.Perm
        (newObject numbers s kind site :: p.objects.filter fun e => !e.span.overlaps s) ∧
      ∀ e, e ∈ (p.register numbers s kind site).2.1.retainedObjects ↔
        e ∈ p.retainedObjects ∧ e.span.overlaps s = false := by
  have hmembers : q.members s kind = [] := LinearPool.members_of_not_merges hkind
  obtain ⟨hanswer, hobject⟩ := LinearPool.register_of_no_member numbers site hmembers
  obtain ⟨hanswer', hrefines, -⟩ := h.register numbers s kind site
  refine ⟨?_, ?_, ?_⟩
  · rw [hanswer', hanswer]
    cases (q.live.filter fun o => o.span.overlaps s).getLast? <;> rfl
  · rw [hrefines.objects, h.objects, ← hobject]
    exact LinearPool.place_perm _ _
  · intro e
    have hmem : e ∈ (q.register numbers s kind site).2.1.retained ↔
        e ∈ q.retained ∧ (!e.span.overlaps s) = true := List.mem_filter
    rw [hrefines.mem_retainedObjects, h.mem_retainedObjects, hmem, Bool.not_eq_true']

/-- An object that a free has given back is retained if objects are retained at all. -/
theorem retained_free_iff (h : p.Refines q) {old : Address} (hold : old ≠ 0) {o : Object}
    (ho : p.FreeableAt old o) (numbers : Numbering) (site : Option Site) :
    o.retire numbers.nextFree site ∈ (p.free numbers old site).2.1.retainedObjects ↔
      p.retention.retains = true := by
  obtain ⟨hat, hheap, hbase⟩ := h.freeableAt_iff.mp ho
  have hretained : (q.free numbers old site).2.1.retained =
      LinearPool.newest q.retention.capacity (q.retained ++ [o.retire numbers.nextFree site]) := by
    simp [LinearPool.free, hold, hat, hheap, hbase]
  rw [(h.free numbers old site).refines.mem_retainedObjects, hretained,
    LinearPool.mem_newest_concat_iff, h.retention, Retention.retains, decide_eq_true_iff]

/-- A move of an object from an allocator to a span. -/
theorem moves (h : p.Refines q) {old : Address} (hold : old ≠ 0) {o : Object}
    (ho : p.FreeableAt old o) {new : Address} (hnew : new ≠ 0) {size : ByteCount} (hsize : size ≠ 0)
    {s : Span} (hspan : Span.ofLength new size = .ok s) {kind : ObjectKind}
    (hkind : kind.merges = false) (numbers : Numbering) (site : Option Site) :
    p.Moves numbers o s kind site (p.move numbers new old size kind site) := by
  obtain ⟨hfreed, hobjects, hnumbers⟩ := h.free_of_freeableAt hold ho numbers site
  have hretains := h.retained_free_iff hold ho numbers site
  have h₁ := (h.free numbers old site).refines
  rw [move_of_free_ok hold hsize hnew hfreed, hnumbers, Pool.registerBytes, if_neg hnew, hspan]
  -- from here on only what the free has left matters
  generalize (p.free numbers old site).2.1 = p₁ at hobjects hretains h₁ ⊢
  obtain ⟨hanswer, hperm, hkept⟩ := h₁.register_of_not_merges
    { numbers with nextFree := numbers.nextFree + 1 } s hkind site
  refine ⟨⟨_, rfl, hanswer⟩, ?_, ?_, ?_, ?_⟩
  · rw [hobjects] at hperm
    exact hperm
  · rw [hkept, hretains, Span.disjoint_bytes_iff]
    rfl
  · intro e he
    exact Span.disjoint_bytes ((hkept e).mp he).2
  · exact (h₁.register _ s kind site).numbers

/-! ### Whether a move registers anything -/

/-- A move to a span registers it if there is nothing to free or an object that can be freed. -/
theorem move_registers (h : p.Refines q) (numbers : Numbering) {new old : Address}
    {size : ByteCount} {s : Span} (hspan : Span.ofLength new size = .ok s) (hnew : new ≠ 0)
    (hold : old ≠ 0 → ∃ o, p.FreeableAt old o) {kind : ObjectKind} (hkind : kind.merges = false)
    (site : Option Site) :
    (∃ registration, (p.move numbers new old size kind site).1 = .ok (some registration) ∧
      registration.span = s) ∧
    newObject numbers s kind site ∈ (p.move numbers new old size kind site).2.1.objects ∧
    ∀ e ∈ (p.move numbers new old size kind site).2.1.objects,
      e = newObject numbers s kind site ∨ e ∈ p.objects := by
  by_cases hnull : old = 0
  · -- there is nothing to free
    subst hnull
    obtain ⟨hanswer, hperm, -⟩ := h.register_of_not_merges numbers s hkind site
    rw [move_null, Pool.registerBytes, if_neg hnew, hspan]
    refine ⟨⟨_, rfl, hanswer⟩, hperm.mem_iff.mpr List.mem_cons_self, fun e he => ?_⟩
    rcases List.mem_cons.mp (hperm.mem_iff.mp he) with heq | hkept
    · exact .inl heq
    · exact .inr (List.mem_of_mem_filter hkept)
  · obtain ⟨o, ho⟩ := hold hnull
    -- no bytes make no span
    have hsize : size ≠ 0 := by
      rintro rfl
      obtain ⟨e, he⟩ := Span.ofLength_zero new
      rw [he] at hspan
      cases hspan
    have hmoves := h.moves hnull ho hnew hsize hspan hkind numbers site
    refine ⟨hmoves.answer, hmoves.objects.mem_iff.mpr List.mem_cons_self, fun e he => ?_⟩
    rcases List.mem_cons.mp (hmoves.objects.mem_iff.mp he) with heq | hkept
    · exact .inl heq
    · exact .inr (List.mem_of_mem_filter (List.mem_of_mem_filter hkept))

/-- A free does not draw the number of an allocation and adds no object. -/
theorem free_adds_nothing (h : p.Refines q) (numbers : Numbering) (a : Address)
    (site : Option Site) :
    (p.free numbers a site).2.2.nextAlloc = numbers.nextAlloc ∧
      (p.free numbers a site).2.1.objects ⊆ p.objects := by
  obtain ⟨-, hrefines, hnumbers⟩ := h.free numbers a site
  rw [hrefines.objects, h.objects, hnumbers]
  rcases q.free_cases numbers a site with ⟨-, heq⟩ | ⟨-, o, -, -, -, heq⟩ | ⟨v, heq⟩
  · rw [heq]
    exact ⟨rfl, List.Subset.refl _⟩
  · rw [heq]
    exact ⟨rfl, List.filter_sublist.subset⟩
  · rw [heq]
    exact ⟨rfl, List.Subset.refl _⟩

/-- A move registers nothing if it returned null, if its bytes make no span, or if there is
something to free and it cannot be freed. -/
theorem move_registers_nothing (h : p.Refines q) (numbers : Numbering) {new old : Address}
    {size : ByteCount} (hnothing : new = 0 ∨ (∀ s, Span.ofLength new size ≠ .ok s) ∨
      (old ≠ 0 ∧ ∀ o, ¬ p.FreeableAt old o)) (kind : ObjectKind) (site : Option Site) :
    (∀ registration, (p.move numbers new old size kind site).1 ≠ .ok (some registration)) ∧
      (p.move numbers new old size kind site).2.2.nextAlloc = numbers.nextAlloc ∧
      (p.move numbers new old size kind site).2.1.objects ⊆ p.objects := by
  -- the cases follow the order in which a move looks at its arguments
  by_cases hnull : old = 0
  · subst hnull
    rw [move_null, registerBytes_eq_none (by tauto)]
    exact ⟨by simp, rfl, List.Subset.refl _⟩
  obtain ⟨hnext, hobjects⟩ := h.free_adds_nothing numbers old site
  by_cases hsize : size = 0
  · subst hsize
    rw [move_empty hnull]
    refine ⟨fun registration => ?_, hnext, hobjects⟩
    cases (p.free numbers old site).1 <;> simp [Except.map]
  by_cases hnew : new = 0
  · subst hnew
    rw [move_failed hnull hsize]
    exact ⟨by simp, rfl, List.Subset.refl _⟩
  cases hfreed : (p.free numbers old site).1 with
  | error v =>
    rw [move_of_free_error (by tauto) hfreed]
    exact ⟨by simp, hnext, hobjects⟩
  | ok freed =>
    -- the free has gone through, so it can only be that the bytes make no span
    have hspan : ∀ s, Span.ofLength new size ≠ .ok s := by
      rcases h.free_cases hnull numbers site with ⟨o, ho⟩ | ⟨v, hv, -⟩
      · rcases hnothing with hzero | hspan | ⟨-, hrefused⟩
        · exact absurd hzero hnew
        · exact hspan
        · exact absurd ho (hrefused o)
      · rw [hv] at hfreed
        cases hfreed
    rw [move_of_free_ok hnull hsize hnew hfreed, registerBytes_eq_none (.inr hspan)]
    exact ⟨by simp, hnext, hobjects⟩

end Refines

end Pool

namespace Pools

variable {ι : Type}

/-- No object that a move leaves has the number of the object that it has freed. -/
theorem Refines.allocId_ne_of_moves {ps : Pools ι} {qs : ι → LinearPool} (h : ps.Refines qs)
    {i : ι} {o : Object} (ho : o ∈ (ps.pool i).objects) {s : Span} {kind : ObjectKind}
    {site : Option Site} {r : Except Violation (Option Registration) × Pool × Numbering}
    (hmoves : (ps.pool i).Moves ps.numbers o s kind site r) :
    ∀ e ∈ r.2.1.objects, e.allocId ≠ o.allocId := by
  intro e he
  rw [(h.pools i).objects] at ho
  have hbelow : o.allocId < ps.numbers.nextAlloc :=
    (h.allocIds.below i o.allocId (List.mem_map_of_mem (List.mem_append_left _ ho))).2
  rcases List.mem_cons.mp (hmoves.objects.mem_iff.mp he) with rfl | hkept
  · exact Nat.ne_of_gt hbelow
  · -- the numbers of the other live objects have been different before
    obtain ⟨hmem, hne⟩ := List.mem_filter.mp (List.mem_of_mem_filter hkept)
    rw [(h.pools i).objects] at hmem
    intro heq
    have hsame : e = o := List.inj_on_of_nodup_map (h.allocIds.nodup i)
      (List.mem_append_left _ hmem) (List.mem_append_left _ ho) heq
    simp [hsame] at hne

variable [DecidableEq ι]

/-- In every pool that a run can reach, a move of a block is refused exactly with the violation that
a free of the old address has, and then the pool holds what it held. A reallocation that returned
null changes nothing, and one to no bytes is a free. A move that goes through, to bytes that end in
the address space, leaves the new block as an object with a number that no allocation of the run has
had. The old object is no longer live; it is retained if objects are retained and it lies beside the
new block. -/
theorem performAll_move (retention : ι → Retention) (cs : List (ι × Pool.Command)) (i : ι)
    (new old : Address) (size : ByteCount) {kind : ObjectKind}
    (hkind : kind = .heap ∨ kind = .custom) (site : Option Site) :
    let ps := ((fresh retention).performAll cs).2
    let p := ps.pool i
    let f := p.free ps.numbers old site
    let r := p.move ps.numbers new old size kind site
    (∀ v, r.1 = .error v ↔ f.1 = .error v ∧ ¬ (old ≠ 0 ∧ size ≠ 0 ∧ new = 0)) ∧
    (∀ v, r.1 = .error v → p.SameHoldings r.2.1 ∧ r.2.2 = ps.numbers) ∧
    (old ≠ 0 → size ≠ 0 → new = 0 → r = (.ok none, p, ps.numbers)) ∧
    (old ≠ 0 → size = 0 → r = (f.1.map fun _ => none, f.2)) ∧
    (old ≠ 0 → new ≠ 0 → size ≠ 0 → new.toNat + size.toNat < UInt64.size →
      ∀ registration, r.1 = .ok registration → ∃ o s, p.FreeableAt old o ∧
        s.bytes = Set.Ico new.toNat (new.toNat + size.toNat) ∧
        p.Moves ps.numbers o s kind site r ∧
        (∀ e ∈ r.2.1.objects, e.allocId ≠ o.allocId) ∧
        AllocationsBelow retention cs ps.numbers.nextAlloc) := by
  intro ps p f r
  obtain ⟨qs, h, -⟩ := performAll_refines (refines_fresh retention) cs
  have hp : p.Refines (qs i) := h.pools i
  have hmerges : kind.merges = false := by rcases hkind with rfl | rfl <;> rfl
  refine ⟨fun v => Pool.move_eq_error_iff, ?_, ?_, ?_, ?_⟩
  · intro v hv
    obtain ⟨hrefused, hfailed⟩ := Pool.move_eq_error_iff.mp hv
    have hmove : r = (.error v, f.2) := Pool.move_of_free_error hfailed hrefused
    rw [hmove]
    exact hp.free_error hrefused
  · rintro hold hsize rfl
    exact Pool.move_failed hold hsize
  · rintro hold rfl
    exact Pool.move_empty hold
  · intro hold hnew hsize hfits registration hmoved
    -- the free was not refused, so there was an object to free
    have hfreeable : ∃ o, p.FreeableAt old o := by
      rcases hp.free_cases hold ps.numbers site with ho | ⟨v, hv, -⟩
      · exact ho
      · have hrefused : r.1 = .error v := Pool.move_eq_error_iff.mpr ⟨hv, by tauto⟩
        rw [hrefused] at hmoved
        cases hmoved
    obtain ⟨o, ho⟩ := hfreeable
    have hstop : (new + size).toNat = new.toNat + size.toNat := Word.toNat_add_of_lt hfits
    have hpos : 0 < size.toNat := Nat.pos_of_ne_zero fun hzero => hsize (UInt64.toNat_inj.mp hzero)
    let s : Span := ⟨new, new + size, UInt64.lt_iff_toNat_lt.mpr (by omega)⟩
    have hspan : Span.ofLength new size = .ok s := Span.ofLength_eq_ok_iff.mpr ⟨rfl, hstop⟩
    have hmoves := hp.moves hold ho hnew hsize hspan hmerges ps.numbers site
    refine ⟨o, s, ho, ?_, hmoves, h.allocId_ne_of_moves ho.live hmoves,
      allocationsBelow_performAll retention cs⟩
    rw [Span.bytes, ← hstop]

/-- A block grows where it is, over a neighbour that was lost. No freed object is left at its
addresses, although the pool retains objects. -/
theorem performAll_move_in_place :
    let ps := ((fresh fun _ : Unit => .keep 4).performAll
      [((), .registerBytes 4096 64 .heap none), ((), .registerBytes 4192 16 .heap none)]).2
    let p := ps.pool ()
    let r := p.move ps.numbers 4096 4096 128 .heap none
    ∃ o s, p.FreeableAt 4096 o ∧ s.bytes = Set.Ico 4096 (4096 + 128) ∧
      p.Moves ps.numbers o s .heap none r ∧ r.2.1.retainedObjects = [] := by
  intro ps p r
  obtain ⟨-, -, -, -, hmove⟩ := performAll_move (fun _ : Unit => .keep 4)
    [((), .registerBytes 4096 64 .heap none), ((), .registerBytes 4192 16 .heap none)] ()
    4096 4096 128 (show ObjectKind.heap = .heap ∨ ObjectKind.heap = .custom from .inl rfl) none
  have hmoved : r.1 = .ok (some (.replaced ⟨4096, 4224, by decide⟩
      { span := ⟨4192, 4208, by decide⟩, kind := .heap, allocId := 2, allocSite := none })) := by
    decide +kernel
  obtain ⟨o, s, ho, hbytes, hmoves, -, -⟩ :=
    hmove (by decide) (by decide) (by decide) (by decide) _ hmoved
  exact ⟨o, s, ho, hbytes, hmoves, by decide +kernel⟩

end Pools

end MemorySentry
