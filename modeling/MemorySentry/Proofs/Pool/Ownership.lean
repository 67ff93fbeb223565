import MemorySentry.Proofs.Pool.Validity

/-!
# What a program holds in a pool

A program knows which blocks of memory it holds. If it only registers memory that none of its blocks
has (`Obtains`) and only gives back blocks of the heap or the null address (`Returns`), the live
objects of the pool are the blocks that it holds (`LinearPool.Backs`), whatever the pool retains of
the blocks that were given back. Then every use of a block inside its bounds passes its check.
-/

namespace MemorySentry

/-- A block of memory that a program holds. -/
structure Block where
  /-- The memory. -/
  span : Span
  /-- How the program came by it. -/
  kind : ObjectKind
deriving DecidableEq

namespace Block

/-- The blocks that are not based at an address. -/
def without (bs : List Block) (a : Address) : List Block :=
  bs.filter fun b => b.span.start ≠ a

/-- The program receives `size` bytes at an address. -/
inductive Obtains (bs : List Block) (a : Address) (size : ByteCount) (kind : ObjectKind) :
    List Block → Prop
  | intro {s : Span} (hspan : Span.ofLength a size = .ok s) (hnull : a ≠ 0)
    (hapart : ∀ b ∈ bs, b.span.overlaps s = false) : Obtains bs a size kind (⟨s, kind⟩ :: bs)

/-- The program gives back what is at an address. -/
inductive Returns (bs : List Block) : Address → List Block → Prop
  | null : Returns bs 0 bs
  | base {b : Block} (hb : b ∈ bs) (hheap : b.kind.isHeap = true) :
    Returns bs b.span.start (without bs b.span.start)

end Block

/-- The block that an object occupies. -/
def Object.block (o : Object) : Block :=
  ⟨o.span, o.kind⟩

namespace LinearPool

open Block (without Obtains Returns)

/-- The live objects of the pool are the blocks that the program holds. -/
structure Backs (q : LinearPool) (bs : List Block) : Prop where
  perm : (q.live.map Object.block).Perm bs
  /-- No block is at the null address. -/
  nonnull : ∀ b ∈ bs, b.span.start ≠ 0

/-- A pool without objects backs a program without blocks. -/
theorem backs_empty (retention : Retention) : Backs { retention } [] :=
  ⟨List.Perm.refl _, by simp⟩

namespace Backs

variable {q : LinearPool} {bs bs' : List Block}

/-- A block is one that the program has exactly if a live object is for it. -/
theorem mem_iff (h : q.Backs bs) {b : Block} : b ∈ bs ↔ ∃ o ∈ q.live, o.block = b := by
  rw [← h.perm.mem_iff, List.mem_map]

/-- Every live object is for a block that the program has. -/
theorem block_mem (h : q.Backs bs) {o : Object} (ho : o ∈ q.live) : o.block ∈ bs :=
  h.mem_iff.mpr ⟨o, ho, rfl⟩

/-- The pool finds the block of an address. -/
theorem objectAt (h : q.Backs bs) (hvalid : q.Valid) {b : Block} (hb : b ∈ bs) {a : Address}
    (ha : b.span.contains a = true) : ∃ o ∈ q.live, o.block = b ∧ q.objectAt a = some o := by
  obtain ⟨o, ho, rfl⟩ := h.mem_iff.mp hb
  exact ⟨o, ho, rfl, (covering_eq_some_iff hvalid.apart_live).mpr ⟨ho, ha⟩⟩

/-- No block holds the null address. -/
theorem ne_null (h : q.Backs bs) {b : Block} (hb : b ∈ bs) {a : Address}
    (ha : b.span.contains a = true) : a ≠ 0 := by
  rintro rfl
  have hle := (Span.contains_iff.mp ha).1
  exact h.nonnull b hb (UInt64.le_zero_iff.mp hle)

/-! ### Receiving and giving back -/

/-- To register a block that the program obtains keeps the pool and the blocks in step. -/
theorem registerBytes (h : q.Backs bs) {a : Address} {size : ByteCount} {kind : ObjectKind}
    (hnew : Obtains bs a size kind bs') (numbers : Numbering) (site : Option Site) :
    (q.registerBytes numbers a size kind site).2.1.Backs bs' := by
  cases hnew with
  | @intro s hspan hnull hapart =>
    have hapart' : ∀ o ∈ q.live, o.span.overlaps s = false := fun o ho =>
      hapart o.block (h.block_mem ho)
    have hregister : (q.registerBytes numbers a size kind site).2.1 =
        (q.register numbers s kind site).2.1 := by
      simp only [LinearPool.registerBytes, hspan, if_neg hnull]
    -- nothing is in the way, so the new object stands beside the old ones as it is
    have hkept : (q.live.filter fun o => !o.span.overlaps s) = q.live :=
      List.filter_eq_self.mpr fun o ho => by rw [hapart' o ho]; rfl
    have hmembers : q.members s kind = [] := by
      refine List.eq_nil_iff_forall_not_mem.mpr fun o ho => ?_
      have hov := (mem_members.mp ho).1
      rw [hapart' o hov.1] at hov
      exact Bool.false_ne_true hov.2
    have hnewcomer : (q.newcomer numbers s kind site).block = ⟨s, kind⟩ := by
      simp only [newcomer, hmembers]
      rfl
    have hlive : (q.register numbers s kind site).2.1.live =
        place (q.newcomer numbers s kind site) (q.live.filter fun o => !o.span.overlaps s) := rfl
    rw [hkept] at hlive
    rw [hregister]
    refine ⟨?_, ?_⟩
    · rw [hlive]
      refine ((place_perm _ _).map Object.block).trans ?_
      rw [List.map_cons, hnewcomer]
      exact h.perm.cons _
    · intro b hb
      rcases List.mem_cons.mp hb with rfl | hold
      · rw [(Span.ofLength_eq_ok_iff.mp hspan).1]
        exact hnull
      · exact h.nonnull b hold

/-- To drop the object at an address keeps them in step with one block less. -/
theorem drop (h : q.Backs bs) (a : Address) :
    Backs { q with live := q.live.filter fun e => e.span.start ≠ a } (without bs a) := by
  refine ⟨?_, fun b hb => h.nonnull b (List.mem_of_mem_filter hb)⟩
  have hfilter := h.perm.filter fun b => decide (b.span.start ≠ a)
  rw [List.filter_map] at hfilter
  exact hfilter

/-- A block that the program returns can be freed, and that keeps them in step. -/
theorem free (h : q.Backs bs) (hvalid : q.Valid) {a : Address} (hold : Returns bs a bs')
    (numbers : Numbering) (site : Option Site) :
    ∃ freed q' numbers', q.free numbers a site = (.ok freed, q', numbers') ∧ q'.Backs bs' := by
  cases hold with
  | null => exact ⟨none, q, numbers, rfl, h⟩
  | @base b hb hheap =>
    obtain ⟨o, ho, rfl, hfind⟩ := h.objectAt hvalid hb b.span.contains_start
    have hnull : o.span.start ≠ 0 := h.nonnull _ hb
    have hkind : o.kind.isHeap = true := hheap
    have hfree : q.free numbers o.span.start site = (.ok (some (o.retire numbers.nextFree site)),
        { q with
          live := q.live.filter fun e => e.span.start ≠ o.span.start
          retained :=
            newest q.retention.capacity (q.retained ++ [o.retire numbers.nextFree site]) },
        { numbers with nextFree := numbers.nextFree + 1 }) := by
      have hfind' : q.objectAt o.span.start = some o := hfind
      simp only [LinearPool.free, if_neg hnull, hfind', hkind]
      simp
    have hdrop := h.drop o.span.start
    exact ⟨_, _, _, hfree, hdrop.perm, hdrop.nonnull⟩

/-- The end of a scope keeps them in step with one block less. -/
theorem endScope (h : q.Backs bs) (a : Address) : (q.endScope a).2.Backs (without bs a) := by
  rw [endScope_eq]
  exact h.drop a

/-- A move of a block to one that the program obtains succeeds, and that keeps them in step. -/
theorem move (h : q.Backs bs) (hvalid : q.Valid) {new old : Address} {size : ByteCount}
    {kind : ObjectKind} {bs'' : List Block} (hold : Returns bs old bs')
    (hnew : Obtains bs' new size kind bs'') (numbers : Numbering) (site : Option Site) :
    ∃ registration, (q.move numbers new old size kind site).1 = .ok registration ∧
      (q.move numbers new old size kind site).2.1.Backs bs'' := by
  have hnull : new ≠ 0 := by
    cases hnew with
    | intro hspan hnull hapart => exact hnull
  obtain ⟨freed, q', numbers', hfree, h'⟩ := h.free hvalid hold numbers site
  have hmove : q.move numbers new old size kind site =
      (.ok (q'.registerBytes numbers' new size kind site).1,
        (q'.registerBytes numbers' new size kind site).2) := by
    simp only [LinearPool.move, hnull, and_false, if_false, hfree]
  rw [hmove]
  exact ⟨_, rfl, h'.registerBytes hnew numbers' site⟩

/-- A move to no bytes only gives back. -/
theorem move_empty (h : q.Backs bs) (hvalid : q.Valid) {old : Address} (hold : Returns bs old bs')
    (new : Address) (kind : ObjectKind) (numbers : Numbering) (site : Option Site) :
    ∃ registration, (q.move numbers new old 0 kind site).1 = .ok registration ∧
      (q.move numbers new old 0 kind site).2.1.Backs bs' := by
  obtain ⟨freed, q', numbers', hfree, h'⟩ := h.free hvalid hold numbers site
  obtain ⟨e, hspan⟩ := Span.ofLength_zero new
  have hmove : q.move numbers new old 0 kind site = (.ok none, q', numbers') := by
    simp only [LinearPool.move, ne_eq, not_true_eq_false, false_and, and_false, if_false, hfree,
      LinearPool.registerBytes, hspan]
  rw [hmove]
  exact ⟨none, rfl, h'⟩

/-- A move that found no memory leaves the old block where it is. -/
theorem move_failed {old : Address} {size : ByteCount} (hold : old ≠ 0) (hsize : size ≠ 0)
    (q : LinearPool) (kind : ObjectKind) (numbers : Numbering) (site : Option Site) :
    q.move numbers 0 old size kind site = (.ok none, q, numbers) :=
  if_pos ⟨hold, hsize, rfl⟩

/-! ### Uses of a block -/

/-- An access within a block passes, and not for want of knowledge. -/
theorem checkAccess (h : q.Backs bs) (hvalid : q.Valid) {b : Block} (hb : b ∈ bs) {a : Address}
    (ha : b.span.contains a = true) {length : ByteCount}
    (hend : a.toNat + length.toNat ≤ b.span.stop.toNat) (mode : CheckMode) :
    ∃ verdict, q.checkAccess a length mode = .ok verdict ∧ verdict ≠ .unknown := by
  obtain ⟨o, -, rfl, hfind⟩ := h.objectAt hvalid hb ha
  unfold LinearPool.checkAccess
  by_cases hlength : length = 0
  · exact ⟨.empty, if_pos hlength, by simp⟩
  · rw [if_neg hlength, hfind]
    exact ⟨.inBounds o.span, if_pos hend, by simp⟩

/-- Arithmetic within a block, or to its end, passes, and not for want of knowledge. -/
theorem checkArithmetic (h : q.Backs bs) (hvalid : q.Valid) {b : Block} (hb : b ∈ bs)
    {source dest : Address} (hsource : b.span.contains source = true)
    (hdest : b.span.start ≤ dest ∧ dest ≤ b.span.stop) (mode : CheckMode) :
    ∃ verdict, q.checkArithmetic source dest mode = .ok verdict ∧ verdict ≠ .unknown := by
  obtain ⟨o, -, rfl, hfind⟩ := h.objectAt hvalid hb hsource
  unfold LinearPool.checkArithmetic
  rw [hfind]
  exact ⟨.inBounds o.span, if_pos hdest, by simp⟩

/-- A pointer to an element of an array in a block passes. -/
theorem checkAlignment (h : q.Backs bs) (hvalid : q.Valid) {b : Block} (hb : b ∈ bs) {a : Address}
    (ha : b.span.contains a = true) {elementSize : ByteCount}
    (hmultiple : elementSize.toNat ∣ a.toNat - b.span.start.toNat) :
    q.checkAlignment a elementSize = .ok () := by
  obtain ⟨o, -, rfl, hfind⟩ := h.objectAt hvalid hb ha
  unfold LinearPool.checkAlignment
  by_cases htrivial : a = 0 ∨ elementSize = 0
  · exact if_pos htrivial
  · rw [if_neg htrivial, hfind]
    exact if_pos (Nat.mod_eq_zero_of_dvd hmultiple)

end Backs

end LinearPool

end MemorySentry
