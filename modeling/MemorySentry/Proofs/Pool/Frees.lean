import MemorySentry.Proofs.Pool.Bytes
import MemorySentry.Proofs.Pool.Unused

/-!
# What a free does

A free of an address other than the null address gives back the live object based there if it is
one that the program may free. Every other free is refused: `RefusesFree` lists the violations with
their conditions, which leave no case out and of which no two can be met at once. A refused free
changes nothing that a pool knows, although the look-ups behind it have turned its maps over.

`performAll_free` says both of every pool that a run can reach.
-/

namespace MemorySentry

/-- No other object of the list is based where one of them is. -/
theorem Apart.filter_start_ne {os : List Object} (h : Apart os) {o : Object} (ho : o ∈ os) :
    (os.filter fun e => e.span.start ≠ o.span.start) = os.filter fun e => e ≠ o := by
  refine List.filter_congr fun e he => ?_
  have hiff : e.span.start = o.span.start ↔ e = o :=
    ⟨h.eq_of_start_eq he ho, fun heq => by rw [heq]⟩
  simp only [hiff, ne_eq]

namespace Pool

/-- An object that a free of an address gives back: a live one that is based there and came from an
allocator. -/
structure FreeableAt (p : Pool) (a : Address) (o : Object) : Prop where
  /-- The object is live. -/
  live : o ∈ p.objects
  /-- The address is its base. -/
  base : o.span.start = a
  /-- It came from an allocator. -/
  kind : o.kind = .heap ∨ o.kind = .custom

/-- The violations of a free, and when each of them is the right one. -/
inductive RefusesFree (p : Pool) (a : Address) : Violation → Prop
  /-- The address is in a live object that did not come from an allocator. -/
  | outsideHeap {o : Object} (ho : o ∈ p.objects) (hbyte : a.toNat ∈ o.span.bytes)
      (hkind : ¬ (o.kind = .heap ∨ o.kind = .custom)) :
      RefusesFree p a
        { kind := .freeOutsideHeap, pointer := a, span := some o.span, history := some o }
  /-- The address is in a live object that came from an allocator, but not at its base. -/
  | interior {o : Object} (ho : o ∈ p.objects) (hbyte : a.toNat ∈ o.span.bytes)
      (hkind : o.kind = .heap ∨ o.kind = .custom) (hbase : o.span.start ≠ a) :
      RefusesFree p a
        { kind := .invalidFree, pointer := a, span := some o.span, history := some o }
  /-- The address is the base of a retained object. -/
  | again {o : Object} (ho : o ∈ p.retainedObjects) (hbase : o.span.start = a) :
      RefusesFree p a
        { kind := .doubleFree, pointer := a, span := some o.span, history := some o }
  /-- The address is in a retained object, but not at its base. -/
  | interiorAgain {o : Object} (ho : o ∈ p.retainedObjects) (hbyte : a.toNat ∈ o.span.bytes)
      (hbase : o.span.start ≠ a) :
      RefusesFree p a
        { kind := .invalidFree, pointer := a, span := some o.span, history := some o }
  /-- The address is in no object, neither live nor retained. -/
  | stray (hlive : ∀ o ∈ p.objects, a.toNat ∉ o.span.bytes)
      (hretained : ∀ o ∈ p.retainedObjects, a.toNat ∉ o.span.bytes) :
      RefusesFree p a { kind := .freeOutsideHeap, pointer := a }

/-- Two pools hold the same objects, and their quarantines name them in the same order. -/
structure SameHoldings (p p' : Pool) : Prop where
  /-- The live objects are the same. -/
  objects : p'.objects = p.objects
  /-- The retained objects are the same. -/
  retainedObjects : p'.retainedObjects = p.retainedObjects
  /-- The quarantines are the same. -/
  quarantine : p'.quarantine = p.quarantine

end Pool

/-- What an allocator gave out is on the heap, also if the program announced it itself. -/
theorem ObjectKind.isHeap_iff {kind : ObjectKind} :
    kind.isHeap = true ↔ kind = .heap ∨ kind = .custom := by
  cases kind <;> simp [isHeap]

namespace Pool.Refines

variable {p p' : Pool} {q : LinearPool} {a : Address}

/-- A linear pool determines what its pools hold, and in which order: both maps list their objects
in the order of addresses. -/
theorem sameHoldings (h : p.Refines q) (h' : p'.Refines q) : p.SameHoldings p' := by
  refine ⟨h'.objects.trans h.objects.symm, ?_, h'.quarantine.trans h.quarantine.symm⟩
  obtain ⟨hperm, hascending⟩ := h.retainedObjects_sorted
  obtain ⟨hperm', hascending'⟩ := h'.retainedObjects_sorted
  have hentries : p'.retainedObjects.map Object.entry = p.retainedObjects.map Object.entry := by
    apply ((hperm'.trans hperm.symm).map Object.entry).eq_of_pairwise _ hascending' hascending
    intro e e' _ _ hbefore hbefore'
    exact absurd (Span.Before.trans hbefore hbefore') (Span.Before.irrefl e.1)
  have hinjective : Function.Injective Object.entry := fun _ _ heq => congrArg Prod.snd heq
  exact List.map_injective_iff.mpr hinjective hentries

/-- The object that a free gives back is the one that the look-up finds. -/
theorem freeableAt_iff (h : p.Refines q) {o : Object} :
    p.FreeableAt a o ↔ q.objectAt a = some o ∧ o.kind.isHeap = true ∧ o.span.start = a := by
  rw [h.objectAt_eq_some_iff, ObjectKind.isHeap_iff]
  constructor
  · rintro ⟨hlive, rfl, hkind⟩
    exact ⟨⟨hlive, o.span.start_mem_bytes⟩, hkind, rfl⟩
  · rintro ⟨⟨hlive, -⟩, hkind, hbase⟩
    exact ⟨hlive, hbase, hkind⟩

/-- A free of the base of an object from an allocator gives the object back. -/
theorem free_of_freeableAt (h : p.Refines q) (ha : a ≠ 0) {o : Object} (ho : p.FreeableAt a o)
    (numbers : Numbering) (site : Option Site) :
    (p.free numbers a site).1 = .ok (some (o.retire numbers.nextFree site)) ∧
      (p.free numbers a site).2.1.objects = (p.objects.filter fun e => e ≠ o) ∧
      (p.free numbers a site).2.2 = { numbers with nextFree := numbers.nextFree + 1 } := by
  obtain ⟨hat, hheap, rfl⟩ := h.freeableAt_iff.mp ho
  obtain ⟨hanswer, hrefines, hnumbers⟩ := h.free numbers o.span.start site
  rw [hanswer, hnumbers, hrefines.objects, h.objects, ← h.valid.apart_live.filter_start_ne]
  · simp [LinearPool.free, ha, hat, hheap]
  · rw [← h.objects]
    exact ho.live

/-- What a refused free leaves holds what the pool held. -/
theorem free_error (h : p.Refines q) {numbers : Numbering} {site : Option Site} {v : Violation}
    (hv : (p.free numbers a site).1 = .error v) :
    p.SameHoldings (p.free numbers a site).2.1 ∧ (p.free numbers a site).2.2 = numbers := by
  obtain ⟨hanswer, hrefines, hnumbers⟩ := h.free numbers a site
  rw [hanswer] at hv
  rcases q.free_cases numbers a site with ⟨-, heq⟩ | ⟨-, o, -, -, -, heq⟩ | ⟨v', heq⟩
  · rw [heq] at hv
    cases hv
  · rw [heq] at hv
    cases hv
  · rw [heq] at hrefines hnumbers
    exact ⟨h.sameHoldings hrefines, hnumbers⟩

/-- A free gives an object back or is refused for a reason. -/
theorem free_cases (h : p.Refines q) (ha : a ≠ 0) (numbers : Numbering) (site : Option Site) :
    (∃ o, p.FreeableAt a o) ∨ ∃ v, (p.free numbers a site).1 = .error v ∧ p.RefusesFree a v := by
  rw [(h.free numbers a site).answer, LinearPool.free, if_neg ha]
  cases hat : q.objectAt a with
  | some o =>
    obtain ⟨ho, hbyte⟩ := h.objectAt_eq_some_iff.mp hat
    by_cases hheap : o.kind.isHeap = true
    · by_cases hbase : o.span.start = a
      · exact .inl ⟨o, h.freeableAt_iff.mpr ⟨hat, hheap, hbase⟩⟩
      · refine .inr ⟨_, ?_, .interior ho hbyte (ObjectKind.isHeap_iff.mp hheap) hbase⟩
        simp [hheap, hbase, Violation.about]
    · refine .inr ⟨_, ?_, .outsideHeap ho hbyte (ObjectKind.isHeap_iff.not.mp hheap)⟩
      simp [hheap, Violation.about]
  | none =>
    -- nothing live is there, so the retained objects decide
    cases hfreed : q.retainedAt a with
    | some o =>
      obtain ⟨ho, hbyte⟩ := h.retainedAt_eq_some_iff.mp hfreed
      by_cases hbase : o.span.start = a
      · refine .inr ⟨_, ?_, .again ho hbase⟩
        simp [hbase, Violation.about]
      · refine .inr ⟨_, ?_, .interiorAgain ho hbyte hbase⟩
        simp [hbase, Violation.about]
    | none =>
      exact .inr ⟨_, rfl,
        .stray (h.objectAt_eq_none_iff.mp hat) (h.retainedAt_eq_none_iff.mp hfreed)⟩

/-- No two of the reasons can be met, and where one is no object is given back. -/
theorem free_of_refusesFree (h : p.Refines q) (ha : a ≠ 0) (numbers : Numbering)
    (site : Option Site) {v : Violation} (hv : p.RefusesFree a v) :
    (p.free numbers a site).1 = .error v := by
  rw [(h.free numbers a site).answer, LinearPool.free, if_neg ha]
  -- a retained object at the address rules out that a live one is there
  have hmissed {o : Object} (ho : o ∈ p.retainedObjects) (hbyte : a.toNat ∈ o.span.bytes) :
      q.objectAt a = none ∧ q.retainedAt a = some o :=
    ⟨h.objectAt_eq_none_iff.mpr (h.not_mem_bytes_of_retained ho hbyte),
      h.retainedAt_eq_some_iff.mpr ⟨ho, hbyte⟩⟩
  cases hv with
  | outsideHeap ho hbyte hkind =>
    have hat := h.objectAt_eq_some_iff.mpr ⟨ho, hbyte⟩
    simp [hat, ObjectKind.isHeap_iff.not.mpr hkind, Violation.about]
  | interior ho hbyte hkind hbase =>
    have hat := h.objectAt_eq_some_iff.mpr ⟨ho, hbyte⟩
    simp [hat, ObjectKind.isHeap_iff.mpr hkind, hbase, Violation.about]
  | again ho hbase =>
    obtain ⟨hat, hfreed⟩ := hmissed ho (hbase ▸ Span.start_mem_bytes _)
    simp [hat, hfreed, hbase, Violation.about]
  | interiorAgain ho hbyte hbase =>
    obtain ⟨hat, hfreed⟩ := hmissed ho hbyte
    simp [hat, hfreed, hbase, Violation.about]
  | stray hlive hretained =>
    have hat := h.objectAt_eq_none_iff.mpr hlive
    have hfreed := h.retainedAt_eq_none_iff.mpr hretained
    simp [hat, hfreed]

end Pool.Refines

namespace Pools

variable {ι : Type} [DecidableEq ι]

/-- In every pool that a run can reach, a free of an address other than the null address returns an
object exactly if the address is the base of a live object from an allocator. Then that object and
no other leaves the live ones, and what is returned is the object with its release: the given place
and the next number, which no free of the run has had. Every other free is a violation, which is one
of five under the condition of each, and leaves the objects, the quarantine and the numbers as they
were. -/
theorem performAll_free (retention : ι → Retention) (cs : List (ι × Pool.Command)) (i : ι)
    {a : Address} (ha : a ≠ 0) (site : Option Site) :
    let ps := ((fresh retention).performAll cs).2
    let p := ps.pool i
    let r := p.free ps.numbers a site
    (∀ freed, r.1 = .ok (some freed) ↔ ∃ o, p.FreeableAt a o ∧
      freed = { o with release := some { id := ps.numbers.nextFree, site } }) ∧
    (∀ o, p.FreeableAt a o → r.2.1.objects = (p.objects.filter fun e => e ≠ o) ∧
      r.2.2 = { ps.numbers with nextFree := ps.numbers.nextFree + 1 }) ∧
    FreesBelow retention cs ps.numbers.nextFree ∧
    r.1 ≠ .ok none ∧
    (∀ v, r.1 = .error v ↔ p.RefusesFree a v) ∧
    (∀ v, r.1 = .error v → p.SameHoldings r.2.1 ∧ r.2.2 = ps.numbers) := by
  intro ps p r
  obtain ⟨qs, h, -⟩ := performAll_refines (refines_fresh retention) cs
  have hp : p.Refines (qs i) := h.pools i
  have hfree {o : Object} (ho : p.FreeableAt a o) := hp.free_of_freeableAt ha ho ps.numbers site
  have hcases := hp.free_cases ha ps.numbers site
  refine ⟨?_, ?_, freesBelow_performAll retention cs, ?_, ?_, fun v hv => hp.free_error hv⟩
  · intro freed
    constructor
    · -- an object that is returned was not refused, so there is one to give back
      intro hfreed
      rcases hcases with ⟨o, ho⟩ | ⟨v, hv, -⟩
      · exact ⟨o, ho, Option.some.inj (Except.ok.inj (hfreed.symm.trans (hfree ho).1))⟩
      · cases hfreed.symm.trans hv
    · rintro ⟨o, ho, rfl⟩
      exact (hfree ho).1
  · intro o ho
    exact (hfree ho).2
  · -- only the free of the null address has neither an object nor a violation
    intro hnone
    rcases hcases with ⟨o, ho⟩ | ⟨v, hv, -⟩
    · cases hnone.symm.trans (hfree ho).1
    · cases hnone.symm.trans hv
  · intro v
    refine ⟨?_, hp.free_of_refusesFree ha ps.numbers site⟩
    -- the violation that is reported is the one of the reason that there is
    intro herror
    rcases hcases with ⟨o, ho⟩ | ⟨v', hv, hrefuses⟩
    · cases herror.symm.trans (hfree ho).1
    · cases herror.symm.trans hv
      exact hrefuses

/-- After the free of the first of two blocks, a free of the second one returns it with the number
2, and a free of an address inside the first one is invalid and names the freed block. -/
theorem performAll_free_two_blocks :
    let ps := ((fresh fun _ : Unit => .keep 4).performAll
      [((), .registerBytes 4096 64 .heap none), ((), .registerBytes 8192 16 .custom none),
        ((), .free 4096 none)]).2
    let first : Object :=
      { span := ⟨4096, 4160, by decide⟩, kind := .heap, allocId := 1, allocSite := none,
        release := some { id := 1, site := none } }
    let second : Object :=
      { span := ⟨8192, 8208, by decide⟩, kind := .custom, allocId := 2, allocSite := none }
    ((ps.pool ()).free ps.numbers 8192 none).1 =
        .ok (some { second with release := some { id := 2, site := none } }) ∧
      ((ps.pool ()).free ps.numbers 4100 none).1 = .error
        { kind := .invalidFree, pointer := 4100, span := some first.span,
          history := some first } := by
  intro ps first second
  have hnumber : ps.numbers.nextFree = 2 := by decide +kernel
  have hfirst : first ∈ (ps.pool ()).retainedObjects := by decide +kernel
  have hsecond : second ∈ (ps.pool ()).objects := by decide +kernel
  constructor
  · obtain ⟨hfreed, -⟩ := performAll_free (fun _ : Unit => .keep 4)
      [((), .registerBytes 4096 64 .heap none), ((), .registerBytes 8192 16 .custom none),
        ((), .free 4096 none)] () (show (8192 : Address) ≠ 0 by decide) none
    apply (hfreed _).mpr
    exact ⟨second, ⟨hsecond, rfl, .inr rfl⟩, by rw [hnumber]⟩
  · obtain ⟨-, -, -, -, hrefused, -⟩ := performAll_free (fun _ : Unit => .keep 4)
      [((), .registerBytes 4096 64 .heap none), ((), .registerBytes 8192 16 .custom none),
        ((), .free 4096 none)] () (show (4100 : Address) ≠ 0 by decide) none
    apply (hrefused _).mpr
    exact .interiorAgain hfirst (Span.mem_bytes_iff.mpr (by decide)) (by decide)

end Pools

end MemorySentry
