import MemorySentry.Proofs.Pool.Equivalence
import MemorySentry.Proofs.Pool.Numbers

/-!
# Families of pools

A process has many pools, and all of them draw their numbers from the same `Numbering`, so what
holds of the numbers can only be said of all pools together. A run of a family is any interleaving
of operations on its pools.

`Pool.Sound` and `Pools.Sound` say what holds of a pool and of a family between operations;
`performAll_fresh_sound` says that it does. The proof goes through linear pools: a family stays tied
to one linear pool for each of its pools (`perform_refines`), and there every operation is a
sequence of steps that keep the objects valid, marked and numbered.
-/

namespace MemorySentry

/-- Pools that draw from the same numbers. -/
structure Pools (ι : Type) where
  /-- The pools. -/
  pool : ι → Pool
  /-- The numbers that the next allocation and the next free in any of them receive. -/
  numbers : Numbering := {}

namespace Pools

variable {ι : Type}

/-- Pools that have just been created. -/
def fresh (retention : ι → Retention) : Pools ι :=
  { pool := fun i => { retention := retention i } }

/-- An operation on one of the pools, with what it returned. -/
structure Event (ι : Type) where
  pool : ι
  command : Pool.Command
  answer : Pool.Answer

variable [DecidableEq ι]

/-- Carries out an operation on one of the pools. -/
def perform (ps : Pools ι) (i : ι) (c : Pool.Command) : Pool.Answer × Pools ι :=
  let (answer, p, numbers) := (ps.pool i).perform ps.numbers c
  (answer, { pool := Function.update ps.pool i p, numbers })

/-- Carries out operations on the pools, one after the other. -/
def performAll (ps : Pools ι) : List (ι × Pool.Command) → List (Event ι) × Pools ι
  | [] => ([], ps)
  | (i, c) :: rest =>
    let (answer, ps) := ps.perform i c
    let (events, ps) := performAll ps rest
    (⟨i, c, answer⟩ :: events, ps)

end Pools

/-- The objects of a pool with the spans under which they are stored, first the live ones and then
the retained ones. -/
def Pool.entries (p : Pool) : List (Span × Object) :=
  p.live.toList ++ p.retained.toList

/-- What holds of a pool between operations. -/
structure Pool.Sound (p : Pool) : Prop where
  /-- No link in the map of live objects is broken. -/
  live_walk : p.live.arena.inorder p.live.root = .ok p.live.toList
  /-- No link in the map of retained objects is broken. -/
  retained_walk : p.retained.arena.inorder p.retained.root = .ok p.retained.toList
  /-- No address belongs to two objects, live or retained. -/
  apart : p.entries.Pairwise fun e e' => e.1.overlaps e'.1 = false
  /-- Every object is stored under its own span. -/
  stored : ∀ e ∈ p.entries, e.1 = e.2.span
  /-- The live objects have not been freed. -/
  live : ∀ e ∈ p.live.toList, e.2.isLive = true ∧ e.2.freeId = 0
  /-- The retained objects have been freed, and could be. -/
  retained : ∀ e ∈ p.retained.toList,
    e.2.isLive = false ∧ e.2.freeId ≠ 0 ∧ e.2.kind.isHeap = true
  /-- The object found last is live. -/
  recent : ∀ o, p.recent = some o → (o.span, o) ∈ p.live.toList
  /-- The object found before that one is live. -/
  earlier : ∀ o, p.earlier = some o → (o.span, o) ∈ p.live.toList
  /-- The two are not the same. -/
  distinct : ∀ o, p.recent = some o → p.earlier ≠ some o

/-- What holds of a family of pools between operations. -/
structure Pools.Sound {ι : Type} (ps : Pools ι) : Prop where
  /-- Each pool is sound. -/
  pools : ∀ i, (ps.pool i).Sound
  /-- The allocations of all objects, live or retained, have different numbers. -/
  allocIds : Distinct ps.numbers.nextAlloc fun i => (ps.pool i).entries.map fun e => e.2.allocId
  /-- The frees of all retained objects have different numbers. -/
  freeIds :
    Distinct ps.numbers.nextFree fun i => (ps.pool i).retained.toList.map fun e => e.2.freeId

namespace Pools

variable {ι : Type}

/-! ### Families of linear pools -/

/-- The pools hold the objects of linear pools, which are marked and numbered. -/
structure Refines (ps : Pools ι) (qs : ι → LinearPool) : Prop where
  /-- Each pool holds the objects of its linear pool. -/
  pools : ∀ i, (ps.pool i).Refines (qs i)
  /-- Live and retained objects are marked as such. -/
  marked : ∀ i, (qs i).Marked
  /-- Allocations have different numbers. -/
  allocIds : Distinct ps.numbers.nextAlloc (LinearPool.allocIds ∘ qs)
  /-- Frees have different numbers. -/
  freeIds : Distinct ps.numbers.nextFree (LinearPool.freeIds ∘ qs)

/-- New pools correspond to linear ones without objects. -/
theorem refines_fresh (retention : ι → Retention) :
    (fresh retention).Refines fun i => { retention := retention i } := by
  have hnone : Distinct 1 fun _ : ι => [] :=
    ⟨Nat.one_pos, by simp, fun _ => List.nodup_nil, fun _ _ _ => List.disjoint_nil_left _⟩
  exact ⟨fun i => Pool.refines_empty _, fun i => LinearPool.marked_empty _, hnone, hnone⟩

section

variable [DecidableEq ι] {ps : Pools ι} {qs : ι → LinearPool}

/-- An operation on one of the pools keeps the family tied to linear pools. -/
theorem perform_refines (h : ps.Refines qs) (i : ι) (c : Pool.Command) :
    (ps.perform i c).2.Refines
      (Function.update qs i ((qs i).perform ps.numbers c).2.1) := by
  -- the steps of the linear pool start from the numbers that all pools share
  obtain ⟨-, hrefines, hnumbers⟩ := Pool.perform_refines (h.pools i) ps.numbers c
  obtain ⟨ms, hsteps, -⟩ := (qs i).perform_steps ps.numbers c
  rw [← hnumbers] at hsteps
  refine ⟨fun j => ?_, ?_, ?_, ?_⟩
  · by_cases hj : j = i
    · subst hj
      simp only [perform, Function.update_self]
      exact hrefines
    · -- the other pools are not touched
      simp only [perform, Function.update_of_ne hj]
      exact h.pools j
  · exact (Function.forall_update_iff qs fun _ q => q.Marked).mpr
      ⟨hsteps.marked (h.marked i), fun j _ => h.marked j⟩
  · rw [Function.comp_update]
    exact h.allocIds.update hsteps.draws_allocIds
  · rw [Function.comp_update]
    exact h.freeIds.update hsteps.draws_freeIds

/-- A run keeps the family tied to linear pools, and no pool changes its retention. -/
theorem performAll_refines (h : ps.Refines qs) (cs : List (ι × Pool.Command)) :
    ∃ qs', (ps.performAll cs).2.Refines qs' ∧ ∀ i, (qs' i).retention = (qs i).retention := by
  induction cs generalizing ps qs with
  | nil => exact ⟨qs, h, fun _ => rfl⟩
  | cons e rest ih =>
    obtain ⟨qs', h', hretention⟩ := ih (perform_refines h e.1 e.2)
    refine ⟨qs', h', fun i => ?_⟩
    rw [hretention i]
    by_cases hi : i = e.1
    · subst hi
      rw [Function.update_self]
      exact (qs e.1).perform_retention ps.numbers e.2
    · rw [Function.update_of_ne hi]

end

/-! ### Soundness -/

section

variable {ps : Pools ι} {qs : ι → LinearPool}

/-- The objects of a pool are those of its linear pool. -/
theorem Refines.entries_perm (h : ps.Refines qs) (i : ι) :
    (ps.pool i).entries.Perm (((qs i).live ++ (qs i).retained).map Object.entry) := by
  obtain ⟨sorted, hperm, hlists⟩ := (h.pools i).retained
  rw [Pool.entries, (h.pools i).live.toList, hlists.toList, List.map_append]
  exact (hperm.map _).append_left _

/-- A pool retains the objects of its linear one, in the order of their addresses. -/
theorem Refines.retained_perm (h : ps.Refines qs) (i : ι) :
    (ps.pool i).retained.toList.Perm ((qs i).retained.map Object.entry) := by
  obtain ⟨sorted, hperm, hlists⟩ := (h.pools i).retained
  rw [hlists.toList]
  exact hperm.map _

/-- A pool that is tied to a linear pool is sound. -/
theorem Refines.pool_sound (h : ps.Refines qs) (i : ι) : (ps.pool i).Sound := by
  have hp := h.pools i
  obtain ⟨sorted, hperm, hlists⟩ := hp.retained
  -- what a map stores is an object of the linear pool under its own span
  have hlive {e : Span × Object} :
      e ∈ (ps.pool i).live.toList ↔ ∃ o ∈ (qs i).live, o.entry = e := by
    rw [hp.live.toList, List.mem_map]
  have hretained {e : Span × Object} (he : e ∈ (ps.pool i).retained.toList) :
      ∃ o ∈ (qs i).retained, o.entry = e :=
    List.mem_map.mp ((h.retained_perm i).mem_iff.mp he)
  refine ⟨?_, ?_, ?_, ?_, ?_, ?_, ?_, ?_, hp.distinct⟩
  · rw [hp.live.toList]
    exact SpanMap.Represents.inorder hp.live
  · rw [hlists.toList]
    exact SpanMap.Represents.inorder hlists
  · have hsymm : ∀ {e e' : Span × Object},
        e.1.overlaps e'.1 = false → e'.1.overlaps e.1 = false := by
      intro e e' hov
      rw [Span.overlaps_comm, hov]
    refine ((h.entries_perm i).pairwise_iff hsymm).mpr ?_
    exact List.pairwise_map.mpr hp.valid.apart
  · intro e he
    obtain ⟨o, -, rfl⟩ := List.mem_map.mp ((h.entries_perm i).mem_iff.mp he)
    rfl
  · intro e he
    obtain ⟨o, ho, rfl⟩ := hlive.mp he
    have hrelease := (h.marked i).live o ho
    simp only [Object.entry, Object.isLive, Object.freeId, hrelease]
    exact ⟨rfl, rfl⟩
  · intro e he
    obtain ⟨o, ho, rfl⟩ := hretained he
    obtain ⟨hrelease, hheap⟩ := (h.marked i).retained o ho
    refine ⟨?_, ?_, hheap⟩
    · have hsome := Option.isSome_iff_ne_none.mpr hrelease
      simpa [Object.isLive, Object.entry] using hsome
    · -- numbers of frees start at 1
      have hpositive := (h.freeIds.below i o.freeId (List.mem_map_of_mem ho)).1
      exact Nat.ne_of_gt hpositive
  · intro o ho
    exact hlive.mpr ⟨o, hp.recent o ho, rfl⟩
  · intro o ho
    exact hlive.mpr ⟨o, hp.earlier o ho, rfl⟩

/-- Pools that correspond to linear ones are sound. -/
theorem Refines.sound (h : ps.Refines qs) : ps.Sound := by
  refine ⟨h.pool_sound, h.allocIds.perm fun i => ?_, h.freeIds.perm fun i => ?_⟩
  · have hperm := (h.entries_perm i).map fun e => e.2.allocId
    rw [List.map_map] at hperm
    exact hperm.symm
  · have hperm := (h.retained_perm i).map fun e => e.2.freeId
    rw [List.map_map] at hperm
    exact hperm.symm

end

/-- After every run of operations on any number of pools, no two objects of a pool share an address,
the marks of the objects agree with where they are stored, what is at hand is live, and no number
has been given to two objects of any pool. -/
theorem performAll_fresh_sound [DecidableEq ι] (retention : ι → Retention)
    (cs : List (ι × Pool.Command)) : ((fresh retention).performAll cs).2.Sound := by
  obtain ⟨qs, h, -⟩ := performAll_refines (refines_fresh retention) cs
  exact h.sound

end Pools

end MemorySentry
