import MemorySentry.Proofs.Pool.Retention

/-!
# Numbers that have not been used

The number that the next allocation or the next free receives is above all numbers that a run has
shown so far. It is not only above those of the objects that are in a pool now (`Pools.Sound`): an
object that was dropped long ago does not give its number back, because the next number only grows
(`perform_numbers`).
-/

namespace MemorySentry.Pools

variable {ι : Type} [DecidableEq ι]

/-- The numbers of all allocations of a run are below a number: at no moment did a pool hold an
object with a higher one. -/
def AllocationsBelow (retention : ι → Retention) (cs : List (ι × Pool.Command)) (n : ℕ) : Prop :=
  ∀ before, before <+: cs →
    ∀ i, ∀ e ∈ (((fresh retention).performAll before).2.pool i).entries, e.2.allocId < n

/-- The numbers of all frees of a run are below a number. -/
structure FreesBelow (retention : ι → Retention) (cs : List (ι × Pool.Command)) (n : ℕ) : Prop where
  /-- At no moment did a pool retain an object with a higher one. -/
  retained : ∀ before, before <+: cs →
    ∀ i, ∀ o ∈ (((fresh retention).performAll before).2.pool i).retainedObjects, o.freeId < n
  /-- No free returned an object with a higher one. -/
  returned : ∀ e ∈ ((fresh retention).performAll cs).1,
    ∀ o, e.answer = .freed (.ok (some o)) → o.freeId < n

/-- A run in two parts comes to the run of all. -/
theorem performAll_append (ps : Pools ι) (before after : List (ι × Pool.Command)) :
    (ps.performAll (before ++ after)).2 = ((ps.performAll before).2.performAll after).2 := by
  induction before generalizing ps with
  | nil => rfl
  | cons e rest ih => exact ih (ps.perform e.1 e.2).2

variable {ps : Pools ι} {qs : ι → LinearPool}

/-- An operation does not take numbers back. -/
theorem perform_numbers (h : ps.Refines qs) (i : ι) (c : Pool.Command) :
    ps.numbers.nextAlloc ≤ (ps.perform i c).2.numbers.nextAlloc ∧
      ps.numbers.nextFree ≤ (ps.perform i c).2.numbers.nextFree := by
  obtain ⟨ms, hsteps, -⟩ := (qs i).perform_steps ps.numbers c
  have hnumbers : (ps.perform i c).2.numbers = ((qs i).perform ps.numbers c).2.2 :=
    (Pool.perform_refines (h.pools i) ps.numbers c).2.2
  rw [hnumbers]
  exact ⟨hsteps.draws_allocIds.le, hsteps.draws_freeIds.le⟩

/-- What a free returns has the number that was the next one before it. -/
theorem perform_returned (h : ps.Refines qs) {i : ι} {c : Pool.Command} {o : Object}
    (hanswer : (ps.perform i c).1 = .freed (.ok (some o))) :
    o.freeId < (ps.perform i c).2.numbers.nextFree := by
  cases c with
  | free a site =>
    have hagrees := (h.pools i).free ps.numbers a site
    have hnumbers : (ps.perform i (.free a site)).2.numbers =
        ((qs i).free ps.numbers a site).2.2 := hagrees.numbers
    have hfreed : ((qs i).free ps.numbers a site).1 = .ok (some o) :=
      hagrees.answer.symm.trans (Pool.Answer.freed.inj hanswer)
    rw [hnumbers]
    rcases (qs i).free_cases ps.numbers a site with ⟨-, heq⟩ | ⟨-, o', -, -, -, heq⟩ | ⟨v, heq⟩
    · rw [heq] at hfreed
      cases hfreed
    · rw [heq] at hfreed ⊢
      obtain rfl : o'.retire ps.numbers.nextFree site = o :=
        Option.some.inj (Except.ok.inj hfreed)
      exact Nat.lt_succ_self ps.numbers.nextFree
    · rw [heq] at hfreed
      cases hfreed
  -- the answers of the other operations are of other forms
  | _ => cases hanswer

/-- Neither does a run take numbers back, and it shows no free that has a number still to come. -/
theorem performAll_numbers (h : ps.Refines qs) (cs : List (ι × Pool.Command)) :
    ps.numbers.nextAlloc ≤ (ps.performAll cs).2.numbers.nextAlloc ∧
      ps.numbers.nextFree ≤ (ps.performAll cs).2.numbers.nextFree ∧
      ∀ e ∈ (ps.performAll cs).1, ∀ o, e.answer = .freed (.ok (some o)) →
        o.freeId < (ps.performAll cs).2.numbers.nextFree := by
  induction cs generalizing ps qs with
  | nil => exact ⟨Nat.le_refl _, Nat.le_refl _, by simp [performAll]⟩
  | cons e rest ih =>
    obtain ⟨halloc, hfree⟩ := perform_numbers h e.1 e.2
    obtain ⟨halloc', hfree', hreturned⟩ := ih (perform_refines h e.1 e.2)
    refine ⟨halloc.trans halloc', hfree.trans hfree', ?_⟩
    intro e' he' o ho
    rcases List.mem_cons.mp he' with rfl | hrest
    · -- the first operation was below the next number at once, and that only grows
      exact (perform_returned h ho).trans_le hfree'
    · exact hreturned e' hrest o ho

variable (retention : ι → Retention)

/-- No allocation of a run has used the next number. -/
theorem allocationsBelow_performAll (cs : List (ι × Pool.Command)) :
    AllocationsBelow retention cs ((fresh retention).performAll cs).2.numbers.nextAlloc := by
  rintro before ⟨after, rfl⟩ i e he
  obtain ⟨qs, h, -⟩ := performAll_refines (refines_fresh retention) before
  -- the number was below the next one then, and the next one has only grown since
  have hbelow := (h.sound.allocIds.below i e.2.allocId (List.mem_map_of_mem he)).2
  rw [performAll_append]
  exact hbelow.trans_le (performAll_numbers h after).1

/-- No free of a run has used the next number. -/
theorem freesBelow_performAll (cs : List (ι × Pool.Command)) :
    FreesBelow retention cs ((fresh retention).performAll cs).2.numbers.nextFree := by
  refine ⟨?_, (performAll_numbers (refines_fresh retention) cs).2.2⟩
  rintro before ⟨after, rfl⟩ i o ho
  obtain ⟨qs, h, -⟩ := performAll_refines (refines_fresh retention) before
  have hmem : o.freeId ∈ (qs i).freeIds :=
    List.mem_map_of_mem ((h.pools i).mem_retainedObjects.mp ho)
  rw [performAll_append]
  exact ((h.freeIds.below i o.freeId hmem).2).trans_le (performAll_numbers h after).2.1

end MemorySentry.Pools
