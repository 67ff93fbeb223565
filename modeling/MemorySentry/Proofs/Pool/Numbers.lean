import MemorySentry.Proofs.Pool.Validity
import Mathlib.Data.List.Perm.Subperm
import Mathlib.Logic.Function.Basic

/-!
# Sequence numbers

Allocations and frees are numbered, and all pools draw from the same numbers. An object keeps the
number of its allocation when it is widened and when it is freed, so the numbers in use move from
object to object and from list to list. What a step does to them is always the same, though: it uses
each of the old numbers at most once more, and so each of the numbers handed out meanwhile
(`Draws`). This is all that a family of pools needs in order to keep its numbers distinct
(`Distinct.update`).

`Marked` says that a list shows in its objects whether it holds the live ones or the retained ones.
-/

namespace MemorySentry

/-- From the numbers `ids`, with `next` as the next one to be handed out, to the numbers `ids'`.
None of the old numbers and of those handed out meanwhile is used twice. -/
def Draws (next : Nat) (ids : List Nat) (next' : Nat) (ids' : List Nat) : Prop :=
  ∃ k, next' = next + k ∧ ids'.Subperm (ids ++ List.range' next k)

namespace Draws

variable {next next' next'' : Nat} {ids ids' ids'' : List Nat}

/-- Numbers that go are not drawn. -/
theorem of_subperm (h : ids'.Subperm ids) : Draws next ids next ids' := by
  refine ⟨0, rfl, ?_⟩
  rw [List.range'_zero, List.append_nil]
  exact h

/-- One number is drawn, and some others may go with it. -/
theorem of_subperm_append (h : ids'.Subperm (ids ++ [next])) : Draws next ids (next + 1) ids' :=
  ⟨1, rfl, h⟩

/-- What is drawn first and what is drawn then is drawn in all. -/
theorem trans (h : Draws next ids next' ids') (h' : Draws next' ids' next'' ids'') :
    Draws next ids next'' ids'' := by
  obtain ⟨k, rfl, hsub⟩ := h
  obtain ⟨k', rfl, hsub'⟩ := h'
  refine ⟨k + k', Nat.add_assoc next k k', ?_⟩
  rw [← List.range'_append_1, ← List.append_assoc]
  exact hsub'.trans ((List.subperm_append_right _).mpr hsub)

/-- Numbers are drawn upwards. -/
theorem le (h : Draws next ids next' ids') : next ≤ next' := by
  obtain ⟨k, rfl, -⟩ := h
  exact Nat.le_add_right next k

/-- Every number in use is an old one or one that was handed out. -/
theorem mem (h : Draws next ids next' ids') {n : Nat} (hn : n ∈ ids') :
    n ∈ ids ∨ next ≤ n ∧ n < next' := by
  obtain ⟨k, rfl, hsub⟩ := h
  rcases List.mem_append.mp (hsub.subset hn) with hold | hnew
  · exact Or.inl hold
  · exact Or.inr (List.mem_range'_1.mp hnew)

/-- Numbers without duplicates stay so. -/
theorem nodup (h : Draws next ids next' ids') (hnodup : ids.Nodup) (hbelow : ∀ n ∈ ids, n < next) :
    ids'.Nodup := by
  obtain ⟨k, rfl, l, hperm, hsub⟩ := h
  have hall : (ids ++ List.range' next k).Nodup := by
    refine List.nodup_append'.mpr ⟨hnodup, List.nodup_range', ?_⟩
    intro n hold hnew
    have hlt := hbelow n hold
    have hge := (List.mem_range'_1.mp hnew).1
    omega
  exact hperm.nodup_iff.mp (hall.sublist hsub)

end Draws

/-- Numbers in use at several places. No number is used twice, not even at two places, and all of
them have been handed out. -/
structure Distinct {ι : Type} (next : Nat) (ids : ι → List Nat) : Prop where
  /-- The numbers start at 1. -/
  positive : 0 < next
  /-- Every number has been handed out. -/
  below : ∀ i, ∀ n ∈ ids i, 0 < n ∧ n < next
  /-- No number is used twice at one place. -/
  nodup : ∀ i, (ids i).Nodup
  /-- No number is used at two places. -/
  disjoint : ∀ i j, i ≠ j → List.Disjoint (ids i) (ids j)

namespace Distinct

variable {ι : Type} {next next' : Nat} {ids ids' : ι → List Nat}

/-- The order in which a pool holds its numbers does not matter. -/
theorem perm (h : Distinct next ids) (hperm : ∀ i, (ids i).Perm (ids' i)) : Distinct next ids' where
  positive := h.positive
  below i n hn := h.below i n ((hperm i).mem_iff.mpr hn)
  nodup i := (hperm i).nodup_iff.mp (h.nodup i)
  disjoint i j hne _ hi hj :=
    h.disjoint i j hne ((hperm i).mem_iff.mpr hi) ((hperm j).mem_iff.mpr hj)

/-- One place may hand out numbers to itself. -/
theorem update [DecidableEq ι] (h : Distinct next ids) {i : ι} {new : List Nat}
    (hdraws : Draws next (ids i) next' new) : Distinct next' (Function.update ids i new) := by
  have hpositive : 0 < next' := Nat.lt_of_lt_of_le h.positive hdraws.le
  have hnew : ∀ n ∈ new, 0 < n ∧ n < next' := by
    intro n hn
    rcases hdraws.mem hn with hold | ⟨hge, hlt⟩
    · obtain ⟨hpos, hlt⟩ := h.below i n hold
      exact ⟨hpos, Nat.lt_of_lt_of_le hlt hdraws.le⟩
    · exact ⟨Nat.lt_of_lt_of_le h.positive hge, hlt⟩
  -- what is new at the place has just been handed out, so no other place uses it
  have hapart : ∀ j, j ≠ i → List.Disjoint new (ids j) := by
    intro j hne n hn hj
    rcases hdraws.mem hn with hold | ⟨hge, -⟩
    · exact h.disjoint j i hne hj hold
    · have hlt := (h.below j n hj).2
      omega
  refine ⟨hpositive, ?_, ?_, fun j j' hne => ?_⟩
  · refine (Function.forall_update_iff ids fun _ l => ∀ n ∈ l, 0 < n ∧ n < next').mpr ⟨hnew, ?_⟩
    intro j _ n hn
    obtain ⟨hpos, hlt⟩ := h.below j n hn
    exact ⟨hpos, Nat.lt_of_lt_of_le hlt hdraws.le⟩
  · refine (Function.forall_update_iff ids fun _ l => l.Nodup).mpr ⟨?_, fun j _ => h.nodup j⟩
    exact hdraws.nodup (h.nodup i) fun n hn => (h.below i n hn).2
  · by_cases hj : j = i
    · subst hj
      rw [Function.update_self, Function.update_of_ne hne.symm]
      exact hapart j' hne.symm
    · rw [Function.update_of_ne hj]
      by_cases hj' : j' = i
      · subst hj'
        rw [Function.update_self]
        exact (hapart j hj).symm
      · rw [Function.update_of_ne hj']
        exact h.disjoint j j' hne

end Distinct

namespace LinearPool

/-- The numbers of the allocations of all objects. -/
def allocIds (q : LinearPool) : List Nat :=
  (q.live ++ q.retained).map Object.allocId

/-- The numbers of the frees of the retained objects. -/
def freeIds (q : LinearPool) : List Nat :=
  q.retained.map Object.freeId

variable {q q' : LinearPool} {numbers numbers' : Numbering} {μ : Mutation} {ms : List Mutation}

/-- The new object has the number of a member, or the next one. -/
theorem newcomer_allocId_cases (q : LinearPool) (numbers : Numbering) (s : Span) (kind : ObjectKind)
    (site : Option Site) :
    (∃ o ∈ q.members s kind, (q.newcomer numbers s kind site).allocId = o.allocId) ∨
      (q.newcomer numbers s kind site).allocId = numbers.nextAlloc := by
  rcases q.newcomer_cases numbers s kind site with ⟨o, ho, hnew⟩ | hnew
  · exact Or.inl ⟨o, ho, by rw [hnew]⟩
  · exact Or.inr (by rw [hnew])

/-- An object that a filter takes out can stand for all those it takes out. -/
theorem cons_filter_subperm {os : List Object} {o : Object} (ho : o ∈ os) {p : Object → Bool}
    (hp : p o = true) : (o :: os.filter fun e => !p e).Subperm os := by
  have hout : List.Sublist [o] (os.filter p) :=
    List.singleton_sublist.mpr (List.mem_filter.mpr ⟨ho, hp⟩)
  exact ((hout.append_right _).subperm).trans (List.filter_append_perm p os).subperm

/-- A registration uses the next number, or the one of an object that it takes in. -/
theorem draws_allocIds_register (q : LinearPool) (numbers : Numbering) (s : Span)
    (kind : ObjectKind) (site : Option Site) :
    Draws numbers.nextAlloc q.allocIds (numbers.nextAlloc + 1)
      (allocIds { q with
        live := place (q.newcomer numbers s kind site) (q.live.filter fun o => !o.span.overlaps s)
        retained := q.retained.filter fun o => !o.span.overlaps s }) := by
  refine Draws.of_subperm_append ?_
  -- the new object comes first, and then what the span leaves alone
  have hrest : (allocIds { q with
      live := place (q.newcomer numbers s kind site) (q.live.filter fun o => !o.span.overlaps s)
      retained := q.retained.filter fun o => !o.span.overlaps s }).Perm
      ((q.newcomer numbers s kind site).allocId ::
        ((q.live ++ q.retained).filter fun o => !o.span.overlaps s).map Object.allocId) := by
    rw [List.filter_append]
    exact ((place_perm _ _).append_right _).map Object.allocId
  refine hrest.subperm.trans ?_
  rcases newcomer_allocId_cases q numbers s kind site with ⟨o, ho, hid⟩ | hid
  · -- the member overlaps the span, so its number is not among those of the rest
    obtain ⟨⟨hlive, hov⟩, -⟩ := mem_members.mp ho
    rw [hid, ← List.map_cons]
    obtain ⟨l, hperm, hsub⟩ :=
      cons_filter_subperm (p := fun e => e.span.overlaps s)
        (List.mem_append_left q.retained hlive) hov
    exact ⟨_, hperm.map _, (hsub.map _).trans (List.sublist_append_left _ _)⟩
  · -- the next number is drawn, and the rest only loses numbers
    rw [hid]
    refine (List.Perm.subperm (List.perm_append_singleton _ _).symm).trans ?_
    exact ((List.filter_sublist.map _).append_right _).subperm

/-- A freed object keeps the number of its allocation, and so do the objects that are retained. -/
theorem draws_allocIds_free (numbers : Numbering) {o : Object} (hlive : o ∈ q.live)
    (site : Option Site) :
    Draws numbers.nextAlloc q.allocIds numbers.nextAlloc
      (allocIds { q with
        live := q.live.filter fun e => e.span.start ≠ o.span.start
        retained :=
          newest q.retention.capacity (q.retained ++ [o.retire numbers.nextFree site]) }) := by
  refine Draws.of_subperm ?_
  have hothers : (o :: q.live.filter fun e => e.span.start ≠ o.span.start).Subperm q.live := by
    have hsub := cons_filter_subperm (p := fun e => e.span.start = o.span.start) hlive (by simp)
    simpa only [decide_not] using hsub
  obtain ⟨l, hperm, hsub⟩ := hothers
  -- the object moves from the live ones to the end of the retained ones
  have hmoved : List.Perm
      (((q.live.filter fun e => e.span.start ≠ o.span.start) ++ (q.retained ++ [o])).map
        Object.allocId)
      ((l ++ q.retained).map Object.allocId) := by
    refine List.Perm.map _ ?_
    rw [← List.append_assoc]
    refine (List.perm_append_singleton _ _).trans ?_
    rw [← List.cons_append]
    exact hperm.symm.append_right _
  have hnumbers : ((q.retained ++ [o.retire numbers.nextFree site]).map Object.allocId) =
      (q.retained ++ [o]).map Object.allocId := by
    rw [List.map_append, List.map_append]
    rfl
  have hkept : List.Sublist
      ((newest q.retention.capacity (q.retained ++ [o.retire numbers.nextFree site])).map
        Object.allocId)
      ((q.retained ++ [o]).map Object.allocId) := by
    rw [← hnumbers]
    exact (newest_sublist _ _).map _
  rw [allocIds, List.map_append]
  refine (hkept.append_left _).subperm.trans ?_
  rw [← List.map_append]
  exact hmoved.subperm.trans ((hsub.append_right _).map _).subperm

/-- A step draws the numbers of allocations. -/
theorem Step.draws_allocIds (h : q.Step numbers μ q' numbers') :
    Draws numbers.nextAlloc q.allocIds numbers'.nextAlloc q'.allocIds := by
  cases h with
  | register s kind site => exact draws_allocIds_register q numbers s kind site
  | free o site hlive => exact draws_allocIds_free numbers hlive site
  | drop a =>
    exact .of_subperm ((List.filter_sublist.append_right _).map Object.allocId).subperm
  | reset => exact .of_subperm (List.nil_subperm)

/-- A step draws the numbers of frees. -/
theorem Step.draws_freeIds (h : q.Step numbers μ q' numbers') :
    Draws numbers.nextFree q.freeIds numbers'.nextFree q'.freeIds := by
  cases h with
  | register s kind site => exact .of_subperm (List.filter_sublist.map Object.freeId).subperm
  | free o site hlive =>
    -- only a free draws a number, and trimming can but take numbers away
    refine .of_subperm_append ?_
    have hnumber : (o.retire numbers.nextFree site).freeId = numbers.nextFree := rfl
    have hsub := ((newest_sublist q.retention.capacity
      (q.retained ++ [o.retire numbers.nextFree site])).map Object.freeId).subperm
    rw [List.map_append, List.map_singleton, hnumber] at hsub
    exact hsub
  | drop a => exact .of_subperm (List.Subperm.refl _)
  | reset => exact .of_subperm (List.nil_subperm)

/-- Mutations draw the numbers of allocations that are new in the pool. -/
theorem Steps.draws_allocIds (h : q.Steps numbers ms q' numbers') :
    Draws numbers.nextAlloc q.allocIds numbers'.nextAlloc q'.allocIds := by
  induction h with
  | nil => exact .of_subperm (List.Subperm.refl _)
  | cons hstep _ ih => exact hstep.draws_allocIds.trans ih

/-- Mutations draw the numbers of frees that are new in the pool. -/
theorem Steps.draws_freeIds (h : q.Steps numbers ms q' numbers') :
    Draws numbers.nextFree q.freeIds numbers'.nextFree q'.freeIds := by
  induction h with
  | nil => exact .of_subperm (List.Subperm.refl _)
  | cons hstep _ ih => exact hstep.draws_freeIds.trans ih

/-! ### The marks of live and of retained objects -/

/-- Live objects have no release, and retained ones have one and were on the heap. -/
structure Marked (q : LinearPool) : Prop where
  /-- No live object has been freed. -/
  live : ∀ o ∈ q.live, o.release = none
  /-- Every retained object has been freed, and could be. -/
  retained : ∀ o ∈ q.retained, o.release ≠ none ∧ o.kind.isHeap = true

/-- A pool without objects has none with a wrong mark. -/
theorem marked_empty (retention : Retention) : Marked { retention } :=
  ⟨by simp, by simp⟩

/-- A mutation marks an object as freed when it retains it, and no other. -/
theorem Step.marked (h : q.Step numbers μ q' numbers') (hq : q.Marked) : q'.Marked := by
  cases h with
  | register s kind site =>
    refine ⟨?_, fun o ho => hq.retained o (List.mem_of_mem_filter ho)⟩
    intro o ho
    rcases List.mem_cons.mp ((place_perm _ _).mem_iff.mp ho) with rfl | hold
    · -- the new object is a live one, wider, or has never been freed
      rcases q.newcomer_cases numbers s kind site with ⟨o, ho, hnew⟩ | hnew
      · rw [hnew]
        exact hq.live o (mem_members.mp ho).1.1
      · rw [hnew]
    · exact hq.live o (List.mem_of_mem_filter hold)
  | free o site hlive hheap =>
    refine ⟨fun e he => hq.live e (List.mem_of_mem_filter he), ?_⟩
    intro r hr
    rcases List.mem_append.mp ((newest_sublist _ _).subset hr) with hold | hnew
    · exact hq.retained r hold
    · rw [List.mem_singleton.mp hnew]
      exact ⟨by simp [Object.retire], hheap⟩
  | drop a => exact ⟨fun e he => hq.live e (List.mem_of_mem_filter he), hq.retained⟩
  | reset => exact marked_empty q.retention

/-- Live objects stay live and retained ones freed through mutations. -/
theorem Steps.marked (h : q.Steps numbers ms q' numbers') (hq : q.Marked) : q'.Marked :=
  h.invariant Step.marked hq

end LinearPool

end MemorySentry
