import Mathlib.Logic.Equiv.Basic
import MemorySentry.Proofs.Since
import MemorySentry.Proofs.Trace.Relabelling

/-!
# Labels of a trace

Which labels are in use after some operations can be seen from these operations alone (`IsOpen`),
and so can the first operation whose label is not what it has to be (`FirstMisuse`). A replay fails
there and nowhere else, unless it is ended before. A run is followed with the labels that are open
(`Replay.State.Follows`, `Replay.run_keepsLabels`).

A label names a new pool when it is given to one, whether or not it has been in use before, and from
there on it is as good as one that has never been in use. `replay_labels` says both.
-/

namespace MemorySentry.Trace

open Monitor (Reachable)

/-! ### Misuse of labels -/

/-- A label is open after operations if it was given to a pool that has not been destroyed since. -/
def IsOpen (ops : List Operation) (label : Label) : Prop :=
  Since (· = .createPool label) (· = .destroyPool label) ops

/-- The operation at an index misuses its label, which an error says. -/
inductive Misuses (ops : List Operation) (i : Nat) : ReplayError → Prop
  /-- It gives a label to a second pool. -/
  | duplicate {label : Label} (hop : ops[i]? = some (.createPool label))
      (hopen : IsOpen (ops.take i) label) : Misuses ops i (.duplicatePool i label)
  /-- It is about a pool that is not there. -/
  | unknown {op : Operation} {label : Label} (hop : ops[i]? = some op)
      (hlabel : op.label? = some label) (hold : op ≠ .createPool label)
      (hopen : ¬ IsOpen (ops.take i) label) : Misuses ops i (.unknownPool i label)

/-- The operation at an index is the first one that misuses its label. -/
structure FirstMisuse (ops : List Operation) (i : Nat) (e : ReplayError) : Prop where
  misuses : Misuses ops i e
  least : ∀ j < i, ∀ e, ¬ Misuses ops j e

/-- A label that no operation has is not open. -/
theorem not_isOpen_of_unused {ops : List Operation} {label : Label}
    (h : ∀ op ∈ ops, op.label? ≠ some label) : ¬ IsOpen ops label := fun hopen => by
  obtain ⟨op, hmem, rfl⟩ := hopen.exists_mem
  exact h _ hmem rfl

/-- Only operations of the trace are misuses. -/
theorem Misuses.lt_length {ops : List Operation} {i : Nat} {e : ReplayError}
    (h : Misuses ops i e) : i < ops.length := by
  cases h with
  | duplicate hop _ => exact (List.getElem?_eq_some_iff.mp hop).1
  | unknown hop _ _ _ => exact (List.getElem?_eq_some_iff.mp hop).1

/-- An operation misuses its label in one way only. -/
theorem Misuses.unique {ops : List Operation} {i : Nat} {e e' : ReplayError}
    (h : Misuses ops i e) (h' : Misuses ops i e') : e = e' := by
  cases h with
  | duplicate hop hopen =>
    cases h' with
    | duplicate hop' hopen' =>
      cases hop.symm.trans hop'
      rfl
    | unknown hop' hlabel hold hopen' =>
      cases hop.symm.trans hop'
      cases hlabel
      exact absurd rfl hold
  | unknown hop hlabel hold hopen =>
    cases h' with
    | duplicate hop' hopen' =>
      cases hop.symm.trans hop'
      cases hlabel
      exact absurd rfl hold
    | unknown hop' hlabel' hold' hopen' =>
      cases hop.symm.trans hop'
      cases hlabel.symm.trans hlabel'
      rfl

/-- There is one first misuse at most. -/
theorem FirstMisuse.unique {ops : List Operation} {i i' : Nat} {e e' : ReplayError}
    (h : FirstMisuse ops i e) (h' : FirstMisuse ops i' e') : i = i' ∧ e = e' := by
  rcases Nat.lt_trichotomy i i' with hlt | rfl | hlt
  · exact absurd h.misuses (h'.least i hlt e)
  · exact ⟨rfl, h.misuses.unique h'.misuses⟩
  · exact absurd h'.misuses (h.least i' hlt e')

namespace Replay

/-! ### The labels that a replay knows -/

/-- A replay knows the labels that are open after the operations that it performed. -/
def State.Follows (s : State) (ops : List Operation) : Prop :=
  ∀ label, (s.pools.lookup label).isSome = true ↔ IsOpen ops label

/-- Before the first operation no label is bound. -/
theorem follows_start (o : Options) : (State.start o).Follows [] := fun _ =>
  iff_of_false Bool.false_ne_true not_since_nil

/-- An operation that creates no pool is about the pool that its label names, if it has one. -/
theorem State.resolve_of_old (s : State) (index : Nat) {op : Operation}
    (h : ∀ label, op ≠ .createPool label) :
    s.resolve index op = op.label?.elim (.ok 0) (s.pool index) := by
  cases op with
  | createPool label => exact absurd rfl (h label)
  | _ => rfl

/-- A label is refused exactly if no pool is bound to it, and the error names the operation and the
label. -/
theorem State.pool_eq_error_iff {s : State} {index : Nat} {label : Label} {e : ReplayError} :
    s.pool index label = .error e ↔
      s.pools.lookup label = none ∧ e = .unknownPool index label := by
  unfold pool
  cases s.pools.lookup label <;> simp [eq_comm]

namespace State.Follows

variable {s : State} {done : List Operation}

/-- A replay fails at an operation if and only if the operation misuses its label. -/
theorem resolve_eq_error_iff (h : s.Follows done) (rest : List Operation) {op : Operation}
    {e : ReplayError} :
    s.resolve done.length op = .error e ↔ Misuses (done ++ op :: rest) done.length e := by
  have hop : (done ++ op :: rest)[done.length]? = some op := by simp
  have htake : (done ++ op :: rest).take done.length = done := by simp
  constructor
  · intro hresolve
    -- a new pool needs a label that is not in use, and any other operation one that is
    by_cases hnew : ∃ label, op = .createPool label
    · obtain ⟨label, rfl⟩ := hnew
      simp only [resolve] at hresolve
      split at hresolve
      · next hsome =>
        cases hresolve
        exact .duplicate hop (htake.symm ▸ (h label).mp hsome)
      · cases hresolve
    · rw [s.resolve_of_old done.length fun label heq => hnew ⟨label, heq⟩] at hresolve
      rcases hlabel : op.label? with _ | label
      · rw [hlabel] at hresolve
        cases hresolve
      · rw [hlabel] at hresolve
        obtain ⟨hnone, rfl⟩ := pool_eq_error_iff.mp hresolve
        refine .unknown hop hlabel (fun heq => hnew ⟨label, heq⟩) (htake.symm ▸ fun hopen => ?_)
        have hsome := (h label).mpr hopen
        rw [hnone] at hsome
        cases hsome
  · intro hmisuses
    cases hmisuses with
    | duplicate hop' hopen =>
      cases hop.symm.trans hop'
      rw [htake] at hopen
      exact if_pos ((h _).mpr hopen)
    | @unknown op' label hop' hlabel hold hopen =>
      cases hop.symm.trans hop'
      rw [htake] at hopen
      have hnew : ∀ label', op ≠ .createPool label' := by
        rintro label' rfl
        cases hlabel
        exact hold rfl
      rw [s.resolve_of_old done.length hnew, hlabel]
      refine pool_eq_error_iff.mpr ⟨?_, rfl⟩
      exact Option.not_isSome_iff_eq_none.mp fun hsome => hopen ((h label).mp hsome)

/-- After an operation the replay knows the labels that are open then. -/
theorem perform (h : s.Follows done) (index : Nat) (id : PoolId) (op : Operation) :
    (s.perform index id op).Follows (done ++ [op]) := by
  intro label
  rw [IsOpen, since_concat, ← IsOpen, ← h label]
  show ((op.labelsAfter s.pools id).lookup label).isSome = true ↔ _
  cases op with
  | createPool label' =>
    simp only [Operation.labelsAfter, List.lookup_cons]
    by_cases heq : label = label'
    · simp [heq]
    · simp [beq_false_of_ne heq, Ne.symm heq]
  | destroyPool label' =>
    simp only [Operation.labelsAfter, lookup_filter_ne]
    by_cases heq : label = label'
    · simp [heq]
    · simp [heq, Ne.symm heq]
  | _ => simp [Operation.labelsAfter]

/-- An operation that is performed does not misuse its label. -/
theorem apply (h : s.Follows done) (rest : List Operation) {op : Operation} {s' : State}
    {r : Except Violation Unit} (happly : s.apply done.length op = .ok (r, s')) :
    s'.Follows (done ++ [op]) ∧ ∀ e, ¬ Misuses (done ++ op :: rest) done.length e := by
  obtain ⟨id, hresolve, -, rfl⟩ := State.apply_eq_ok_iff.mp happly
  refine ⟨h.perform _ id op, fun e hmisuses => ?_⟩
  rw [(h.resolve_eq_error_iff rest).mpr hmisuses] at hresolve
  cases hresolve

end State.Follows

/-! ### Runs -/

/-- How a run through the last of these operations treats their labels. -/
structure Course.KeepsLabels (c : Course) (ops : List Operation) : Prop where
  failed : ∀ e, c.final = .error e → ∃ i, FirstMisuse ops i e
  /-- Up to the operation that ends it no operation misuses its label. -/
  ended : ∀ i, c.terminatedAt = some i → ∀ j ≤ i, ∀ e, ¬ Misuses ops j e
  /-- If it performs all operations, none of them misuses its label. -/
  complete : ∀ s, c.next? = some s → s.Follows ops ∧ ∀ j e, ¬ Misuses ops j e

/-- A run fails at the first operation that misuses its label, and nowhere else. -/
theorem run_keepsLabels (clock : Nat → String) (s : State) (done ops : List Operation)
    (hs : s.Follows done) (hdone : ∀ j < done.length, ∀ e, ¬ Misuses (done ++ ops) j e) :
    (run clock s done.length ops).KeepsLabels (done ++ ops) := by
  generalize hindex : done.length = index at hdone ⊢
  revert done
  refine run_induction clock (motive := fun s index ops c => ∀ done : List Operation,
    s.Follows done → done.length = index → (∀ j < index, ∀ e, ¬ Misuses (done ++ ops) j e) →
      c.KeepsLabels (done ++ ops)) ?done ?failed ?ended ?going s index ops
  case done =>
    rintro s _ done hs rfl hdone
    refine ⟨fun e h => (by cases h), fun i h => (by cases h), fun s' h => ?_⟩
    cases h
    refine ⟨(List.append_nil done).symm ▸ hs, fun j e hmisuses => ?_⟩
    -- all operations are done
    have hlt := hmisuses.lt_length
    rw [List.append_nil] at hlt
    exact hdone j hlt e hmisuses
  case failed =>
    rintro s _ op rest e happly done hs rfl hdone
    have hmisuses := (hs.resolve_eq_error_iff rest).mp (State.apply_eq_error_iff.mp happly)
    refine ⟨fun e' h => ?_, fun i h => (by cases h), fun s' h => (by cases h)⟩
    cases h
    exact ⟨done.length, hmisuses, hdone⟩
  case ended =>
    rintro s _ op rest v s₁ happly - done hs rfl hdone
    obtain ⟨-, hnow⟩ := hs.apply rest happly
    refine ⟨fun e h => (by cases h), fun i h j hj => ?_, fun s' h => (by cases h)⟩
    cases h
    -- what was ended by the operation had not failed before or at it
    rcases Nat.lt_or_eq_of_le hj with hlt | rfl
    · exact hdone j hlt
    · exact hnow
  case going =>
    rintro s _ op rest r s₁ c happly - ih done hs rfl hdone
    obtain ⟨hs₁, hnow⟩ := hs.apply rest happly
    -- the operation counts as done for the rest of the run
    have happend : done ++ op :: rest = (done ++ [op]) ++ rest := by simp
    have hkeeps := ih (done ++ [op]) hs₁ (by simp) fun j hj => ?_
    · rw [happend]
      exact ⟨hkeeps.failed, hkeeps.ended, hkeeps.complete⟩
    · rw [← happend]
      rcases Nat.lt_or_eq_of_le (Nat.le_of_lt_succ hj) with hlt | rfl
      · exact hdone j hlt
      · exact hnow

/-- A state in which neither of two labels is in use is the same with one for the other. -/
theorem State.mapLabel_swap {s : State} {label label' : Label}
    (h : s.pools.lookup label = none) (h' : s.pools.lookup label' = none) :
    s.mapLabel (Equiv.swap label label') = s := by
  have hpools : s.pools.map (Prod.map (Equiv.swap label label') id) = s.pools := by
    refine (List.map_congr_left fun e he => ?_).trans (List.map_id _)
    have hne : label ≠ e.1 := bne_iff_ne.mp (List.lookup_eq_none_iff.mp h e he)
    have hne' : label' ≠ e.1 := bne_iff_ne.mp (List.lookup_eq_none_iff.mp h' e he)
    exact Prod.ext (Equiv.swap_apply_of_ne_of_ne hne.symm hne'.symm) rfl
  rw [mapLabel, hpools]

end Replay

/-! ### Replays -/

open Replay (State)

section

variable (t : Trace) (runId : String) (clock : Nat → String)

/-- A trace that stops after its first operations. -/
def upTo (n : Nat) : Trace :=
  { t with operations := t.operations.take n }

/-- A trace with other labels from an operation on. -/
def relabelFrom (n : Nat) (f : Label → Label) : Trace :=
  { t with operations := t.operations.take n ++ (t.operations.drop n).map (Operation.mapLabel f) }

/-- The operation at an index ends the replay of a trace. -/
def EndedBy (i : Nat) : Prop :=
  ∃ s, ((t.upTo (i + 1)).replay runId clock).2 = .ok s ∧ s.terminatedAt = some i

/-- A replay ends with the summary of its course, or with the error that ended it. -/
theorem replay_snd :
    (t.replay runId clock).2 = (t.course clock).final.map ((t.course clock).summary t) := by
  rcases t.replay_cases runId clock with ⟨e, hfinal, hreplay⟩ | ⟨s, hfinal, hreplay⟩
  · rw [hreplay, hfinal]
    rfl
  · rw [hreplay, hfinal]
    rfl

/-- The run of a trace goes through its first operations and then through the others. -/
theorem course_eq_followedBy (n : Nat) :
    t.course clock = ((t.upTo n).course clock).followedBy fun s =>
      Replay.run (fun index => clock (index + 1)) s (t.operations.take n).length
        (t.operations.drop n) := by
  have h := Replay.run_append (fun index => clock (index + 1)) (.start t.options) 0
    (t.operations.take n) (t.operations.drop n)
  rwa [List.take_append_drop, Nat.zero_add] at h

/-- Up to where labels are changed the run is the same. -/
theorem course_relabelFrom {n : Nat} (hn : n ≤ t.operations.length) (f : Label → Label) :
    (t.relabelFrom n f).course clock = ((t.upTo n).course clock).followedBy fun s =>
      Replay.run (fun index => clock (index + 1)) s (t.operations.take n).length
        ((t.operations.drop n).map (Operation.mapLabel f)) := by
  have htake : (t.relabelFrom n f).operations.take n = t.operations.take n := by
    simp [relabelFrom, hn]
  have hdrop : (t.relabelFrom n f).operations.drop n =
      (t.operations.drop n).map (Operation.mapLabel f) := by
    simp [relabelFrom, hn]
  have hfirst : (t.relabelFrom n f).upTo n = t.upTo n := by
    rw [upTo, htake]
    rfl
  rw [(t.relabelFrom n f).course_eq_followedBy clock n, hfirst, htake, hdrop]

/-- The course of a trace binds and refuses labels as its operations say. -/
theorem course_keepsLabels : (t.course clock).KeepsLabels t.operations :=
  Replay.run_keepsLabels _ _ [] t.operations (Replay.follows_start t.options)
    fun j hj => absurd hj (Nat.not_lt_zero j)

/-- The run of the first operations shows which operation ends the run. -/
theorem endedBy_iff {i : Nat} :
    t.EndedBy runId clock i ↔ (t.course clock).terminatedAt = some i := by
  have hcourse := t.course_eq_followedBy clock (i + 1)
  unfold EndedBy
  rw [replay_snd]
  set c := (t.upTo (i + 1)).course clock
  constructor
  · rintro ⟨s, hs, hended⟩
    rcases hfinal : c.final with e | s'
    · rw [hfinal] at hs
      cases hs
    · rw [hfinal] at hs
      cases hs
      have hnext : c.next? = none := by
        simp only [Replay.Course.next?, hfinal, show c.terminatedAt = some i from hended]
      rw [hcourse, Replay.Course.followedBy, hnext]
      exact hended
  · intro hended
    rw [hcourse, Replay.Course.followedBy] at hended
    rcases hnext : c.next? with _ | s
    · rw [hnext] at hended
      rcases hfinal : c.final with e | s
      · rw [show c.terminatedAt = none from Replay.terminatedAt_of_failed _ _ _ _ hfinal] at hended
        cases hended
      · exact ⟨_, rfl, hended⟩
    · -- the operations that follow come later
      rw [hnext] at hended
      have hge := (Replay.run_tells _ _ _ _).terminatedAt_ge i hended
      have hall : t.operations.drop (i + 1) = [] := by
        rw [List.drop_eq_nil_iff]
        rw [List.length_take] at hge
        omega
      rw [hall] at hended
      cases hended

/-- A replay fails at the first operation that misuses its label, if it comes that far. -/
theorem replay_eq_error_iff {e : ReplayError} :
    (t.replay runId clock).2 = .error e ↔
      ∃ i, FirstMisuse t.operations i e ∧ ∀ j < i, ¬ t.EndedBy runId clock j := by
  have hkeeps := t.course_keepsLabels clock
  rw [replay_snd]
  constructor
  · intro herror
    rcases hfinal : (t.course clock).final with e' | s
    · rw [hfinal] at herror
      cases herror
      obtain ⟨i, hfirst⟩ := hkeeps.failed e hfinal
      refine ⟨i, hfirst, fun j _ hended => ?_⟩
      have hnone : (t.course clock).terminatedAt = none :=
        Replay.terminatedAt_of_failed _ _ _ _ hfinal
      rw [endedBy_iff, hnone] at hended
      cases hended
    · rw [hfinal] at herror
      cases herror
  · rintro ⟨i, hfirst, hnot⟩
    rcases hfinal : (t.course clock).final with e' | s
    · obtain ⟨i', hfirst'⟩ := hkeeps.failed e' hfinal
      rw [(hfirst.unique hfirst').2]
      rfl
    · -- a replay that succeeds is ended before, or there is no misuse
      rcases hended : (t.course clock).terminatedAt with _ | j
      · have hnext := Replay.Course.next?_eq_some_iff.mpr ⟨hfinal, hended⟩
        exact absurd hfirst.misuses ((hkeeps.complete s hnext).2 i e)
      · have hlt : j < i := by
          by_contra hle
          exact hkeeps.ended j hended i (Nat.le_of_not_lt hle) e hfirst.misuses
        exact absurd (t.endedBy_iff runId clock |>.mpr hended) (hnot j hlt)

/-- The state before an operation that is performed, and the one after it. -/
theorem next?_upTo_succ {i : Nat} {op : Operation} {s : State} (hop : t.operations[i]? = some op)
    (hs : ((t.upTo (i + 1)).course clock).next? = some s) :
    ∃ s₀ id, ((t.upTo i).course clock).next? = some s₀ ∧ s₀.resolve i op = .ok id ∧
      s = s₀.perform i id op := by
  obtain ⟨hlt, hget⟩ := List.getElem?_eq_some_iff.mp hop
  have hfirst : (t.upTo (i + 1)).upTo i = t.upTo i := by simp [upTo, List.take_take]
  have hlength : ((t.upTo (i + 1)).operations.take i).length = i := by
    simp [upTo, List.take_take, hlt.le]
  have hlast : (t.upTo (i + 1)).operations.drop i = [op] := by
    show (t.operations.take (i + 1)).drop i = [op]
    rw [List.take_succ_eq_append_getElem hlt, hget,
      List.drop_append_of_le_length (by simp [hlt.le]), List.drop_eq_nil_of_le (by simp),
      List.nil_append]
  rw [(t.upTo (i + 1)).course_eq_followedBy clock i, hfirst, hlength, hlast,
    Replay.Course.next?_followedBy] at hs
  obtain ⟨s₀, hs₀, hs⟩ := Option.bind_eq_some_iff.mp hs
  obtain ⟨id, hresolve, rfl⟩ := Replay.next?_run_singleton hs
  exact ⟨s₀, id, hs₀, hresolve, rfl⟩

variable {t clock} {i : Nat} {label : Label} {s : State}
  (hop : t.operations[i]? = some (.createPool label))
  (hs : ((t.upTo (i + 1)).course clock).next? = some s)

include hop hs

/-- A label that is given to a pool names a new one, in which nothing has happened. -/
theorem newPool_of_createPool : ∃ id, s.pools.lookup label = some id ∧
    s.monitor.pool? id = some { retention := t.options.settings.retention } := by
  obtain ⟨s₀, id, hs₀, hresolve, rfl⟩ := t.next?_upTo_succ clock hop hs
  have hreachable : Reachable t.options.settings .refusing s₀.monitor :=
    Replay.run_reachable _ _ 0 _ (Replay.Course.next?_eq_some_iff.mp hs₀).1 (.start _)
  simp only [State.resolve] at hresolve
  split at hresolve
  · cases hresolve
  · cases hresolve
    refine ⟨s₀.monitor.nextPool, List.lookup_cons_self, ?_⟩
    show s₀.monitor.createPool.2.pool? s₀.monitor.nextPool = _
    rw [Monitor.pool?_createPool hreachable.wellFormed.numbered, if_pos rfl, hreachable.settings_eq]

/-- Before a label is given to a pool it is not in use, nor is one that no operation has. -/
theorem mapLabel_swap_of_createPool {fresh : Label}
    (hfresh : ∀ op ∈ t.operations, op.label? ≠ some fresh) :
    ∃ s₀, ((t.upTo i).course clock).next? = some s₀ ∧
      s₀.mapLabel (Equiv.swap label fresh) = s₀ := by
  obtain ⟨s₀, id, hs₀, hresolve, -⟩ := t.next?_upTo_succ clock hop hs
  refine ⟨s₀, hs₀, State.mapLabel_swap ?_ ?_⟩
  · simp only [State.resolve] at hresolve
    split at hresolve
    · cases hresolve
    · next hnot => exact Option.not_isSome_iff_eq_none.mp hnot
  · have hfollows := (((t.upTo i).course_keepsLabels clock).complete s₀ hs₀).1
    refine Option.not_isSome_iff_eq_none.mp fun hsome => ?_
    exact not_isOpen_of_unused (fun op hmem => hfresh op (List.mem_of_mem_take hmem))
      ((hfollows fresh).mp hsome)

/-- From where a label is given to a pool another one that is never in use does as well. -/
theorem replay_relabelFrom {fresh : Label} (runId : String)
    (hfresh : ∀ op ∈ t.operations, op.label? ≠ some fresh) :
    ((t.relabelFrom i (Equiv.swap label fresh)).replay runId clock).2 =
      (t.replay runId clock).2.mapError (ReplayError.mapLabel (Equiv.swap label fresh)) := by
  obtain ⟨s₀, hs₀, hsame⟩ := mapLabel_swap_of_createPool hop hs hfresh
  set f := Equiv.swap label fresh
  have hle : i ≤ t.operations.length := (List.getElem?_eq_some_iff.mp hop).1.le
  have htotal : (t.relabelFrom i f).operations.length = t.operations.length := by
    simp [relabelFrom, hle]
  -- the two runs part at the operation, with labels that are renamed from there on
  have hrun := Replay.run_mapLabel f.injective (fun index => clock (index + 1)) s₀
    (t.operations.take i).length (t.operations.drop i)
  rw [hsame] at hrun
  rw [replay_snd, replay_snd, t.course_relabelFrom clock hle, t.course_eq_followedBy clock i]
  simp only [Replay.Course.followedBy, hs₀, hrun]
  rcases hfinal : (Replay.run _ s₀ _ (t.operations.drop i)).final with e | s'
  · simp only [Replay.Course.mapLabel, hfinal]
    rfl
  · simp only [Replay.Course.mapLabel, hfinal, Except.map, Except.mapError, Replay.Course.summary,
      htotal]
    rfl

end

/-- A replay fails if and only if an operation misuses its label and no operation before ends the
replay, and it names the first operation that does, with its label. Otherwise it succeeds.

A label that is given to a pool, for the first time or again, names a new pool from there on, and a
label that is never in use would lead to the same. -/
theorem replay_labels (t : Trace) (runId : String) (clock : Nat → String) :
    (∀ e, (t.replay runId clock).2 = .error e ↔
      ∃ i, FirstMisuse t.operations i e ∧ ∀ j < i, ¬ t.EndedBy runId clock j) ∧
    ((∀ i e, FirstMisuse t.operations i e → ∃ j < i, t.EndedBy runId clock j) →
      ∃ s, (t.replay runId clock).2 = .ok s) ∧
    ∀ i label s, t.operations[i]? = some (.createPool label) →
      ((t.upTo (i + 1)).course clock).next? = some s →
        (∃ id, s.pools.lookup label = some id ∧
          s.monitor.pool? id = some { retention := t.options.settings.retention }) ∧
        ∀ fresh, (∀ op ∈ t.operations, op.label? ≠ some fresh) →
          ((t.relabelFrom i (Equiv.swap label fresh)).replay runId clock).2 =
            (t.replay runId clock).2.mapError (ReplayError.mapLabel (Equiv.swap label fresh)) := by
  refine ⟨fun e => t.replay_eq_error_iff runId clock, fun hended => ?_, fun i label s hop hs =>
    ⟨newPool_of_createPool hop hs, fun fresh hfresh => replay_relabelFrom hop hs runId hfresh⟩⟩
  rcases hreplay : (t.replay runId clock).2 with e | s
  · obtain ⟨i, hfirst, hnot⟩ := (t.replay_eq_error_iff runId clock).mp hreplay
    obtain ⟨j, hj, hends⟩ := hended i e hfirst
    exact absurd hends (hnot j hj)
  · exact ⟨s, rfl⟩

/-- A label is in use again after its pool was destroyed. -/
theorem replay_labels_again :
    let t : Trace :=
      { name := "again"
        operations := [.createPool "a", .register "a" 0x1000 16 .heap, .free "a" 0x1000,
          .destroyPool "a", .createPool "a", .free "a" 0x1000] }
    let t' : Trace :=
      { name := "again"
        operations := [.createPool "a", .register "a" 0x1000 16 .heap, .free "a" 0x1000,
          .destroyPool "a", .createPool "b", .free "b" 0x1000] }
    let clock : Nat → String := fun _ => "now"
    (∃ s id, ((t.upTo 5).course clock).next? = some s ∧ s.pools.lookup "a" = some id ∧
      s.monitor.pool? id = some { retention := Settings.retention {} }) ∧
    (t'.replay "run" clock).2 =
      (t.replay "run" clock).2.mapError (ReplayError.mapLabel (Equiv.swap "a" "b")) := by
  intro t t' clock
  obtain ⟨s, hs⟩ : ∃ s, ((t.upTo 5).course clock).next? = some s :=
    Option.isSome_iff_exists.mp (by decide +kernel)
  obtain ⟨-, -, hgiven⟩ := replay_labels t "run" clock
  obtain ⟨⟨id, hid, hpool⟩, hfresh⟩ := hgiven 4 "a" s rfl hs
  have hrelabel : t.relabelFrom 4 (Equiv.swap "a" "b") = t' := by decide +kernel
  refine ⟨⟨s, id, hs, hid, hpool⟩, ?_⟩
  rw [← hrelabel]
  exact hfresh "b" (by decide)

end MemorySentry.Trace
