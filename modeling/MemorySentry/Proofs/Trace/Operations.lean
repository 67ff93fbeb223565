import MemorySentry.Proofs.Monitor.Reachability
import MemorySentry.Proofs.Trace.Replay

/-!
# Operations of a trace as operations of a monitor

An operation of a trace names its pool by a label. Once it is known which pool that is
(`Replay.State.resolve`), it is an operation of the monitor (`Operation.command`) followed by a
change of the labels in use (`Operation.labelsAfter`), and it fails just if the label is not what it
has to be (`Replay.State.apply_eq`). So what every operation of a monitor keeps, a replay keeps
(`Replay.run_reachable`), and a replay of two lists of operations is a replay of the first one that
the second one goes on with (`Replay.run_append`).
-/

namespace MemorySentry.Trace

open Monitor (Answer Reachable violationIn)
open Replay (siteOf provenance access)

/-- What an operation asks of the monitor, the pool `id` being the one that it is about. -/
def Operation.command (index : Nat) (id : PoolId) : Operation → Monitor.Command
  | .createPool _ => .createPool
  | .destroyPool _ => .destroyPool id
  | .register _ a size kind => .register id a size kind (siteOf index)
  | .registerExternal a size => .registerExternal a size (siteOf index)
  | .free _ a => .free id a (siteOf index)
  | .endScope _ a => .endScope id a
  | .move _ new old size => .move id new old size (siteOf index)
  | .checkAccess _ a length complete write =>
    .checkAccess id a length ⟨provenance complete, access write⟩ (siteOf index)
  | .checkAlignment _ a elementSize => .checkAlignment id a elementSize (siteOf index)
  | .checkArithmetic _ source dest complete =>
    .checkArithmetic id source dest ⟨provenance complete, .read⟩ (siteOf index)
  | .checkDerived base pointer size => .checkDerived base pointer size (siteOf index)
  | .checkDerivedAccess base pointer size length =>
    .checkDerivedAccess base pointer size length (siteOf index)
  | .allocated _ callee args returned stringLength =>
    .allocated id ⟨callee, args, returned⟩ (fun _ => stringLength) (siteOf index)
  | .deallocated _ callee args => .deallocated id ⟨callee, args, 0⟩ (siteOf index)

/-- The labels in use after an operation on the pool `id`, with their pools. -/
def Operation.labelsAfter (pools : List (Label × PoolId)) (id : PoolId) :
    Operation → List (Label × PoolId)
  | .createPool label => (label, id) :: pools
  | .destroyPool label => pools.filter fun e => e.1 ≠ label
  | _ => pools

namespace Replay

/-- The result of an operation whose monitor answered. -/
def resultIn (answer : Answer) : Except Violation Unit :=
  match answer.violation? with
  | none => .ok ()
  | some v => .error v

/-- The pool that an operation is about: the next one, the one that its label names, or none. -/
def State.resolve (s : State) (index : Nat) : Operation → Except ReplayError PoolId
  | .createPool label =>
    if (s.pools.lookup label).isSome then .error (.duplicatePool index label)
    else .ok s.monitor.nextPool
  | op =>
    match op.label? with
    | some label => s.pool index label
    | none => .ok 0

/-- A replay continued with an operation on the pool `id`. -/
def State.perform (s : State) (index : Nat) (id : PoolId) (op : Operation) : State where
  monitor := (s.monitor.perform (op.command index id)).2
  pools := op.labelsAfter s.pools id

/-- The result of an operation is what its answer says, apart from the value. -/
theorem resultIn_eq {answer : Answer} {α : Type} {r : Except Violation α}
    (h : answer.violation? = violationIn r) : resultIn answer = outcomeOf r := by
  unfold resultIn
  rw [h]
  cases r <;> rfl

/-- What is done to the pool that a label names fails if there is none. -/
theorem State.pool_bind_eq_map (s : State) (index : Nat) (label : Label) {α : Type}
    (f : PoolId → α) :
    (s.pool index label >>= fun id => .ok (f id)) = (s.pool index label).map f := by
  cases s.pool index label <;> rfl

/-- An operation that may find a violation has the result that is in the answer of the monitor. -/
theorem State.after_eq (s : State) {α : Type} {label : Label} (index : Nat)
    (result : PoolId → Except Violation α × Monitor) (answer : PoolId → Answer)
    (h : ∀ id, (answer id).violation? = violationIn (result id).1) :
    (s.pool index label >>= fun id => .ok (s.after (result id))) =
      (s.pool index label).map fun id =>
        (resultIn (answer id), { s with monitor := (result id).2 }) := by
  rw [pool_bind_eq_map]
  refine congrArg (Except.map · _) (funext fun id => ?_)
  rw [resultIn_eq (h id)]
  rfl

/-- An operation is an operation of the monitor on the pool that it is about. -/
theorem State.apply_eq (s : State) (index : Nat) (op : Operation) :
    s.apply index op = (s.resolve index op).map fun id =>
      (resultIn (s.monitor.perform (op.command index id)).1, s.perform index id op) := by
  cases op with
  | createPool label =>
    simp only [apply, resolve]
    split <;> rfl
  -- these are about no pool, and the others about one that has to be there
  | registerExternal a size => rfl
  | checkDerived base pointer size =>
    exact congrArg (fun r => Except.ok (r, _)) (resultIn_eq (Answer.violation?_derived _)).symm
  | checkDerivedAccess base pointer size length =>
    exact congrArg (fun r => Except.ok (r, _)) (resultIn_eq (Answer.violation?_checked _)).symm
  | destroyPool label | register label | endScope label => exact s.pool_bind_eq_map index label _
  | free label a => exact s.after_eq index _ _ fun id => Answer.violation?_freed _
  | move label | allocated label => exact s.after_eq index _ _ fun id => Answer.violation?_moved _
  | checkAccess label | checkArithmetic label =>
    exact s.after_eq index _ _ fun id => Answer.violation?_verdict _
  | checkAlignment label => exact s.after_eq index _ _ fun id => Answer.violation?_checked _
  | deallocated label => exact s.after_eq index _ _ fun id => Answer.violation?_freed _

/-- An operation is carried out exactly if its label can be resolved, and then on the pool it was
resolved to. -/
theorem State.apply_eq_ok_iff {s s' : State} {index : Nat} {op : Operation}
    {r : Except Violation Unit} :
    s.apply index op = .ok (r, s') ↔ ∃ id, s.resolve index op = .ok id ∧
      r = resultIn (s.monitor.perform (op.command index id)).1 ∧ s' = s.perform index id op := by
  rw [apply_eq]
  rcases s.resolve index op with e | id <;> simp [Except.map, eq_comm]

/-- An operation is refused exactly if its label is. -/
theorem State.apply_eq_error_iff {s : State} {index : Nat} {op : Operation} {e : ReplayError} :
    s.apply index op = .error e ↔ s.resolve index op = .error e := by
  rw [apply_eq]
  rcases s.resolve index op with e | id <;> simp [Except.map]

/-! ### Runs -/

section

variable (clock : Nat → String) (s : State) (index : Nat) (ops : List Operation)

/-- A replay reaches monitors that a program could reach with the same operations. -/
theorem run_reachable {s' : State} (hfinal : (run clock s index ops).final = .ok s')
    {settings : Settings} {sink : Sink} (hs : Reachable settings sink s.monitor) :
    Reachable settings sink s'.monitor := by
  have hstep : ∀ {s s' : State} {index op r}, s.apply index op = .ok (r, s') →
      Reachable settings sink s.monitor → Reachable settings sink s'.monitor := by
    intro s s' index op r happly hs
    obtain ⟨id, -, -, rfl⟩ := State.apply_eq_ok_iff.mp happly
    exact hs.perform _
  revert s'
  refine run_induction clock (motive := fun s _ _ c => Reachable settings sink s.monitor →
    ∀ {s' : State}, c.final = .ok s' → Reachable settings sink s'.monitor)
    ?done ?failed ?ended ?going s index ops hs
  case done =>
    intro s index hs s' hfinal
    cases hfinal
    exact hs
  case failed =>
    intro s index op rest e _ _ s' hfinal
    cases hfinal
  case ended =>
    intro s index op rest v s₁ happly _ hs s' hfinal
    cases hfinal
    exact hstep happly hs
  case going =>
    intro s index op rest r s₁ c happly _ ih hs s' hfinal
    exact ih (hstep happly hs) hfinal

/-- A run that fails has not been ended. -/
theorem terminatedAt_of_failed {e : ReplayError} (h : (run clock s index ops).final = .error e) :
    (run clock s index ops).terminatedAt = none := by
  revert e
  refine run_induction clock (motive := fun _ _ _ c => ∀ {e : ReplayError}, c.final = .error e →
    c.terminatedAt = none) ?done ?failed ?ended ?going s index ops
  case done => exact fun s index e h => rfl
  case failed => exact fun s index op rest e _ _ _ => rfl
  case ended =>
    intro s index op rest v s' _ _ e h
    cases h
  case going => exact fun s index op rest r s' c _ _ ih e h => ih h

end

/-- The state that a run can go on from, unless it has failed or has been ended. -/
def Course.next? (c : Course) : Option State :=
  match c.final, c.terminatedAt with
  | .ok s, none => some s
  | _, _ => none

/-- The course of a run that another one follows from where the first one can go on. -/
def Course.followedBy (c : Course) (run : State → Course) : Course :=
  match c.next? with
  | none => c
  | some s =>
    { run s with
      entries := c.entries ++ (run s).entries
      violations := c.violations ++ (run s).violations }

/-- A course goes on from a state exactly if it came there without an error or an end. -/
theorem Course.next?_eq_some_iff {c : Course} {s : State} :
    c.next? = some s ↔ c.final = .ok s ∧ c.terminatedAt = none := by
  unfold next?
  rcases c.final with e | s' <;> rcases c.terminatedAt with _ | i <;> simp

/-- A run of one operation goes on from the state after it. -/
theorem next?_run_singleton {clock : Nat → String} {s s' : State} {index : Nat} {op : Operation}
    (h : (run clock s index [op]).next? = some s') :
    ∃ id, s.resolve index op = .ok id ∧ s' = s.perform index id op := by
  rw [run] at h
  rcases happly : s.apply index op with e | ⟨r, s₁⟩
  · rw [happly] at h
    cases h
  · obtain ⟨id, hresolve, -, rfl⟩ := State.apply_eq_ok_iff.mp happly
    rw [happly] at h
    simp only at h
    split at h
    · cases h
    · cases h
      exact ⟨id, hresolve, rfl⟩

/-- Two courses go on one after the other. -/
theorem Course.next?_followedBy (c : Course) (run : State → Course) :
    (c.followedBy run).next? = c.next?.bind fun s => (run s).next? := by
  unfold followedBy
  rcases hnext : c.next? with _ | s
  · exact hnext
  · rfl

/-- A run of operations one after another is a run of the first ones that the others follow. -/
theorem run_append (clock : Nat → String) (s : State) (index : Nat) (ops ops' : List Operation) :
    run clock s index (ops ++ ops') =
      (run clock s index ops).followedBy fun s => run clock s (index + ops.length) ops' := by
  induction ops generalizing s index with
  | nil => rfl
  | cons op rest ih =>
    have hindex : index + 1 + rest.length = index + (op :: rest).length := by
      rw [List.length_cons]
      omega
    rw [List.cons_append, run, run]
    rcases s.apply index op with e | ⟨r, s'⟩
    · rfl
    · simp only
      split
      · rfl
      · -- the rest of the first operations may fail, be ended or be all performed
        rw [ih, hindex]
        rcases run clock s' (index + 1) rest with ⟨entries, violations, executed, _ | i, e | final⟩
        · rfl
        · simp only [Course.followedBy, Course.next?, List.cons_append, List.append_assoc]
        · rfl
        · rfl

end Replay

end MemorySentry.Trace
