import MemorySentry.Proofs.AlertLog.Budget
import MemorySentry.Proofs.Json.Records
import MemorySentry.Trace.Replay

/-!
# Runs of replays

An operation of a replay tells its monitor of the violation in its result and of nothing else
(`State.apply_told`). A run is followed through its operations once (`run_induction`), and three
things are read off: the entries and the violations of a run tell of the same results (`run_tells`),
the monitor has been told of the violations of the run (`run_told`), and the run ends with the fault
that uses up the budget (`run_keepsBudget`).
-/

namespace MemorySentry.Trace

open Monitor (Told HasTold violationIn)

namespace Replay

/-! ### One operation -/

/-- An outcome keeps the violation of its result. -/
theorem violationIn_outcomeOf {α : Type} (r : Except Violation α) :
    violationIn (outcomeOf r) = violationIn r := by
  cases r <;> rfl

/-- A replay continued with what an operation of its monitor led to. -/
theorem State.after_told {α : Type} {s s' : State} {op : Except Violation α × Monitor}
    {r : Except Violation Unit} (hop : op.2.told = s.monitor.told.after (violationIn op.1))
    (h : s.after op = (r, s')) : s'.monitor.told = s.monitor.told.after (violationIn r) := by
  cases h
  rw [violationIn_outcomeOf]
  exact hop

/-- An operation has told of the violation in its result, and of nothing else. -/
theorem State.apply_told {s s' : State} {index : Nat} {op : Operation} {r : Except Violation Unit}
    (h : s.apply index op = .ok (r, s')) :
    s'.monitor.told = s.monitor.told.after (violationIn r) := by
  cases op with
  | createPool label =>
    simp only [State.apply] at h
    split at h
    · cases h
    · cases h
      rfl
  | destroyPool label =>
    obtain ⟨id, -, h⟩ := bind_eq_ok_iff.mp h
    cases h
    exact s.monitor.perform_told (c := .destroyPool id) fun v hv => by cases hv
  | register label a size kind =>
    obtain ⟨id, -, h⟩ := bind_eq_ok_iff.mp h
    cases h
    exact s.monitor.told_register id a size kind _
  | registerExternal a size =>
    cases h
    exact s.monitor.told_registerExternal a size _
  | free label a =>
    obtain ⟨id, -, h⟩ := bind_eq_ok_iff.mp h
    exact State.after_told (s.monitor.told_free id a _) (Except.ok.inj h)
  | endScope label a =>
    obtain ⟨id, -, h⟩ := bind_eq_ok_iff.mp h
    cases h
    exact s.monitor.told_endScope id a
  | move label new old size =>
    obtain ⟨id, -, h⟩ := bind_eq_ok_iff.mp h
    exact State.after_told (s.monitor.told_move id new old size .heap _) (Except.ok.inj h)
  | checkAccess label a length complete write =>
    obtain ⟨id, -, h⟩ := bind_eq_ok_iff.mp h
    exact State.after_told (s.monitor.told_checkAccess id a length _ _) (Except.ok.inj h)
  | checkAlignment label a elementSize =>
    obtain ⟨id, -, h⟩ := bind_eq_ok_iff.mp h
    exact State.after_told (s.monitor.told_checkAlignment id a elementSize _) (Except.ok.inj h)
  | checkArithmetic label source dest complete =>
    obtain ⟨id, -, h⟩ := bind_eq_ok_iff.mp h
    exact State.after_told (s.monitor.told_checkArithmetic id source dest _ _) (Except.ok.inj h)
  | checkDerived base pointer size =>
    exact State.after_told (s.monitor.countCheck.told_reported _ _) (Except.ok.inj h)
  | checkDerivedAccess base pointer size length =>
    exact State.after_told (s.monitor.countCheck.told_reported _ _) (Except.ok.inj h)
  | allocated label callee args returned stringLength =>
    obtain ⟨id, -, h⟩ := bind_eq_ok_iff.mp h
    exact State.after_told (s.monitor.told_allocated id _ _ _) (Except.ok.inj h)
  | deallocated label callee args =>
    obtain ⟨id, -, h⟩ := bind_eq_ok_iff.mp h
    exact State.after_told (s.monitor.told_deallocated id _ _) (Except.ok.inj h)

/-! ### Runs -/

/-- The violation in a result, with the index of the operation. -/
def foundIn (index : Nat) (r : Except Violation Unit) : List FoundViolation :=
  (violationIn r).toList.map fun v => ⟨index, v⟩

/-- What was found in a result is its violation, if it has one. -/
theorem map_violation_foundIn (index : Nat) (r : Except Violation Unit) :
    (foundIn index r).map FoundViolation.violation = (violationIn r).toList := by
  cases r <;> rfl

/-- A violation is found at the operation whose result it is. -/
theorem mem_foundIn_iff {index j : Nat} {r : Except Violation Unit} {v : Violation} :
    ⟨j, v⟩ ∈ foundIn index r ↔ j = index ∧ r = .error v := by
  cases r with
  | ok a => simp [foundIn, violationIn]
  | error w => simp [foundIn, violationIn, eq_comm]

/-- What was found at an operation has its index. -/
theorem index_of_mem_foundIn {index : Nat} {r : Except Violation Unit} {f : FoundViolation}
    (hf : f ∈ foundIn index r) : f.index = index := by
  obtain ⟨v, -, rfl⟩ := List.mem_map.mp hf
  rfl

/-- What was found at one operation is in order, as it is one violation at most. -/
theorem pairwise_foundIn (index : Nat) (r : Except Violation Unit) :
    (foundIn index r).Pairwise fun f f' => f.index < f'.index := by
  cases r with
  | ok a => exact List.Pairwise.nil
  | error v => exact List.pairwise_singleton _ _

/-- Nothing ends a run that has not been ended. -/
theorem outcome_false_ne (r : Except Violation Unit) : outcome false r ≠ .terminated := by
  unfold outcome
  split
  · exact RunLog.Outcome.noConfusion
  · rw [if_neg Bool.false_ne_true]
    split <;> exact RunLog.Outcome.noConfusion

section

variable (clock : Nat → String)

/-- What holds of every run: it is done, or its first operation fails, or that operation ends the
run, or the run goes on after it. -/
theorem run_induction {motive : State → Nat → List Operation → Course → Prop}
    (done : ∀ s index, motive s index [] { executed := index, final := .ok s })
    (failed : ∀ s index op rest e, s.apply index op = .error e →
      motive s index (op :: rest) { executed := index, final := .error e })
    (ended : ∀ s index op rest v s', s.apply index op = .ok (.error v, s') →
      s'.monitor.alerts.terminated = true →
      motive s index (op :: rest)
        { entries := [entryOf (clock index) index op true (.error v)]
          violations := [⟨index, v⟩]
          executed := index + 1
          terminatedAt := some index
          final := .ok s' })
    (going : ∀ s index op rest r s' c, s.apply index op = .ok (r, s') →
      (violationIn r ≠ none → s'.monitor.alerts.terminated = false) →
      motive s' (index + 1) rest c →
      motive s index (op :: rest)
        { c with
          entries := entryOf (clock index) index op false r :: c.entries
          violations := foundIn index r ++ c.violations })
    (s : State) (index : Nat) (ops : List Operation) :
    motive s index ops (run clock s index ops) := by
  induction ops generalizing s index with
  | nil => exact done s index
  | cons op rest ih =>
    rw [run]
    -- an operation without a violation never ends the run
    rcases happly : s.apply index op with e | ⟨r, s'⟩
    · exact failed s index op rest e happly
    · rcases r with v | ⟨⟩
      · cases hended : s'.monitor.alerts.terminated with
        | true =>
          have hends : outcome true (.error v) = .terminated := rfl
          simp only [hended, if_pos hends]
          exact ended s index op rest v s' happly hended
        | false =>
          simp only [hended, if_neg (outcome_false_ne (.error v))]
          exact going s index op rest _ s' _ happly (fun _ => hended) (ih s' (index + 1))
      · exact going s index op rest _ s' _ happly (fun h => absurd rfl h) (ih s' (index + 1))

/-- What the log and the violations of a run tell of its operations, the first of which has the
given index. -/
structure Course.Tells (c : Course) (clock : Nat → String) (index : Nat) (ops : List Operation) :
    Prop where
  /-- There is an entry for each operation that was performed. -/
  executed : c.executed = index + c.entries.length
  /-- No two violations were found in the same operation. -/
  increasing : c.violations.Pairwise fun f f' => f.index < f'.index
  bounds : ∀ f ∈ c.violations, index ≤ f.index ∧ f.index < c.executed
  terminatedAt_ge : ∀ i, c.terminatedAt = some i → index ≤ i
  /-- An entry tells of the result of its operation, and the violation in the result, if there is
  one, is among the violations of the run. -/
  entry : ∀ i e, c.entries[i]? = some e → ∃ op r, ops[i]? = some op ∧
    e = entryOf (clock (index + i)) (index + i) op (decide (c.terminatedAt = some (index + i))) r ∧
    ∀ v, ⟨index + i, v⟩ ∈ c.violations ↔ r = .error v

section

variable (s : State) (index : Nat) (ops : List Operation)

/-- A run tells of each of its operations in turn. -/
theorem run_tells : (run clock s index ops).Tells clock index ops := by
  refine run_induction clock (motive := fun _ index ops c => c.Tells clock index ops)
    ?done ?failed ?ended ?going s index ops
  case done =>
    exact fun s index => ⟨rfl, List.Pairwise.nil, fun f hf => (by cases hf),
      fun i hi => (by cases hi), fun i e he => (by cases he)⟩
  case failed =>
    exact fun s index op rest e _ => ⟨rfl, List.Pairwise.nil, fun f hf => (by cases hf),
      fun i hi => (by cases hi), fun i e he => (by cases he)⟩
  case ended =>
    intro s index op rest v s' _ _
    refine ⟨rfl, List.pairwise_singleton _ _, fun f hf => ?_, fun i hi => ?_, fun i e he => ?_⟩
    · cases List.mem_singleton.mp hf
      exact ⟨le_rfl, Nat.lt_succ_self index⟩
    · cases hi
      exact le_rfl
    · cases i with
      | zero =>
        cases he
        exact ⟨op, .error v, rfl, by simp, fun v' => by simp [eq_comm]⟩
      | succ i => cases he
  case going =>
    intro s index op rest r s' c _ _ ih
    refine ⟨?_, ?_, fun f hf => ?_, fun i hi => Nat.le_of_succ_le (ih.terminatedAt_ge i hi),
      fun i e he => ?_⟩
    · have hexecuted := ih.executed
      simp only [List.length_cons]
      omega
    · -- what the first operation leads to comes before all that is found later
      refine List.pairwise_append.mpr ⟨pairwise_foundIn index r, ih.increasing,
        fun f hf f' hf' => ?_⟩
      rw [index_of_mem_foundIn hf]
      exact (ih.bounds f' hf').1
    · rcases List.mem_append.mp hf with hfirst | hlater
      · have hexecuted := ih.executed
        rw [index_of_mem_foundIn hfirst]
        exact ⟨le_rfl, by simp only; omega⟩
      · exact (ih.bounds f hlater).imp_left Nat.le_of_succ_le
    · have hfound : ∀ j v, ⟨j, v⟩ ∈ foundIn index r ++ c.violations ↔
          j = index ∧ r = .error v ∨ ⟨j, v⟩ ∈ c.violations := fun j v => by
        rw [List.mem_append, mem_foundIn_iff]
      cases i with
      | zero =>
        cases he
        -- what comes later tells of later operations
        have hnot : c.terminatedAt ≠ some index := fun h =>
          Nat.not_succ_le_self index (ih.terminatedAt_ge index h)
        refine ⟨op, r, rfl, by simp [hnot], fun v => (hfound index v).trans ?_⟩
        rw [or_iff_left fun h => Nat.not_succ_le_self index (ih.bounds _ h).1]
        simp
      | succ i =>
        obtain ⟨op', r', hop, hentry, hmem⟩ := ih.entry i e he
        have hindex : index + 1 + i = index + (i + 1) := by omega
        rw [hindex] at hentry hmem
        refine ⟨op', r', hop, hentry, fun v => (hfound _ v).trans (Iff.trans ?_ (hmem v))⟩
        rw [or_iff_right]
        rintro ⟨h, -⟩
        omega

/-- A run tells of its violations and of nothing else. -/
theorem run_told {s' : State} (hfinal : (run clock s index ops).final = .ok s') {sink : Sink}
    {format : AlertFormat} {vs : List Violation} (htold : HasTold sink format vs s.monitor.told) :
    HasTold sink format (vs ++ (run clock s index ops).violations.map FoundViolation.violation)
      s'.monitor.told := by
  revert s' vs
  refine run_induction clock (motive := fun s index ops c => ∀ {s' : State}, c.final = .ok s' →
    ∀ {vs : List Violation}, HasTold sink format vs s.monitor.told →
      HasTold sink format (vs ++ c.violations.map FoundViolation.violation) s'.monitor.told)
    ?done ?failed ?ended ?going s index ops
  case done =>
    intro s index s' hfinal vs htold
    cases hfinal
    simpa using htold
  case failed =>
    intro s index op rest e _ s' hfinal
    cases hfinal
  case ended =>
    intro s index op rest v s₁ happly _ s' hfinal vs htold
    cases hfinal
    rw [State.apply_told happly]
    exact htold.after (some v)
  case going =>
    intro s index op rest r s₁ c happly _ ih s' hfinal vs htold
    have hrest := ih hfinal (State.apply_told happly ▸ htold.after (violationIn r))
    rw [List.append_assoc] at hrest
    rw [List.map_append, map_violation_foundIn]
    exact hrest

/-- How a run ends that comes to an end. -/
structure Course.KeepsBudget (c : Course) (index : Nat) (ops : List Operation) (s' : State)
    (stop : Bool) (total : Nat) : Prop where
  budgeted : s'.monitor.alerts.Budgeted stop total
  /-- If nothing ends it early, it performs all operations. -/
  complete : c.terminatedAt = none →
    s'.monitor.alerts.terminated = false ∧ c.executed = index + ops.length
  /-- If it ends early, it does so with the fault that uses up what is allowed. -/
  ended : ∀ i, c.terminatedAt = some i →
    s'.monitor.alerts.terminated = true ∧ c.executed = i + 1 ∧
      s'.monitor.alerts.faults = AlertLog.lastFault stop total ∧
      ∃ v, c.violations.getLast? = some ⟨i, v⟩ ∧ v.isWarning = false

/-- A run ends where its budget says, and goes on until then. -/
theorem run_keepsBudget {s' : State} (hfinal : (run clock s index ops).final = .ok s') {stop : Bool}
    {total : Nat} (hbudget : s.monitor.alerts.Budgeted stop total)
    (hgoing : s.monitor.alerts.terminated = false) :
    Course.KeepsBudget (run clock s index ops) index ops s' stop total := by
  revert s'
  refine run_induction clock (motive := fun s index ops c => s.monitor.alerts.Budgeted stop total →
    s.monitor.alerts.terminated = false → ∀ {s' : State}, c.final = .ok s' →
      Course.KeepsBudget c index ops s' stop total)
    ?done ?failed ?ended ?going s index ops hbudget hgoing
  case done =>
    intro s index hbudget hgoing s' hfinal
    cases hfinal
    exact ⟨hbudget, fun _ => ⟨hgoing, rfl⟩, fun i h => by cases h⟩
  case failed =>
    intro s index op rest e _ _ _ s' hfinal
    cases hfinal
  case ended =>
    intro s index op rest v s₁ happly hended hbudget hgoing s' hfinal
    cases hfinal
    have halerts : s₁.monitor.alerts = (s.monitor.alerts.report v).2 :=
      congrArg Told.alerts (State.apply_told happly)
    rw [halerts] at hended
    obtain ⟨hfault, hfaults⟩ := hbudget.report_ended hgoing hended
    refine ⟨halerts ▸ hbudget.report v, fun h => (by cases h), fun i h => ?_⟩
    cases h
    exact ⟨halerts ▸ hended, rfl, halerts ▸ hfaults, v, rfl, hfault⟩
  case going =>
    intro s index op rest r s₁ c happly hgoes ih hbudget hgoing s' hfinal
    have htold := State.apply_told happly
    -- the run looks at the log only after a violation, but nothing else could have ended it
    have hstep : s₁.monitor.alerts.Budgeted stop total ∧ s₁.monitor.alerts.terminated = false := by
      cases r with
      | ok a =>
        have halerts : s₁.monitor.alerts = s.monitor.alerts := congrArg Told.alerts htold
        exact halerts ▸ ⟨hbudget, hgoing⟩
      | error v =>
        have halerts : s₁.monitor.alerts = (s.monitor.alerts.report v).2 :=
          congrArg Told.alerts htold
        exact ⟨halerts ▸ hbudget.report v, hgoes (Option.some_ne_none v)⟩
    obtain ⟨hbudgeted, hcomplete, hended⟩ := ih hstep.1 hstep.2 hfinal
    refine ⟨hbudgeted, fun hnone => ?_, fun i hi => ?_⟩
    · obtain ⟨hnot, hexecuted⟩ := hcomplete hnone
      rw [hexecuted, List.length_cons]
      exact ⟨hnot, by omega⟩
    · obtain ⟨hended, hexecuted, hfaults, v, hlast, hfault⟩ := hended i hi
      exact ⟨hended, hexecuted, hfaults, v, List.mem_getLast?_append_of_mem_getLast? hlast, hfault⟩

end

end

end Replay

/-! ### Replays -/

section

variable (t : Trace) (runId : String) (clock : Nat → String)

/-- The run of a trace. -/
def course : Replay.Course :=
  Replay.run (fun index => clock (index + 1)) (.start t.options) 0 t.operations

/-- The entries of a trace up to the end of its run, before they are numbered. -/
def entriesOf : List RunLog.Entry :=
  Replay.startEntry (clock 0) t :: (t.course clock).entries

/-- A replay fails with its run, or it succeeds and writes one more entry. -/
theorem replay_cases :
    (∃ e, (t.course clock).final = .error e ∧
      t.replay runId clock = (Replay.emitAll { runId } (t.entriesOf clock), .error e)) ∨
    ∃ final, (t.course clock).final = .ok final ∧
      t.replay runId clock =
        (Replay.emitAll { runId } (t.entriesOf clock ++
          [Replay.endEntry (clock ((t.course clock).executed + 1))
            ((t.course clock).summary t final)]),
          .ok ((t.course clock).summary t final)) := by
  rcases hfinal : (t.course clock).final with e | final
  · refine .inl ⟨e, rfl, ?_⟩
    rw [course] at hfinal
    simp only [replay, hfinal]
    rfl
  · refine .inr ⟨final, rfl, ?_⟩
    rw [course] at hfinal
    simp only [replay, hfinal]
    rfl

/-- The course of a trace tells of its operations from the first on. -/
theorem tells_course : (t.course clock).Tells (fun index => clock (index + 1)) 0 t.operations :=
  Replay.run_tells _ _ 0 t.operations

end

end MemorySentry.Trace
