import MemorySentry.Proofs.Trace.Replay
import MemorySentry.Trace.Summary

/-!
# Summaries of replays

The counts of a summary come from the log of alerts and from the counters of the monitor, its
violations from the results of the operations, and its end from the log again. They fit together in
every replay that succeeds (`replay_consistent`).
-/

namespace MemorySentry.Trace

open Monitor (HasTold)
open Replay (State run_told run_keepsBudget)

/-- The symbol that is written with a violation is the kind in its record. -/
def FoundViolation.SymbolOfRecord (f : FoundViolation) : Prop :=
  ∃ fields record, f.toJson = .object fields ∧
    Json.get? "symbol" fields = some (.string f.violation.kind.symbol) ∧
    Json.get? "record" fields = some (.object record) ∧
    Json.get? "kind" record = some (.string f.violation.kind.symbol)

/-- What a summary says fits together. A fault ends the replay if it is the first one and `stop`
says so, or if it is number `budget`. -/
structure Summary.Consistent (s : Summary) (t : Trace) (stop : Bool) (budget : Nat) : Prop where
  total : s.total = t.operations.length
  counted : s.warnings + s.faults = s.violations.length
  warnings : s.warnings =
    s.violations.countP fun f => f.violation.kind.symbol = "WARN_LOAD_STORE"
  counters : s.counters.warnings = s.warnings ∧ s.counters.faults = s.faults
  /-- The violations stand in the order of the operations, and no two are from the same one. -/
  increasing : s.violations.Pairwise fun f f' => f.index < f'.index
  performed : ∀ f ∈ s.violations, f.index < s.executed
  symbol : ∀ f ∈ s.violations, f.SymbolOfRecord
  terminated_iff : s.terminatedAt.isSome = true ↔ stop = true ∧ 1 ≤ s.faults ∨ budget ≤ s.faults
  /-- A replay that is ended has no faults but those that were allowed, and ends with the last
  one. -/
  ended : ∀ i, s.terminatedAt = some i →
    s.executed = i + 1 ∧ s.faults = (if stop then 1 else budget) ∧
      ∃ v, s.violations.getLast? = some ⟨i, v⟩ ∧ v.isWarning = false
  complete : s.terminatedAt = none → s.executed = s.total

/-- The symbol that is written with a violation is always the kind in its record. -/
theorem symbolOfRecord (f : FoundViolation) : f.SymbolOfRecord :=
  ⟨_, _, rfl, rfl, rfl, rfl⟩

/-- A violation is a warning exactly if its symbol says so. -/
theorem FoundViolation.isWarning_iff (f : FoundViolation) :
    f.violation.isWarning = true ↔ f.violation.kind.symbol = "WARN_LOAD_STORE" := by
  unfold Violation.isWarning
  cases f.violation.kind <;> decide

/-- The summary of a run whose log has been told of its violations, of nothing else, and that kept
to its budget. -/
theorem Replay.Course.summary_consistent {c : Course} {t : Trace} {clock : Nat → String}
    {final : State} {format : AlertFormat} {stop : Bool} {budget : Nat}
    (htells : c.Tells clock 0 t.operations)
    (htold : HasTold .refusing format (c.violations.map FoundViolation.violation)
      final.monitor.told)
    (hbudget : c.KeepsBudget 0 t.operations final stop budget) :
    (c.summary t final).Consistent t stop budget := by
  have hwarnings : final.monitor.alerts.warnings =
      c.violations.countP fun f => f.violation.isWarning :=
    (htold.loggedWarnings.trans htold.warnings).trans List.countP_map
  have hfaults : final.monitor.alerts.faults =
      c.violations.countP fun f => !f.violation.isWarning :=
    (htold.loggedFaults.trans htold.faults).trans List.countP_map
  -- the log says that it has ended the process just when the run says where
  have hended : c.terminatedAt.isSome = true ↔ final.monitor.alerts.terminated = true := by
    rcases hat : c.terminatedAt with _ | i
    · rw [(hbudget.complete hat).1]
      rfl
    · exact iff_of_true rfl (hbudget.ended i hat).1
  refine
    { total := rfl
      counted := ?_
      warnings := hwarnings.trans (List.countP_congr fun f _ => ?_)
      counters := ⟨htold.loggedWarnings.symm, htold.loggedFaults.symm⟩
      increasing := htells.increasing
      performed := fun f hf => (htells.bounds f hf).2
      symbol := fun f _ => symbolOfRecord f
      terminated_iff := hended.trans hbudget.budgeted.terminated_iff
      ended := fun i hi => ?_
      complete := fun hnone => (hbudget.complete hnone).2.trans (Nat.zero_add _) }
  · have hlength := List.length_eq_countP_add_countP (fun f => f.violation.isWarning)
      (l := c.violations)
    simp only [Bool.not_eq_true, Bool.decide_eq_false] at hlength
    exact (congrArg₂ (· + ·) hwarnings hfaults).trans hlength.symm
  · simpa using f.isWarning_iff
  · obtain ⟨-, hexecuted, hcount, hlast⟩ := hbudget.ended i hi
    exact ⟨hexecuted, hcount, hlast⟩

/-- The summary of a course agrees with the course and its trace. -/
theorem consistent_summary_course {t : Trace} {clock : Nat → String} {final : State}
    (hfinal : (t.course clock).final = .ok final) :
    ((t.course clock).summary t final).Consistent t t.options.stopOnError
      (max 1 (t.options.errorBudget.getD 20)) := by
  have htold := run_told _ _ _ _ hfinal (HasTold.start t.options.settings .refusing _)
  have hbudget := run_keepsBudget _ _ _ _ hfinal
    (AlertLog.budgeted_start .refusing _ t.options.settings.errorBudget _) rfl
  rw [max_comm] at hbudget
  exact Replay.Course.summary_consistent (t.tells_course clock) htold hbudget

/-- The summary of every replay that succeeds is consistent, with the budget of the trace or that of
twenty faults, where a budget of zero counts as one. -/
theorem replay_consistent (t : Trace) (runId : String) (clock : Nat → String) {s : Summary}
    (h : (t.replay runId clock).2 = .ok s) :
    s.Consistent t t.options.stopOnError (max 1 (t.options.errorBudget.getD 20)) := by
  rcases t.replay_cases runId clock with ⟨e, -, hreplay⟩ | ⟨final, hfinal, hreplay⟩
  · rw [hreplay] at h
    cases h
  · rw [hreplay] at h
    cases h
    exact consistent_summary_course hfinal

/-- A program that reads past the end of an object, writes past it and reads past it again, and may
do two such things. -/
def overrun : Trace where
  name := "overrun"
  options := { errorBudget := some 2 }
  operations := [.createPool "a", .register "a" 0x1000 16 .heap,
    .checkAccess "a" 0x1000 32 true false, .checkAccess "a" 0x1000 32 true true,
    .checkAccess "a" 0x1000 32 true false]

/-- A trace with two faults and a budget of two ends at the second one. -/
theorem replay_consistent_overrun :
    ∃ s, (overrun.replay "run" fun _ => "").2 = .ok s ∧
      s.terminatedAt = some 3 ∧ s.executed = 4 ∧ s.faults = 2 ∧ s.Consistent overrun false 2 :=
  ⟨_, rfl, rfl, rfl, rfl, replay_consistent overrun "run" (fun _ => "") rfl⟩

end MemorySentry.Trace
