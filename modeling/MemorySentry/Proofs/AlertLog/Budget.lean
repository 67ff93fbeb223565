import MemorySentry.Proofs.Monitor.Alerts

/-!
# The budget of an alert log

Between reports the counts of a log tell all about its budget (`Budgeted`): how much of it is left,
and whether a fault has ended the process. The first report after which the process has been ended
is that of a fault, and it comes when the number of faults is exactly the number that was allowed
(`Budgeted.report_ended`).
-/

namespace MemorySentry.AlertLog

/-- A log that ends the process with its first fault if `stop` says so, and with the fault that
makes them `total` at the latest. -/
structure Budgeted (log : AlertLog) (stop : Bool) (total : Nat) : Prop where
  stopOnError : log.stopOnError = stop
  remaining : log.remaining = total - log.faults
  terminated_iff : log.terminated = true ↔ stop = true ∧ 1 ≤ log.faults ∨ total ≤ log.faults

/-- The number of the fault that ends the process. -/
def lastFault (stop : Bool) (total : Nat) : Nat :=
  if stop then 1 else total

/-- A new log has its whole budget, which is one at least. -/
theorem budgeted_start (sink : Sink) (stop : Bool) (budget : Nat) (format : AlertFormat) :
    (start sink stop budget format).Budgeted stop (max budget 1) :=
  ⟨rfl, rfl, by simp [start]⟩

namespace Budgeted

variable {log : AlertLog} {stop : Bool} {total : Nat}

/-- A warning costs nothing, and a fault makes one of what is left its own. -/
theorem report (h : log.Budgeted stop total) (v : Violation) :
    (log.report v).2.Budgeted stop total := by
  obtain ⟨hstop, hremaining, hterminated⟩ := h
  cases hv : v.isWarning with
  | true =>
    rw [report_of_warning log hv]
    exact ⟨hstop, hremaining, hterminated⟩
  | false =>
    have hleft : log.remaining - 1 = total - (log.faults + 1) := by omega
    rw [report_of_fault log hv]
    simp only
    split
    · next hends =>
      -- the first fault of a log that stops, or the last one of the budget
      refine ⟨hstop, hleft, iff_of_true rfl ?_⟩
      rcases hends with hstops | hlast
      · exact .inl ⟨hstop ▸ hstops, Nat.le_add_left 1 _⟩
      · exact .inr (show total ≤ log.faults + 1 by omega)
    · next hgoes =>
      obtain ⟨hgoesOn, hmore⟩ := not_or.mp hgoes
      -- one more fault is still within the budget
      refine ⟨hstop, hleft, hterminated.trans ?_⟩
      rw [hstop] at hgoesOn
      refine iff_of_false ?_ ?_
      · rintro (⟨hstops, -⟩ | hover)
        · exact hgoesOn hstops
        · omega
      · rintro (⟨hstops, -⟩ | hover)
        · exact hgoesOn hstops
        · have hover' : total ≤ log.faults + 1 := hover
          omega

/-- The report that ends the process is that of a fault, and then there were as many faults as were
allowed. -/
theorem report_ended (h : log.Budgeted stop total) (hgoing : log.terminated = false) {v : Violation}
    (hended : (log.report v).2.terminated = true) :
    v.isWarning = false ∧ (log.report v).2.faults = lastFault stop total := by
  have hnot : ¬(stop = true ∧ 1 ≤ log.faults ∨ total ≤ log.faults) :=
    fun hover => by rw [h.terminated_iff.mpr hover] at hgoing; cases hgoing
  -- the budget was not used up before the report and is used up after it
  have hover := (h.report v).terminated_iff.mp hended
  have hfaults := (log.report_counts v).2
  cases hv : v.isWarning with
  | true =>
    rw [hv, if_pos rfl] at hfaults
    rw [hfaults] at hover
    exact absurd hover hnot
  | false =>
    rw [hv, if_neg Bool.false_ne_true] at hfaults
    rw [hfaults] at hover ⊢
    refine ⟨rfl, ?_⟩
    unfold lastFault
    cases stop with
    | true =>
      have hnone : ¬1 ≤ log.faults := fun h => hnot (.inl ⟨rfl, h⟩)
      simp only [if_true]
      omega
    | false =>
      simp only [Bool.false_eq_true, false_and, false_or] at hnot hover
      simp only [Bool.false_eq_true, if_false]
      omega

end Budgeted

end MemorySentry.AlertLog
