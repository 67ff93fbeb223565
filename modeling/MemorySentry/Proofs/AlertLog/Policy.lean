import MemorySentry.AlertLog.Command

/-!
# The policy of alert logs

A log is told of warnings and of faults, and in between its alerts are sent elsewhere. What it does
with a violation depends only on how many faults there were before, and where it writes it only on
the last operation that sent alerts elsewhere (`performAll_policy`).

- `performAll_remaining`: every fault uses up one unit of the budget, and nothing else does;
- `report_of_warning`, `report_of_fault`: what a report does, by what is left of the budget;
- `performAll_terminated_iff`: the process was ended by a fault or not at all;
- `performAll_entries`: every violation is written to the sink of the time.
-/

namespace MemorySentry

/-- In plain text a violation is written as its alert. -/
theorem AlertFormat.render_text : AlertFormat.text.render = Violation.alert := rfl

/-- Among JSON lines a violation is written as the line of its record. -/
theorem AlertFormat.render_jsonl :
    AlertFormat.jsonl.render = fun v => v.toJson.render ++ "\n" := rfl

namespace AlertLog

/-- The violation that an operation reports. -/
def Command.reported? : Command → Option Violation
  | .report v => some v
  | _ => none

/-- The sink to which alerts go after an operation, if they went to `sink` before. -/
def Command.sinkAfter (sink : Sink) : Command → Sink
  | .redirect s => s
  | .redirectToFile path (.ok ()) => .file path
  | _ => sink

/-- The number of faults that a run reports. -/
def faultsIn (cs : List Command) : Nat :=
  (cs.filterMap Command.reported?).countP fun v => !v.isWarning

/-- The violations that a run reports, each with the sink to which alerts go at the time. -/
def addressed (sink : Sink) : List Command → List (Sink × Violation)
  | [] => []
  | c :: rest => (c.reported?.map fun v => (sink, v)).toList ++ addressed (c.sinkAfter sink) rest

/-- The violations that a run reports while alerts go to a sink, which keeps none if it refuses
all. -/
def receivedBy (t sink : Sink) : List Command → List Violation
  | [] => []
  | c :: rest =>
    (if sink = t ∧ t ≠ .refusing then c.reported?.toList else []) ++
      receivedBy t (c.sinkAfter sink) rest

/-- A fault was answered by the end of the process. -/
def EndedBy (cs : List Command) (answers : List Answer) : Prop :=
  ∃ v, v.isWarning = false ∧ (Command.report v, Answer.decision .terminate) ∈ cs.zip answers

/-- How a log keeps to the policy that has been told of `faults` faults, of which `total` use up its
budget. -/
structure KeepsPolicy (log : AlertLog) (stop : Bool) (total faults : Nat) : Prop where
  /-- Every fault has used up one unit of the budget. -/
  remaining : log.remaining = total - faults
  /-- The program goes on after a warning, whatever is left. -/
  warning : ∀ v, v.isWarning = true →
    (log.report v).1 = .proceed ∧ (log.report v).2.remaining = log.remaining ∧
      (log.report v).2.terminated = log.terminated ∧
      (log.report v).2.terminations = log.terminations
  /-- The process is asked to end, once, at a fault that exhausts the budget or at any if the log
  stops at every fault. -/
  fatal : ∀ v, v.isWarning = false → (stop = true ∨ total ≤ faults + 1) →
    (log.report v).1 = .terminate ∧ (log.report v).2.terminations = log.terminations + 1
  /-- The program goes on after every other fault. -/
  bearable : ∀ v, v.isWarning = false → ¬(stop = true ∨ total ≤ faults + 1) →
    (log.report v).1 = .proceed ∧ (log.report v).2.terminated = log.terminated ∧
      (log.report v).2.terminations = log.terminations
  /-- A process that has been ended stays so. -/
  ended : log.terminated = true → ∀ later, (log.performAll later).2.terminated = true

/-! ### One operation -/

section

variable (log : AlertLog)

/-- A warning is written and counted, and nothing more. -/
theorem report_of_warning {v : Violation} (hv : v.isWarning = true) :
    log.report v = (.proceed,
      { log with entries := log.entries ++ [(log.sink, v)], warnings := log.warnings + 1 }) := by
  simp [report, hv]

/-- A fault ends the process if the log stops at every fault or with the last unit of the budget. -/
theorem report_of_fault {v : Violation} (hv : v.isWarning = false) :
    log.report v =
      let told : AlertLog := { log with
        entries := log.entries ++ [(log.sink, v)]
        faults := log.faults + 1
        remaining := log.remaining - 1 }
      if log.stopOnError = true ∨ log.remaining ≤ 1 then
        (.terminate, { told with terminated := true, terminations := log.terminations + 1 })
      else (.proceed, told) := by
  simp [report, hv]

/-- A report is added at the end, with the present sink. -/
theorem report_entries (v : Violation) :
    (log.report v).2.entries = log.entries ++ [(log.sink, v)] := by
  cases hv : v.isWarning with
  | true => rw [report_of_warning log hv]
  | false =>
    rw [report_of_fault log hv]
    simp only
    split <;> rfl

/-- A fault takes one unit from the budget, a warning none. -/
theorem report_remaining (v : Violation) :
    (log.report v).2.remaining = if v.isWarning then log.remaining else log.remaining - 1 := by
  cases hv : v.isWarning with
  | true =>
    rw [report_of_warning log hv]
    rfl
  | false =>
    rw [report_of_fault log hv]
    simp only
    split <;> rfl

/-- The settings of a log and its sink are not the affair of a report. -/
theorem report_settings (v : Violation) :
    (log.report v).2.sink = log.sink ∧ (log.report v).2.format = log.format ∧
      (log.report v).2.stopOnError = log.stopOnError := by
  cases hv : v.isWarning with
  | true =>
    rw [report_of_warning log hv]
    exact ⟨rfl, rfl, rfl⟩
  | false =>
    rw [report_of_fault log hv]
    simp only
    split <;> exact ⟨rfl, rfl, rfl⟩

/-- A report has ended the process if it says so or if one before has. -/
theorem report_terminated_iff (v : Violation) :
    (log.report v).2.terminated = true ↔
      log.terminated = true ∨ v.isWarning = false ∧ (log.report v).1 = .terminate := by
  cases hv : v.isWarning with
  | true =>
    rw [report_of_warning log hv]
    simp
  | false =>
    rw [report_of_fault log hv]
    simp only
    split <;> simp

/-- An operation that reports nothing changes at most the sink. -/
theorem perform_of_not_reported {c : Command} (hc : c.reported? = none) :
    (log.perform c).2 = { log with sink := c.sinkAfter log.sink } := by
  cases c with
  | report v => cases hc
  | redirect sink => rfl
  | redirectToFile path opened => cases opened <;> rfl
  | flush => rfl

/-- Only a report adds an entry. -/
theorem perform_entries (c : Command) :
    (log.perform c).2.entries = log.entries ++ (c.reported?.map fun v => (log.sink, v)).toList := by
  cases hc : c.reported? with
  | none => simp [perform_of_not_reported log hc]
  | some v =>
    cases c with
    | report v' =>
      cases hc
      exact log.report_entries v
    | _ => cases hc

/-- An operation may change the sink, but not the format and not what ends the process. -/
theorem perform_settings (c : Command) :
    (log.perform c).2.sink = c.sinkAfter log.sink ∧ (log.perform c).2.format = log.format ∧
      (log.perform c).2.stopOnError = log.stopOnError := by
  cases hc : c.reported? with
  | none =>
    rw [perform_of_not_reported log hc]
    exact ⟨rfl, rfl, rfl⟩
  | some v =>
    cases c with
    | report v' => exact log.report_settings v'
    | _ => cases hc

/-- An operation takes from the budget as many units as it reports faults. -/
theorem perform_remaining (c : Command) :
    (log.perform c).2.remaining = log.remaining - faultsIn [c] := by
  cases c with
  | report v =>
    have hreport : (log.perform (.report v)).2 = (log.report v).2 := rfl
    rw [hreport, report_remaining]
    cases hv : v.isWarning <;> simp [faultsIn, Command.reported?, hv]
  | redirect sink => rfl
  | redirectToFile path opened => cases opened <;> rfl
  | flush => rfl

/-- A report ends the process if it is of a fault and the process is told to end. -/
theorem endedBy_report (v : Violation) (d : Decision) :
    EndedBy [.report v] [.decision d] ↔ v.isWarning = false ∧ d = .terminate := by
  constructor
  · rintro ⟨v', hv', hmem⟩
    cases List.mem_singleton.mp hmem
    exact ⟨hv', rfl⟩
  · rintro ⟨hv, rfl⟩
    exact ⟨v, hv, List.mem_singleton.mpr rfl⟩

/-- Only a fault can end the process, and then it is answered by the end. -/
theorem perform_terminated_iff (c : Command) :
    (log.perform c).2.terminated = true ↔
      log.terminated = true ∨ EndedBy [c] [(log.perform c).1] := by
  cases hc : c.reported? with
  | none =>
    rw [perform_of_not_reported log hc]
    -- nothing is reported, so no fault was answered
    have hnot : ¬ EndedBy [c] [(log.perform c).1] := by
      rintro ⟨v, -, hmem⟩
      have hv : Command.report v = c := congrArg Prod.fst (List.mem_singleton.mp hmem)
      rw [← hv] at hc
      cases hc
    exact (or_iff_left hnot).symm
  | some v =>
    cases c with
    | report v' =>
      have hreport : (log.perform (.report v')).2 = (log.report v').2 := rfl
      rw [hreport, report_terminated_iff]
      exact or_congr_right (endedBy_report v' _).symm
    | _ => cases hc

end

/-! ### Runs -/

/-- The faults of a run are those of its first operation and of the others. -/
theorem faultsIn_cons (c : Command) (cs : List Command) :
    faultsIn (c :: cs) = faultsIn [c] + faultsIn cs := by
  simp only [faultsIn, ← List.countP_append, ← List.filterMap_append, List.singleton_append]

/-- A run ends the process if its first operation does or the others do. -/
theorem endedBy_cons (c : Command) (cs : List Command) (answer : Answer) (answers : List Answer) :
    EndedBy (c :: cs) (answer :: answers) ↔ EndedBy [c] [answer] ∨ EndedBy cs answers := by
  simp only [EndedBy, List.zip_cons_cons, List.zip_nil_right, List.mem_cons, List.not_mem_nil,
    or_false, and_or_left, exists_or]

section

variable (log : AlertLog) (cs : List Command)

/-- A run takes one unit from the budget for each fault, as long as there are any. -/
theorem performAll_remaining :
    (log.performAll cs).2.remaining = log.remaining - faultsIn cs := by
  induction cs generalizing log with
  | nil => rfl
  | cons c rest ih =>
    rw [performAll]
    simp only [ih, perform_remaining]
    rw [faultsIn_cons c rest, Nat.sub_sub]

/-- The sink is the last one that was set, and the rest of the settings stays. -/
theorem performAll_settings :
    (log.performAll cs).2.sink = cs.foldl Command.sinkAfter log.sink ∧
      (log.performAll cs).2.format = log.format ∧
      (log.performAll cs).2.stopOnError = log.stopOnError := by
  induction cs generalizing log with
  | nil => exact ⟨rfl, rfl, rfl⟩
  | cons c rest ih =>
    obtain ⟨hsink, hformat, hstop⟩ := log.perform_settings c
    obtain ⟨hsink', hformat', hstop'⟩ := ih (log.perform c).2
    rw [hsink] at hsink'
    exact ⟨hsink', hformat'.trans hformat, hstop'.trans hstop⟩

/-- The entries are the reports, each with the sink that it found. -/
theorem performAll_entries :
    (log.performAll cs).2.entries = log.entries ++ addressed log.sink cs := by
  induction cs generalizing log with
  | nil => exact (List.append_nil _).symm
  | cons c rest ih =>
    obtain ⟨hsink, -, -⟩ := log.perform_settings c
    rw [performAll]
    simp only [ih, perform_entries, hsink]
    rw [List.append_assoc, addressed]

/-- The process has been ended if it had been before, or if a report ended it. -/
theorem performAll_terminated_iff :
    (log.performAll cs).2.terminated = true ↔
      log.terminated = true ∨ EndedBy cs (log.performAll cs).1 := by
  induction cs generalizing log with
  | nil => simp [performAll, EndedBy]
  | cons c rest ih =>
    rw [performAll]
    simp only [ih, perform_terminated_iff, endedBy_cons c rest, or_assoc]

end

/-- After any run the log has kept the policy that it was started with. -/
theorem performAll_keepsPolicy (sink : Sink) (stop : Bool) (budget : Nat) (format : AlertFormat)
    (cs : List Command) :
    ((start sink stop budget format).performAll cs).2.KeepsPolicy stop (max budget 1)
      (faultsIn cs) := by
  have hremaining := (start sink stop budget format).performAll_remaining cs
  obtain ⟨-, -, hstop⟩ := (start sink stop budget format).performAll_settings cs
  generalize ((start sink stop budget format).performAll cs).2 = log at hremaining hstop
  have hbudget : log.remaining = max budget 1 - faultsIn cs := hremaining
  have hsettings : log.stopOnError = stop := hstop
  -- what is left says how many faults there were, so a fault is judged by their number
  have hends : log.stopOnError = true ∨ log.remaining ≤ 1 ↔
      stop = true ∨ max budget 1 ≤ faultsIn cs + 1 := by
    rw [hsettings, hbudget, Nat.sub_le_iff_le_add, Nat.add_comm 1]
  refine ⟨hbudget, fun v hv => ?_, fun v hv hfatal => ?_, fun v hv hbearable => ?_, ?_⟩
  · rw [report_of_warning log hv]
    exact ⟨rfl, rfl, rfl, rfl⟩
  · rw [report_of_fault log hv]
    simp only
    rw [if_pos (hends.mpr hfatal)]
    exact ⟨rfl, rfl⟩
  · rw [report_of_fault log hv]
    simp only
    rw [if_neg (mt hends.mp hbearable)]
    exact ⟨rfl, rfl, rfl⟩
  · intro hended later
    exact (log.performAll_terminated_iff later).mpr (.inl hended)

/-! ### The text in the sinks -/

/-! ### The text in the sinks -/

/-- The text of entries is the text of the first ones and then that of the others. -/
theorem textOf_append (format : AlertFormat) (sink : Sink)
    (entries more : List (Sink × Violation)) :
    textOf format sink (entries ++ more) =
      textOf format sink entries ++ textOf format sink more := by
  simp [textOf, String.join_append]

/-- A report is written at the end of its sink, and nowhere else. -/
theorem textIn_report (log : AlertLog) (v : Violation) (sink : Sink) :
    (log.report v).2.textIn sink =
      log.textIn sink ++ if log.sink = sink ∧ sink.accepts then log.format.render v else "" := by
  obtain ⟨-, hformat, -⟩ := log.report_settings v
  rw [textIn, report_entries, hformat, textOf_append, textIn]
  congr 1
  by_cases hsink : log.sink = sink
  · subst hsink
    cases haccepts : log.sink.accepts <;> simp [textOf, haccepts]
  · simp [textOf, hsink]

/-- Only one sink refuses what is written to it. -/
theorem accepts_iff {sink : Sink} : sink.accepts = true ↔ sink ≠ .refusing := by
  cases sink <;> simp [Sink.accepts]

/-- A sink holds what was reported while alerts went to it. -/
theorem textOf_addressed (format : AlertFormat) (t sink : Sink) (cs : List Command) :
    textOf format t (addressed sink cs) =
      String.join ((receivedBy t sink cs).map format.render) := by
  induction cs generalizing sink with
  | nil => rfl
  | cons c rest ih =>
    rw [addressed, textOf_append, ih, receivedBy, List.map_append, String.join_append]
    congr 1
    cases hc : c.reported? with
    | none => simp [textOf]
    | some v =>
      by_cases ht : sink = t
      · subst ht
        by_cases haccepts : sink.accepts = true
        · simp [textOf, haccepts, accepts_iff.mp haccepts]
        · have hrefusing : sink = .refusing := Decidable.not_not.mp (mt accepts_iff.mpr haccepts)
          simp [textOf, hrefusing, Sink.accepts]
      · simp [textOf, ht]

/-- The policy of a log, after every run of operations: what it does with the next violation depends
only on the number of faults so far, the process was ended exactly if a fault was answered so, and
every sink that accepts anything holds the alerts, or the lines of the records, of what was reported
while alerts went to it, complete and in order. Other operations change at most where alerts go, and
a file that cannot be opened does not even change that. -/
theorem performAll_policy (sink : Sink) (stop : Bool) (budget : Nat) (format : AlertFormat)
    (cs : List Command) :
    let run := (start sink stop budget format).performAll cs
    let current := cs.foldl Command.sinkAfter sink
    run.2.KeepsPolicy stop (max budget 1) (faultsIn cs) ∧
      (run.2.terminated = true ↔ EndedBy cs run.1) ∧
      run.2.entries = addressed sink cs ∧
      (∀ t, (format = .text →
          run.2.textIn t = String.join ((receivedBy t sink cs).map Violation.alert)) ∧
        (format = .jsonl → run.2.textIn t =
          String.join ((receivedBy t sink cs).map fun v => v.toJson.render ++ "\n"))) ∧
      (∀ v t, (format = .text → (run.2.report v).2.textIn t =
          run.2.textIn t ++ if t = current ∧ t ≠ .refusing then v.alert else "") ∧
        (format = .jsonl → (run.2.report v).2.textIn t =
          run.2.textIn t ++ if t = current ∧ t ≠ .refusing then v.toJson.render ++ "\n" else "")) ∧
      (∀ c, c.reported? = none →
        (run.2.perform c).2 = { run.2 with sink := c.sinkAfter run.2.sink }) ∧
      ∀ path e, run.2.perform (.redirectToFile path (.error e)) = (.opened (.error e), run.2) := by
  intro run current
  have hentries : run.2.entries = addressed sink cs :=
    (start sink stop budget format).performAll_entries cs
  obtain ⟨hsink, hformat, -⟩ := (start sink stop budget format).performAll_settings cs
  -- in either format a sink holds the renderings of what it has received
  have htext : ∀ t, run.2.textIn t = String.join ((receivedBy t sink cs).map format.render) :=
    fun t => by
      rw [textIn, hentries, ← textOf_addressed]
      exact congrArg (fun format => textOf format t _) hformat
  -- and one more report adds one rendering, at the current sink
  have hnext : ∀ v t, (run.2.report v).2.textIn t =
      run.2.textIn t ++ if t = current ∧ t ≠ .refusing then format.render v else "" := fun v t => by
    have hcurrent : run.2.sink = current := hsink
    have hrender : run.2.format = format := hformat
    rw [textIn_report, hcurrent, hrender]
    simp only [accepts_iff, eq_comm (a := t)]
  refine ⟨performAll_keepsPolicy sink stop budget format cs, ?_, hentries,
    fun t => ⟨fun hplain => ?_, fun hlines => ?_⟩, fun v t => ⟨fun hplain => ?_, fun hlines => ?_⟩,
    fun c hc => perform_of_not_reported run.2 hc, fun path e => rfl⟩
  · have hstart : (start sink stop budget format).terminated = false := rfl
    rw [performAll_terminated_iff, hstart]
    simp [run]
  · rw [htext, hplain, AlertFormat.render_text]
  · rw [htext, hlines, AlertFormat.render_jsonl]
  · rw [hnext, hplain, AlertFormat.render_text]
  · rw [hnext, hlines, AlertFormat.render_jsonl]

end AlertLog

end MemorySentry
