import MemorySentry.Proofs.AlertLog.Policy
import MemorySentry.Proofs.Monitor.Reporting

/-!
# The alerts of a run

The log of a monitor holds the violations that its operations returned, each once, in their order
and with the place of the check, and it holds nothing else (`performAll_alerts`).

- `perform_foundAt`: a violation that is returned names the site that the operation was given;
- `HasTold.performAll`: a run adds to what was told the violations of its answers;
- `perform_fromOutside`: of a check that the objects from outside decide, the pool's opinion is not
  heard.
-/

namespace MemorySentry

/-- A report counts one warning more or one fault more. -/
theorem AlertLog.report_counts (log : AlertLog) (v : Violation) :
    (log.report v).2.warnings = (if v.isWarning then log.warnings + 1 else log.warnings) ∧
      (log.report v).2.faults = if v.isWarning then log.faults else log.faults + 1 := by
  cases hv : v.isWarning with
  | true =>
    rw [report_of_warning log hv]
    exact ⟨rfl, rfl⟩
  | false =>
    rw [report_of_fault log hv]
    simp only
    split <;> exact ⟨rfl, rfl⟩

/-- A violation names a site as the place where it was found, and the program counter there. -/
def Violation.FoundAt (v : Violation) (site : Option Site) : Prop :=
  v.site = site ∧ v.pc = Violation.sitePc site

/-- No violation in a result has been given a place yet. -/
def Unplaced {α : Type} (r : Except Violation α) : Prop :=
  ∀ v, r = .error v → v.FoundAt none

theorem unplaced_ok {α : Type} (a : α) : Unplaced (.ok a) := by
  intro v hv
  cases hv

theorem unplaced_error {α : Type} {v : Violation} (h : v.FoundAt none) :
    Unplaced (.error v : Except Violation α) := by
  intro v' hv
  cases hv
  exact h

/-- What is done with a result does not place its violation. -/
theorem Unplaced.map {α β : Type} {r : Except Violation α} (h : Unplaced r) (f : α → β) :
    Unplaced (r.map f) := by
  cases r with
  | ok a => exact unplaced_ok _
  | error v => exact unplaced_error (h v rfl)

/-- A violation that was not placed yet is found at the site that it is given. -/
theorem Violation.FoundAt.atSite? {v : Violation} (h : v.FoundAt none) (site : Option Site) :
    (v.atSite? site).FoundAt site := by
  obtain ⟨hsite, hpc⟩ := h
  cases site with
  | none => exact ⟨hsite, hpc⟩
  | some s =>
    have hunknown : v.pc = 0 := hpc
    exact ⟨rfl, if_pos hunknown⟩

/-! ### Violations of pools -/

namespace Pool

/-- A pool does not say where an access to no live object was made. -/
theorem unplaced_judgeMiss (provenance : Provenance) (a : Address) (freed : Option Object) :
    Unplaced (judgeMiss provenance a freed) := by
  unfold judgeMiss
  split
  · split
    · exact unplaced_error ⟨rfl, rfl⟩
    · split <;> exact unplaced_error ⟨rfl, rfl⟩
  · exact unplaced_error ⟨rfl, rfl⟩
  · exact unplaced_ok _

/-- Nor where arithmetic on no live object was done. -/
theorem unplaced_judgeStrayArithmetic (provenance : Provenance) (source dest : Address)
    (freed : Option Object) : Unplaced (judgeStrayArithmetic provenance source dest freed) := by
  unfold judgeStrayArithmetic
  split
  · exact unplaced_error ⟨rfl, rfl⟩
  · exact unplaced_error ⟨rfl, rfl⟩
  · exact unplaced_ok _

/-- Nor where a stray free was called. -/
theorem foundAt_strayFree (a : Address) (freed : Option Object) :
    (strayFree a freed).FoundAt none := by
  unfold strayFree
  split <;> exact ⟨rfl, rfl⟩

section

variable (p : Pool) (numbers : Numbering)

/-- Nor where any access was made. -/
theorem unplaced_checkAccess (a : Address) (length : ByteCount) (mode : CheckMode) :
    Unplaced (p.checkAccess a length mode).1 := by
  unfold checkAccess
  split
  · exact unplaced_ok _
  · split
    · split
      · exact unplaced_ok _
      · exact unplaced_error ⟨rfl, rfl⟩
    · exact unplaced_judgeMiss _ a _

/-- Nor where an aligned pointer was used. -/
theorem unplaced_checkAlignment (a : Address) (elementSize : ByteCount) :
    Unplaced (p.checkAlignment a elementSize).1 := by
  unfold checkAlignment
  split
  · exact unplaced_ok _
  · simp only
    split
    · split
      · exact unplaced_ok _
      · exact unplaced_error ⟨rfl, rfl⟩
    · exact unplaced_error ⟨rfl, rfl⟩

/-- Nor where any arithmetic was done. -/
theorem unplaced_checkArithmetic (source dest : Address) (mode : CheckMode) :
    Unplaced (p.checkArithmetic source dest mode).1 := by
  unfold checkArithmetic
  split
  · split
    · exact unplaced_ok _
    · exact unplaced_error ⟨rfl, rfl⟩
  · split
    · exact unplaced_ok _
    · exact unplaced_judgeStrayArithmetic _ source dest _

/-- Nor where a free was called. -/
theorem unplaced_free (a : Address) (site : Option Site) :
    Unplaced (p.free numbers a site).1 := by
  unfold free
  split
  · exact unplaced_ok _
  · split
    · split
      · exact unplaced_error ⟨rfl, rfl⟩
      · split
        · exact unplaced_error ⟨rfl, rfl⟩
        · exact unplaced_ok _
    · exact unplaced_error (foundAt_strayFree a _)

/-- Nor where a move was. -/
theorem unplaced_move (new old : Address) (size : ByteCount) (kind : ObjectKind)
    (site : Option Site) : Unplaced (p.move numbers new old size kind site).1 := by
  have hfree := p.unplaced_free numbers old site
  unfold move
  split
  · exact unplaced_ok _
  · split
    · exact hfree.map _
    · split
      · exact unplaced_ok _
      · split
        · next heq =>
          rw [heq] at hfree
          exact unplaced_error (hfree _ rfl)
        · exact unplaced_ok _

end

/-- No violation in an answer of a pool has been given a place yet. -/
def Answer.Unplaced : Answer → Prop
  | .freed r => MemorySentry.Unplaced r
  | .moved r => MemorySentry.Unplaced r
  | .verdict r => MemorySentry.Unplaced r
  | .aligned r => MemorySentry.Unplaced r
  | _ => True

/-- No operation on a pool places its violation. -/
theorem perform_unplaced (p : Pool) (numbers : Numbering) (c : Command) :
    (p.perform numbers c).1.Unplaced := by
  cases c with
  | free a site => exact p.unplaced_free numbers a site
  | move new old size kind site => exact p.unplaced_move numbers new old size kind site
  | checkAccess a length mode => exact p.unplaced_checkAccess a length mode
  | checkAlignment a elementSize => exact p.unplaced_checkAlignment a elementSize
  | checkArithmetic source dest mode => exact p.unplaced_checkArithmetic source dest mode
  | register | registerBytes | endScope | objectAt | retainedAt | objects | stats | reset =>
    exact trivial

end Pool

namespace DirectCheck

/-- Nor does a check of a derived pointer. -/
theorem unplaced_address (base pointer : Address) (size : ByteCount) :
    Unplaced (address base pointer size) := by
  unfold address
  simp only
  split
  · exact unplaced_error ⟨rfl, rfl⟩
  · split
    · exact unplaced_ok _
    · exact unplaced_error ⟨rfl, rfl⟩

/-- Nor does one of an access through it. -/
theorem unplaced_access (base pointer : Address) (size length : ByteCount) :
    Unplaced (access base pointer size length) := by
  unfold access
  simp only
  split
  · exact unplaced_error ⟨rfl, rfl⟩
  · split
    · exact unplaced_ok _
    · exact unplaced_error ⟨rfl, rfl⟩

/-- Nor does one of the target of a call. -/
theorem unplaced_callTarget (target : Address) (targets : List Address) :
    Unplaced (callTarget target targets) := by
  unfold callTarget
  split
  · exact unplaced_ok _
  · exact unplaced_error ⟨rfl, rfl⟩

end DirectCheck

namespace Monitor

/-! ### The place of a violation -/

/-- The site that an operation is given. -/
def Command.site? : Command → Option Site
  | .register _ _ _ _ site | .registerExternal _ _ site | .free _ _ site | .move _ _ _ _ site
  | .checkAccess _ _ _ _ site | .checkArithmetic _ _ _ _ site | .checkAlignment _ _ _ site
  | .checkDerived _ _ _ site | .checkDerivedAccess _ _ _ _ site | .checkCallTarget _ _ _ site
  | .checkString _ _ _ _ site | .allocated _ _ _ site | .deallocated _ _ site => site
  | _ => none

/-- A violation is found where the operation was called. -/
theorem foundAt_located {α : Type} {r : Except Violation α} (h : Unplaced r) (site : Option Site)
    {v : Violation} (hv : violationIn (located r site) = some v) : v.FoundAt site := by
  cases r with
  | ok a => cases hv
  | error w =>
    cases hv
    exact (h w rfl).atSite? site

/-- To read a string does not place its violation. -/
theorem unplaced_readString (memory : Address → UInt8) (a : Address) (function : String)
    (o : Option Object) : Unplaced (readString memory a function o) := by
  unfold readString
  split
  · exact unplaced_ok _
  · split
    · exact unplaced_ok _
    · exact unplaced_error ⟨rfl, rfl⟩

/-- Whoever decides about a check, the violation is not placed yet. -/
theorem unplaced_settle (a : Address) {r fromOutside : Except Violation Verdict}
    (hr : Unplaced r) (hfromOutside : Unplaced fromOutside) :
    Unplaced (settle a r fromOutside) := by
  unfold settle
  split
  · split
    · exact hr
    · exact hfromOutside
  · exact hr

section

variable {answer : Option Pool.Answer}

theorem unplaced_freedIn (h : ∀ x, answer = some x → x.Unplaced) : Unplaced (freedIn answer) := by
  unfold freedIn
  split
  · exact h _ rfl
  · exact unplaced_ok _

theorem unplaced_movedIn (h : ∀ x, answer = some x → x.Unplaced) : Unplaced (movedIn answer) := by
  unfold movedIn
  split
  · exact h _ rfl
  · exact unplaced_ok _

theorem unplaced_verdictIn (h : ∀ x, answer = some x → x.Unplaced) :
    Unplaced (verdictIn answer) := by
  unfold verdictIn
  split
  · exact h _ rfl
  · exact unplaced_ok _

theorem unplaced_alignedIn (h : ∀ x, answer = some x → x.Unplaced) :
    Unplaced (alignedIn answer) := by
  unfold alignedIn
  split
  · exact h _ rfl
  · exact unplaced_ok _

end

variable (m : Monitor)

/-- What the pool of an operation answers is not placed yet. -/
theorem unplaced_poolAnswer? (c : Command) (x : Pool.Answer) (hx : m.poolAnswer? c = some x) :
    x.Unplaced := by
  obtain ⟨⟨id, pc⟩, -, hanswer⟩ := Option.bind_eq_some_iff.mp hx
  obtain ⟨p, -, rfl⟩ := Option.map_eq_some_iff.mp hanswer
  exact p.perform_unplaced m.numbers pc

/-- A violation that an operation returns names the site that the operation was given. -/
theorem perform_foundAt (c : Command) {v : Violation}
    (hv : (m.perform c).1.violation? = some v) : v.FoundAt c.site? := by
  have hpool := m.unplaced_poolAnswer? c
  have hanswer : ∀ {id}, c.isStructural = false → c.pool? = some id →
      (m.perform c).1 = c.conclude m.external (m.poolAnswer? c) :=
    fun hc hid => (m.perform_spec hc hid).answer
  -- a pool finds its violations without a place, and they get the one of the operation afterwards
  cases c with
  | free id a site =>
    rw [hanswer rfl rfl, Command.conclude, Answer.violation?_freed] at hv
    exact foundAt_located (unplaced_freedIn hpool) site hv
  | deallocated id c site =>
    rw [hanswer rfl rfl, Command.conclude, Answer.violation?_freed] at hv
    exact foundAt_located (unplaced_freedIn hpool) site hv
  | move id new old size site =>
    rw [hanswer rfl rfl, Command.conclude, Answer.violation?_moved] at hv
    exact foundAt_located (unplaced_movedIn hpool) site hv
  | allocated id c measure site =>
    rw [hanswer rfl rfl, Command.conclude, Answer.violation?_moved] at hv
    exact foundAt_located (unplaced_movedIn hpool) site hv
  | checkAccess id a length mode site =>
    rw [hanswer rfl rfl, Command.conclude, Answer.violation?_verdict] at hv
    exact foundAt_located (unplaced_settle a (unplaced_verdictIn hpool)
      (m.external.unplaced_checkAccess a length _)) site hv
  | checkArithmetic id source dest mode site =>
    rw [hanswer rfl rfl, Command.conclude, Answer.violation?_verdict] at hv
    exact foundAt_located (unplaced_settle source (unplaced_verdictIn hpool)
      (m.external.unplaced_checkArithmetic source dest _)) site hv
  | checkAlignment id a elementSize site =>
    rw [hanswer rfl rfl, Command.conclude, Answer.violation?_checked] at hv
    exact foundAt_located (unplaced_alignedIn hpool) site hv
  | checkString memory id a function site =>
    rw [hanswer rfl rfl, Command.conclude] at hv
    split at hv
    · cases hv
    · rw [Answer.violation?_string] at hv
      exact foundAt_located (unplaced_readString memory a function _) site hv
  -- so do the checks that ask no pool
  | checkDerived base pointer size site =>
    simp only [perform, checkDerived, reported_fst, Answer.violation?_derived] at hv
    exact foundAt_located (DirectCheck.unplaced_address base pointer size) site hv
  | checkDerivedAccess base pointer size length site =>
    simp only [perform, checkDerivedAccess, reported_fst, Answer.violation?_checked] at hv
    exact foundAt_located (DirectCheck.unplaced_access base pointer size length) site hv
  | checkCallTarget target targets provenance site =>
    cases provenance with
    | incomplete => cases hv
    | complete =>
      simp only [perform, checkCallTarget, reported_fst, Answer.violation?_checked] at hv
      exact foundAt_located (DirectCheck.unplaced_callTarget target targets) site hv
  -- the other operations find nothing
  | createPool | destroyPool | poolCount | poolStats | objects | objectAt | retainedAt | register
  | registerExternal | externalAt | endScope | announce | shadow | unshadow | canonicalOf | report
  | counters => cases hv

/-! ### Runs -/

/-- These violations and no others were told, in this order, and all of them to one sink. -/
structure HasTold (sink : Sink) (format : AlertFormat) (vs : List Violation) (t : Told) : Prop where
  sent : t.alerts.sink = sink
  rendered : t.alerts.format = format
  /-- The log holds each violation once. -/
  entries : t.alerts.entries = vs.map fun v => (sink, v)
  warnings : t.warnings = vs.countP Violation.isWarning
  faults : t.faults = vs.countP fun v => !v.isWarning
  /-- The log has counted the same warnings. -/
  loggedWarnings : t.alerts.warnings = t.warnings
  /-- The log has counted the same faults. -/
  loggedFaults : t.alerts.faults = t.faults

namespace HasTold

variable {sink : Sink} {format : AlertFormat} {vs : List Violation}

/-- A new monitor has told nothing. -/
theorem start (settings : Settings) (sink : Sink) (page : UInt64) :
    HasTold sink settings.format [] (Monitor.start settings sink page).told :=
  ⟨rfl, rfl, rfl, rfl, rfl, rfl, rfl⟩

/-- To tell a violation tells it in the format, to the present sink, once. -/
theorem tell {t : Told} (h : HasTold sink format vs t) (v : Violation) :
    HasTold sink format (vs ++ [v]) (t.tell v) := by
  obtain ⟨hsink, hformat, -⟩ := t.alerts.report_settings v
  have hentries : (t.tell v).alerts.entries = (vs ++ [v]).map fun v => (sink, v) := by
    rw [List.map_append, ← h.entries, ← h.sent]
    exact t.alerts.report_entries v
  have hcounts := t.alerts.report_counts v
  rw [h.loggedWarnings, h.loggedFaults] at hcounts
  refine ⟨hsink.trans h.sent, hformat.trans h.rendered, hentries, ?_, ?_, hcounts.1, hcounts.2⟩
  -- one of the two counts goes up, by what the violation is
  · rw [List.countP_append, ← h.warnings]
    cases hv : v.isWarning <;> simp [Told.tell, hv]
  · rw [List.countP_append, ← h.faults]
    cases hv : v.isWarning <;> simp [Told.tell, hv]

/-- So it is with the violation of an operation, if there is one. -/
theorem after {t : Told} (h : HasTold sink format vs t) (v : Option Violation) :
    HasTold sink format (vs ++ v.toList) (t.after v) := by
  cases v with
  | none =>
    rw [Option.toList_none, List.append_nil]
    exact h
  | some v => exact h.tell v

/-- A run of operations adds to what was told the violations of its answers. -/
theorem performAll {m : Monitor} (h : HasTold sink format vs m.told) {cs : List Command}
    (hcs : ∀ c ∈ cs, ∀ v, c ≠ .report v) :
    HasTold sink format (vs ++ (m.performAll cs).1.filterMap Answer.violation?)
      (m.performAll cs).2.told := by
  -- on the operations still to come: what was told already grows with each of them
  induction cs generalizing m vs with
  | nil =>
    rw [Monitor.performAll, List.filterMap_nil, List.append_nil]
    exact h
  | cons c rest ih =>
    have hfirst := h.after (m.perform c).1.violation?
    rw [← m.perform_told (hcs c List.mem_cons_self)] at hfirst
    have hrest := ih hfirst fun c' hc' => hcs c' (List.mem_cons_of_mem c hc')
    rw [List.append_assoc] at hrest
    have hfound : ((m.performAll (c :: rest)).1.filterMap Answer.violation?) =
        (m.perform c).1.violation?.toList ++
          ((m.perform c).2.performAll rest).1.filterMap Answer.violation? := by
      rw [Monitor.performAll, List.filterMap_cons]
      cases (m.perform c).1.violation? <;> rfl
    rw [hfound]
    exact hrest

/-- The sink holds the alerts of what was told, one after the other, or the lines of their
records. -/
theorem textIn {t : Told} (h : HasTold sink format vs t) (haccepts : sink.accepts = true) :
    (format = .text → t.alerts.textIn sink = String.join (vs.map Violation.alert)) ∧
      (format = .jsonl →
        t.alerts.textIn sink = String.join (vs.map fun v => v.toJson.render ++ "\n")) := by
  have htext : t.alerts.textIn sink = String.join (vs.map format.render) := by
    rw [AlertLog.textIn, h.rendered, h.entries, AlertLog.textOf, List.filter_eq_self.mpr,
      List.map_map]
    · rfl
    · intro e he
      obtain ⟨v, -, rfl⟩ := List.mem_map.mp he
      simp [haccepts]
  refine ⟨fun hformat => ?_, fun hformat => ?_⟩
  · rw [htext, hformat, AlertFormat.render_text]
  · rw [htext, hformat, AlertFormat.render_jsonl]

end HasTold

/-- The violations of a run are found where the operations were called. -/
theorem performAll_foundAt (cs : List Command) {c : Command} {answer : Answer}
    (hmem : (c, answer) ∈ cs.zip (m.performAll cs).1) {v : Violation}
    (hv : answer.violation? = some v) : v.FoundAt c.site? := by
  induction cs generalizing m with
  | nil => cases hmem
  | cons c' rest ih =>
    rw [performAll, List.zip_cons_cons] at hmem
    rcases List.mem_cons.mp hmem with heq | hlater
    · cases heq
      exact m.perform_foundAt c hv
    · exact ih _ hlater

/-! ### Checks that the objects from outside decide -/

/-- The pointer that a check judges and what the objects from outside say of it, if they are asked
for a verdict at all. -/
def Command.judgedOutside? (external : Pool) :
    Command → Option (Address × Except Violation Verdict)
  | .checkAccess _ a length mode _ =>
    some (a, (external.checkAccess a length { mode with provenance := .incomplete }).1)
  | .checkArithmetic _ source dest _ _ =>
    some (source, (external.checkArithmetic source dest ⟨.incomplete, .read⟩).1)
  | _ => none

/-- What objects from outside know counts where the pool knows nothing. -/
theorem settle_of_missed {a : Address} {r fromOutside : Except Violation Verdict}
    (hmissed : missed a r = true) (hknown : fromOutside ≠ .ok .unknown) :
    settle a r fromOutside = fromOutside := by
  unfold settle
  rw [if_pos hmissed]
  split
  · exact absurd rfl hknown
  · rfl

/-- Where the pool knows nothing about a pointer and the objects from outside do, what the pool made
of it is neither returned nor reported. -/
theorem perform_fromOutside {c : Command} {a : Address} {r : Except Violation Verdict}
    (hjudged : c.judgedOutside? m.external = some (a, r))
    (hmissed : missed a (verdictIn (m.poolAnswer? c)) = true) (hknown : r ≠ .ok .unknown) :
    (m.perform c).1 = .verdict (located r c.site?) := by
  have hanswer : ∀ {id}, c.isStructural = false → c.pool? = some id →
      (m.perform c).1 = c.conclude m.external (m.poolAnswer? c) :=
    fun hc hid => (m.perform_spec hc hid).answer
  cases c with
  | checkAccess id a' length mode site =>
    cases hjudged
    rw [hanswer rfl rfl, Command.conclude]
    exact congrArg (fun r => Answer.verdict (located r site)) (settle_of_missed hmissed hknown)
  | checkArithmetic id source dest mode site =>
    cases hjudged
    rw [hanswer rfl rfl, Command.conclude]
    exact congrArg (fun r => Answer.verdict (located r site)) (settle_of_missed hmissed hknown)
  | _ => cases hjudged

/-- Every violation is reported exactly once, and nothing else is: after a run of operations, none
of which reports directly, the log holds the violations that they returned, in their order and with
the places of the checks, and both counts of warnings and of faults are theirs. What its sink holds
is their alerts, or the lines of their records, and nothing in between. The next operation tells of
nothing but its own violation, and if the objects from outside decide it, of nothing but theirs. -/
theorem performAll_alerts (settings : Settings) (sink : Sink) (page : UInt64) {cs : List Command}
    (hcs : ∀ c ∈ cs, ∀ v, c ≠ .report v) :
    let run := (start settings sink page).performAll cs
    let found := run.1.filterMap Answer.violation?
    HasTold sink settings.format found run.2.told ∧
      (sink.accepts = true →
        (settings.format = .text →
          run.2.alerts.textIn sink = String.join (found.map Violation.alert)) ∧
        (settings.format = .jsonl →
          run.2.alerts.textIn sink = String.join (found.map fun v => v.toJson.render ++ "\n"))) ∧
      (∀ e ∈ cs.zip run.1, ∀ v, e.2.violation? = some v → v.FoundAt e.1.site?) ∧
      (∀ c, (∀ v, c ≠ .report v) →
        (run.2.perform c).2.told = run.2.told.after (run.2.perform c).1.violation?) ∧
      ∀ c a r, c.judgedOutside? run.2.external = some (a, r) →
        missed a (verdictIn (run.2.poolAnswer? c)) = true → r ≠ .ok .unknown →
        (run.2.perform c).1 = .verdict (located r c.site?) := by
  intro run found
  have htold : HasTold sink settings.format found run.2.told :=
    (HasTold.start settings sink page).performAll hcs
  exact ⟨htold, htold.textIn,
    fun e he v hv => (start settings sink page).performAll_foundAt cs he hv,
    fun c hc => run.2.perform_told hc,
    fun c a r hjudged hmissed hknown => run.2.perform_fromOutside hjudged hmissed hknown⟩

/-- A write that leaves an object from outside, of which the pool knows nothing, and a free of
nothing: each is told once, the write as the objects from outside see it. -/
theorem performAll_alerts_stray_write_and_free :
    let write : Site := { tag := 7, pc := 0x401000 }
    let run := (start {} (.buffer 0) 4096).performAll
      [.createPool, .registerExternal 4096 16 none,
        .checkAccess 1 4104 16 ⟨.complete, .write⟩ (some write), .free 1 8192 none]
    (run.2.alerts.entries.map fun e => (e.1, e.2.kind, e.2.site)) =
        [(.buffer 0, .writeOutOfBounds, some write), (.buffer 0, .freeOutsideHeap, none)] ∧
      run.2.alerts.textIn (.buffer 0) =
        String.join ((run.1.filterMap Answer.violation?).map Violation.alert) ∧
      run.2.counters.warnings = 0 ∧ run.2.counters.faults = 2 := by
  intro write run
  have hdirect : ∀ c ∈ ([.createPool, .registerExternal 4096 16 none,
      .checkAccess 1 4104 16 ⟨.complete, .write⟩ (some write), .free 1 8192 none] : List Command),
      ∀ v, c ≠ .report v := by
    simp
  obtain ⟨htold, htext, -⟩ := performAll_alerts {} (.buffer 0) 4096 hdirect
  refine ⟨?_, (htext rfl).1 rfl, htold.warnings, htold.faults⟩
  have hentries : run.2.alerts.entries = _ := htold.entries
  rw [hentries]
  rfl

end Monitor

end MemorySentry
