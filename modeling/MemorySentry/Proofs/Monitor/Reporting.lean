import MemorySentry.Proofs.Monitor.Operations

/-!
# What a monitor reports

Every operation but a direct report tells of the violation that it returns, and of nothing else
(`perform_told`): the log, and the numbers of warnings and of faults, are after the operation what
they are after the report of that violation, and what they were before if there is none.
-/

namespace MemorySentry.Monitor

/-- What a monitor has told of the violations that it found. -/
structure Told where
  /-- The log of alerts. -/
  alerts : AlertLog
  /-- The number of warnings. -/
  warnings : Nat
  /-- The number of faults. -/
  faults : Nat

/-- What a monitor has told so far. -/
def told (m : Monitor) : Told :=
  ⟨m.alerts, m.counters.warnings, m.counters.faults⟩

/-- What has been told after one more violation. -/
def Told.tell (t : Told) (v : Violation) : Told where
  alerts := (t.alerts.report v).2
  warnings := if v.isWarning then t.warnings + 1 else t.warnings
  faults := if v.isWarning then t.faults else t.faults + 1

/-- What has been told after a violation, if there is one. -/
def Told.after (t : Told) (v : Option Violation) : Told :=
  v.elim t t.tell

/-- The violation in a result. -/
def violationIn {α : Type} : Except Violation α → Option Violation
  | .ok _ => none
  | .error v => some v

namespace Answer

@[simp] theorem violation?_moved (r : Except Violation (Option Registration)) :
    (moved r).violation? = violationIn r := by
  cases r <;> rfl

@[simp] theorem violation?_freed (r : Except Violation (Option Object)) :
    (freed r).violation? = violationIn r := by
  cases r <;> rfl

@[simp] theorem violation?_verdict (r : Except Violation Verdict) :
    (verdict r).violation? = violationIn r := by
  cases r <;> rfl

@[simp] theorem violation?_checked (r : Except Violation Unit) :
    (checked r).violation? = violationIn r := by
  cases r <;> rfl

@[simp] theorem violation?_derived (r : Except Violation Address) :
    (derived r).violation? = violationIn r := by
  cases r <;> rfl

@[simp] theorem violation?_string (r : Except Violation (Option ByteCount)) :
    (string r).violation? = violationIn r := by
  cases r <;> rfl

end Answer

/-- A report tells its violation. -/
theorem told_report (m : Monitor) (v : Violation) : (m.report v).2.told = m.told.tell v := by
  unfold report told Told.tell count
  by_cases hv : v.isWarning = true <;> simp [hv]

/-- What a result has of a violation is told. -/
theorem told_reported {α : Type} (m : Monitor) (r : Except Violation α) (site : Option Site) :
    (m.reported r site).2.told = m.told.after (violationIn (m.reported r site).1) := by
  cases r with
  | ok a => rfl
  | error v => exact m.told_report (v.atSite? site)

/-- To have a pool judge tells nothing yet. -/
theorem told_judgeIn {α : Type} (m : Monitor) (id : PoolId) (absent : α)
    (judge : Pool → Except Violation α × Pool) :
    (m.judgeIn id absent judge).2.told = m.told := by
  unfold judgeIn
  cases m.pool? id <;> rfl

/-- Nor does it to ask one. -/
theorem told_askPool {α : Type} (m : Monitor) (id : PoolId) (ask : Pool → Option α × Pool) :
    (m.askPool id ask).2.told = m.told := by
  unfold askPool
  cases m.pool? id <;> rfl

/-- Nor does it to ask the objects from outside. -/
theorem told_orExternal (m : Monitor) (a : Address) (r : Except Violation Verdict)
    (judge : Pool → Except Violation Verdict × Pool) :
    (m.orExternal a r judge).2.told = m.told := by
  unfold orExternal
  cases missed a r with
  | false => rfl
  | true =>
    rcases judge m.external with ⟨fromOutside, external⟩
    rcases fromOutside with v | s | _ | _
    · rfl
    · rfl
    · rfl
    · rcases r with v | s | _ | _ <;> rfl

section

variable (m : Monitor) (id : PoolId)

/-- A registration tells nothing. -/
theorem told_register (a : Address) (size : ByteCount) (kind : ObjectKind) (site : Option Site) :
    (m.register id a size kind site).2.told = m.told := by
  unfold register
  cases m.pool? id with
  | none => rfl
  | some p =>
    simp only
    rcases p.registerBytes m.numbers a size kind site with ⟨_ | r, p', numbers⟩ <;> rfl

/-- Nor does one of memory from outside. -/
theorem told_registerExternal (a : Address) (size : ByteCount) (site : Option Site) :
    (m.registerExternal a size site).2.told = m.told := by
  unfold registerExternal
  rcases m.external.registerBytes m.numbers a size .external site with ⟨_ | r, p', numbers⟩ <;> rfl

/-- A free tells of a violation just if it answers with one. -/
theorem told_free (a : Address) (site : Option Site) :
    (m.free id a site).2.told = m.told.after (violationIn (m.free id a site).1) := by
  unfold free
  cases m.pool? id with
  | none => rfl
  | some p =>
    simp only
    rcases p.free m.numbers a site with ⟨v | _ | o, p', numbers⟩
    · exact told_reported _ (.error v) site
    · rfl
    · rfl

/-- The end of a scope tells nothing. -/
theorem told_endScope (a : Address) : (m.endScope id a).2.told = m.told := by
  unfold endScope
  cases m.pool? id with
  | none => rfl
  | some p =>
    simp only
    rcases p.endScope a with ⟨_ | o, p'⟩ <;> rfl

/-- A move tells what it answers. -/
theorem told_move (new old : Address) (size : ByteCount) (kind : ObjectKind) (site : Option Site) :
    (m.move id new old size kind site).2.told =
      m.told.after (violationIn (m.move id new old size kind site).1) := by
  unfold move
  cases m.pool? id with
  | none => rfl
  | some p =>
    simp only
    rcases p.move m.numbers new old size kind site with ⟨v | _ | r, p', numbers⟩
    · exact told_reported _ (.error v) site
    · rfl
    · rfl

/-- The check of an access tells what it answers. -/
theorem told_checkAccess (a : Address) (length : ByteCount) (mode : CheckMode)
    (site : Option Site) :
    (m.checkAccess id a length mode site).2.told =
      m.told.after (violationIn (m.checkAccess id a length mode site).1) := by
  simp only [checkAccess, told_reported, told_orExternal, told_judgeIn]
  rfl

/-- So does the check of arithmetic. -/
theorem told_checkArithmetic (source dest : Address) (mode : CheckMode) (site : Option Site) :
    (m.checkArithmetic id source dest mode site).2.told =
      m.told.after (violationIn (m.checkArithmetic id source dest mode site).1) := by
  simp only [checkArithmetic, told_reported, told_orExternal, told_judgeIn]
  rfl

/-- So does the check of an aligned pointer. -/
theorem told_checkAlignment (a : Address) (elementSize : ByteCount) (site : Option Site) :
    (m.checkAlignment id a elementSize site).2.told =
      m.told.after (violationIn (m.checkAlignment id a elementSize site).1) := by
  simp only [checkAlignment, told_reported, told_judgeIn]
  rfl

/-- What is found of a string is told. -/
theorem told_reportString (memory : Address → UInt8) (a : Address) (function : String)
    (site : Option Site) (o : Option Object) :
    (m.reportString memory a function site o).2.told =
      m.told.after (violationIn (m.reportString memory a function site o).1) := by
  cases o with
  | none => rfl
  | some o => exact m.told_reported _ site

/-- The check of a string tells what it answers. -/
theorem told_checkString (memory : Address → UInt8) (a : Address) (function : String)
    (site : Option Site) :
    (m.checkString memory id a function site).2.told =
      m.told.after (violationIn (m.checkString memory id a function site).1) := by
  by_cases ha : a = 0
  · simp only [checkString, if_pos ha]
    rfl
  rw [m.checkString_eq id memory ha]
  have hasked : (m.countCheck.askPool id fun p => p.objectAt a).2.told = m.told :=
    m.countCheck.told_askPool id fun p => p.objectAt a
  rcases heq : m.countCheck.askPool id fun p => p.objectAt a with ⟨_ | o, m'⟩ <;> rw [heq] at hasked
  · rw [← hasked]
    exact (m'.externalAt a).2.told_reportString memory a function site _
  · rw [← hasked]
    exact m'.told_reportString memory a function site _

/-- A call that allocates tells what it answers. -/
theorem told_allocated (c : Call) (measure : Address → Option ByteCount) (site : Option Site) :
    (m.allocated id c measure site).2.told =
      m.told.after (violationIn (m.allocated id c measure site).1) := by
  unfold allocated
  split
  · rfl
  · split
    · rfl
    · split
      · exact m.told_move id _ _ _ _ site
      · exact m.told_register id _ _ _ site

/-- So does one that frees. -/
theorem told_deallocated (c : Call) (site : Option Site) :
    (m.deallocated id c site).2.told =
      m.told.after (violationIn (m.deallocated id c site).1) := by
  unfold deallocated
  split
  · rfl
  · exact m.told_free id _ site

end

/-- Every operation but a direct report has told of the violation that it returns, and of nothing
else. -/
theorem perform_told (m : Monitor) {c : Command} (hc : ∀ v, c ≠ .report v) :
    (m.perform c).2.told = m.told.after (m.perform c).1.violation? := by
  -- operations without a check tell of nothing, all others of the violation in their own result
  cases c with
  | createPool | poolCount | poolStats | objects | externalAt | announce | canonicalOf | counters =>
    rfl
  | destroyPool id =>
    simp only [perform, destroyPool]
    cases m.pool? id <;> rfl
  | objectAt id a => exact m.told_askPool id fun p => p.objectAt a
  | retainedAt id a => exact m.told_askPool id fun p => p.findRetained a
  | register id a size kind site => exact m.told_register id a size kind site
  | registerExternal a size site => exact m.told_registerExternal a size site
  | endScope id a => exact m.told_endScope id a
  | free id a site => simp only [perform, Answer.violation?_freed, m.told_free]
  | move id new old size site => simp only [perform, Answer.violation?_moved, m.told_move]
  | checkAccess id a length mode site =>
    simp only [perform, Answer.violation?_verdict, m.told_checkAccess]
  | checkArithmetic id source dest mode site =>
    simp only [perform, Answer.violation?_verdict, m.told_checkArithmetic]
  | checkAlignment id a elementSize site =>
    simp only [perform, Answer.violation?_checked, m.told_checkAlignment]
  | checkDerived base pointer size site =>
    simp only [perform, Answer.violation?_derived, checkDerived, told_reported]
    rfl
  | checkDerivedAccess base pointer size length site =>
    simp only [perform, Answer.violation?_checked, checkDerivedAccess, told_reported]
    rfl
  | checkCallTarget target targets provenance site =>
    cases provenance with
    | incomplete => rfl
    | complete =>
      simp only [perform, Answer.violation?_checked, checkCallTarget, told_reported]
      rfl
  | checkString memory id a function site =>
    simp only [perform, Answer.violation?_string, m.told_checkString]
  | allocated id c measure site =>
    simp only [perform, Answer.violation?_moved, m.told_allocated]
  | deallocated id c site =>
    simp only [perform, Answer.violation?_freed, m.told_deallocated]
  | shadow remap a length =>
    simp only [perform, Monitor.shadow]
    split
    · rfl
    · split
      · rfl
      · split <;> rfl
  | unshadow protect a =>
    simp only [perform, Monitor.unshadow]
    split
    · rfl
    · split
      · rfl
      · split <;> rfl
  | report v => exact absurd rfl (hc v)

end MemorySentry.Monitor
