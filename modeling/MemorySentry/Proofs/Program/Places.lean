import MemorySentry.Program.EntryPoint
import MemorySentry.Proofs.Monitor.Sites

/-!
# Programs without sites

Most entry points can be told where in the program they are called. What they say of their place
ends up in alerts and in the histories of objects, and nowhere else: a call returns the same and
changes the monitor in the same way from whatever place it is made (`Program.call_place`).
-/

namespace MemorySentry

namespace Program

/-- The call made from another place. A call that says nothing of its place stays as it is. -/
def EntryPoint.at (e : EntryPoint) (place : Place) : EntryPoint :=
  match e with
  | .register pool a size kind _ => .register pool a size kind place
  | .free pool a _ => .free pool a place
  | .endScope pool a _ => .endScope pool a place
  | .move pool new old size _ => .move pool new old size place
  | .checkAccess pool a length mode _ => .checkAccess pool a length mode place
  | .checkAlignment pool a elementSize _ => .checkAlignment pool a elementSize place
  | .checkArithmetic pool source dest mode _ => .checkArithmetic pool source dest mode place
  | .checkDerived base pointer size _ => .checkDerived base pointer size place
  | .checkDerivedAccess base pointer size length _ =>
    .checkDerivedAccess base pointer size length place
  | e => e

/-- The program without the sites in its monitor, and without what it has written, where they are
shown. -/
def unsited (p : Program) : Program :=
  { p with monitor? := p.monitor?.map Monitor.unsited, written := {} }

section

variable (p : Program)

/-- Of two operations that differ in their sites, each leaves the program that the other leaves. -/
theorem perform_place {c c' : Monitor.Command} (h : c.unsited = c'.unsited) :
    (p.perform c).2.unsited = (p.perform c').2.unsited := by
  unfold perform
  rcases p.monitor with ⟨m, p⟩
  have hboth : (m.perform c).2.unsited = (m.perform c').2.unsited := by
    have hfirst := m.perform_unsited c
    rw [h, m.perform_unsited c'] at hfirst
    exact (congrArg Prod.snd hfirst).symm
  have hended : (m.perform c).2.alerts.terminations = (m.perform c').2.alerts.terminations :=
    congrArg (fun m => m.alerts.terminations) hboth
  simp only [afterMonitor, unsited, Option.map_some, hboth, hended]

/-- Two calls on a pool that differ in their places only have the same effect up to places. -/
theorem performIn_place (pool : Option Nat) {c c' : PoolId → Monitor.Command}
    (h : ∀ id, (c id).unsited = (c' id).unsited) :
    (p.performIn pool c).unsited = (p.performIn pool c').unsited := by
  unfold performIn
  rcases p.resolve pool with ⟨_ | id, p⟩
  · rfl
  · exact p.perform_place (h id)

/-- From whatever place a call is made, it returns the same and leaves the same program, apart from
the sites. -/
theorem call_place (e : EntryPoint) (place : Place) :
    (p.call (e.at place)).1 = (p.call e).1 ∧
      (p.call (e.at place)).2.unsited = (p.call e).2.unsited := by
  unfold call
  split
  · -- the process was aborted, and a call does nothing any more
    exact ⟨rfl, rfl⟩
  · cases e with
    | register pool | free pool | move pool | checkAccess pool | checkAlignment pool
    | checkArithmetic pool =>
      simp only [EntryPoint.at, carryOut]
      exact ⟨trivial, p.performIn_place pool fun id => rfl⟩
    | checkDerived | checkDerivedAccess =>
      simp only [EntryPoint.at, carryOut]
      exact ⟨trivial, p.perform_place rfl⟩
    -- calls that have no place, or that do not pass it on
    | configure | setLogFile | finish | createPool | destroyPool | registerExternal
    | registerArguments | endScope | checkCall | checkString | shadow | unshadow | allocated
    | deallocated => exact ⟨rfl, rfl⟩

end

end Program

namespace Monitor

/-- Sites decide nothing: two runs of the same operations that differ in the sites that these were
given answer the same without sites, and leave monitors that are the same without sites. So the
pools hold the same objects, and the counters, the error budget, the state of the log and the number
of terminations are equal. Nor does an entry point return anything else, or leave another program,
when it is called from another place or without one. -/
theorem performAll_sites (settings : Settings) (sink : Sink) (page : UInt64) {cs cs' : List Command}
    (h : cs.map Command.unsited = cs'.map Command.unsited) :
    let run := (start settings sink page).performAll cs
    let run' := (start settings sink page).performAll cs'
    run.1.map Answer.unsited = run'.1.map Answer.unsited ∧
      run.2.unsited = run'.2.unsited ∧
      ∀ (p : Program) (e : Program.EntryPoint) (place : Program.Place),
        (p.call (e.at place)).1 = (p.call e).1 ∧
          (p.call (e.at place)).2.unsited = (p.call e).2.unsited := by
  intro run run'
  have hrun := (start settings sink page).performAll_unsited cs
  have hrun' := (start settings sink page).performAll_unsited cs'
  rw [h, hrun', Prod.mk.injEq] at hrun
  exact ⟨hrun.1.symm, hrun.2.symm, fun p e place => p.call_place e place⟩

/-- An object is overrun and then freed twice, once with the places in the source and once without.
The runs end alike, with two requests to end the process. -/
theorem performAll_sites_overrun :
    let line : UInt32 → Option Site := fun n => some { tag := 1, source := some "a.c", line := n }
    let placed : List Command :=
      [.createPool, .register 1 4096 16 .heap (line 3),
        .checkAccess 1 4108 8 ⟨.complete, .write⟩ (line 4), .free 1 4096 (line 5),
        .free 1 4096 (line 6)]
    let unplaced : List Command :=
      [.createPool, .register 1 4096 16 .heap none,
        .checkAccess 1 4108 8 ⟨.complete, .write⟩ none, .free 1 4096 none, .free 1 4096 none]
    let run := (start { stopOnError := true } .standardError 4096).performAll placed
    let run' := (start { stopOnError := true } .standardError 4096).performAll unplaced
    run.1.map Answer.unsited = run'.1.map Answer.unsited ∧
      run.2.counters = run'.2.counters ∧
      run.2.alerts.terminations = run'.2.alerts.terminations ∧ run'.2.alerts.terminations = 2 := by
  intro line placed unplaced run run'
  have hplaces : placed.map Command.unsited = unplaced.map Command.unsited := rfl
  obtain ⟨hanswers, hmonitor, -⟩ :=
    performAll_sites { stopOnError := true } .standardError 4096 hplaces
  exact ⟨hanswers, congrArg (fun m => m.counters) hmonitor,
    congrArg (fun m => m.alerts.terminations) hmonitor, by rfl⟩

end Monitor

end MemorySentry
