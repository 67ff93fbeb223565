import MemorySentry.Proofs.Program.Calls
import MemorySentry.Proofs.Program.Startup

/-!
# The monitor of a program on its thread

`Startup.State` says step by step how the monitor of a program comes into being on a thread,
whatever calls come from within others. `Program.monitor` and `Program.configure` say what comes of
it when none do. This module relates the two: each call of a program takes its thread through a few
steps at one go (`Program.events`), and afterwards the program has a monitor exactly if the thread
has one in place, with the settings from which that one was made (`Stands.callAll`).

What holds of every thread then holds of programs: once there is a monitor, calls never replace it
by one with other settings (`settings?_callAll`).
-/

namespace MemorySentry

namespace Startup

variable {s : State}

/-- The events of two runs happen one after the other. -/
theorem State.run_append (s : State) (es es' : List Event) :
    s.run (es ++ es') = (s.run es).run es' := by
  induction es generalizing s with
  | nil => rfl
  | cons e rest ih => exact ih (s.step e).2

/-- The number of monitors that were begun only grows. -/
theorem State.made_le_run (s : State) (es : List Event) : s.made ≤ (s.run es).made := by
  induction es generalizing s with
  | nil => exact Nat.le_refl _
  | cons e rest ih =>
    refine Nat.le_trans ?_ (ih (s.step e).2)
    have hcases := s.step_becomes e
    generalize (s.step e).2 = s' at hcases ⊢
    cases hcases with
    | begun => exact Nat.le_succ _
    | same | givenUp | placing | installed => exact Nat.le_refl _

/-- A call that nothing interrupts and that finds no monitor puts one in place. -/
theorem run_ask_of_absent (hframes : s.frames = []) (hphase : s.phase = .absent) :
    s.run [.ask, .proceed, .proceed] =
      { s with phase := .ready, monitor := some s.made, made := s.made + 1 } := by
  simp [State.run, State.step, State.begin, hphase, hframes]

/-- A call that asks for the monitor in place makes none. -/
theorem run_ask_of_ready (hframes : s.frames = []) (hphase : s.phase = .ready) :
    s.run [.ask, .proceed, .proceed] = s := by
  simp [State.run, State.step, hphase, hframes]

/-- While nothing is in place, a program that makes a monitor of its own gets it. -/
theorem run_configure_of_absent (hframes : s.frames = []) (hphase : s.phase = .absent) :
    s.run [.configure, .proceed, .proceed] =
      { s with phase := .ready, monitor := some s.made, made := s.made + 1 } := by
  simp [State.run, State.step, State.begin, hphase, hframes]

/-- A monitor that a program makes beside the one in place is given up. -/
theorem run_configure_of_ready (hframes : s.frames = []) (hphase : s.phase = .ready) :
    s.run [.configure, .proceed, .proceed] = { s with made := s.made + 1 } := by
  simp [State.run, State.step, State.begin, hphase, hframes]

/-- Between calls no monitor is half in place. -/
theorem Reachable.phase_of_frames (h : Reachable s) (hframes : s.frames = []) :
    s.phase = if s.monitor.isSome then .ready else .absent := by
  have hplacing := h.sound.placing
  have hready := h.sound.ready_iff
  rw [hframes] at hplacing
  rcases hphase : s.phase with _ | _ | _
  · rw [if_neg fun hsome => by rw [hready.mpr hsome] at hphase; cases hphase]
  · rw [if_pos hphase] at hplacing
    cases hplacing
  · rw [if_pos (hready.mp hphase)]

end Startup

/-- To map memory a second time does not change how the program is watched. -/
theorem Monitor.settings_shadow {σ : Type} (m : Monitor)
    (remap : Page.Request → σ → Except Errno Address × σ) (os : σ) (a : Address)
    (length : ByteCount) : (m.shadow remap os a length).2.1.settings = m.settings := by
  unfold Monitor.shadow
  split
  · rfl
  · split
    · rfl
    · simp only
      split <;> rfl

namespace Program

open Startup (MonitorId Reachable)

variable {p p' p'' : Program}

/-- The settings of the monitor, if there is one. -/
def settings? (p : Program) : Option Settings :=
  p.monitor?.map Monitor.settings

/-! ### What calls do to the settings -/

/-- A program has afterwards the monitor that it had or made, as far as the settings go. -/
def Settles (p p' : Program) : Prop :=
  p'.settings? = some p.monitor.1.settings

namespace Settles

/-- A monitor that a program would make later has the same settings. -/
theorem settings_monitor (h : p.Settles p') : p'.monitor.1.settings = p.monitor.1.settings := by
  obtain ⟨m, hm, hsettings⟩ := Option.map_eq_some_iff.mp h
  rw [monitor_of_some hm, hsettings]

/-- What comes before need not make a monitor. -/
theorem after (h : p'.Settles p'') (hbefore : p'.monitor.1.settings = p.monitor.1.settings) :
    p.Settles p'' :=
  Eq.trans h (congrArg some hbefore)

/-- What settles twice is settled. -/
theorem trans (h : p.Settles p') (h' : p'.Settles p'') : p.Settles p'' :=
  h'.after h.settings_monitor

/-- Asking for the monitor settles it. -/
theorem monitor (p : Program) : p.Settles p.monitor.2 := by
  rw [Settles, settings?, monitor?_monitor, Option.map_some]

/-- Commands leave the settings of the monitor as they are. -/
theorem perform (p : Program) (c : Monitor.Command) : p.Settles (p.perform c).2 := by
  rw [Settles, settings?, monitor?_perform, Option.map_some, (Monitor.perform_settings _ c).1]

/-- The monitor may be changed apart from its settings. -/
theorem withMonitor (h : p.Settles p') {m m' : Monitor} (hm : p'.monitor? = some m)
    (hm' : p''.monitor? = some m') (hsettings : m'.settings = m.settings) : p.Settles p'' := by
  rw [Settles, settings?, hm', Option.map_some, hsettings, ← h, settings?, hm, Option.map_some]

/-- Descriptors have nothing to do with the settings. -/
theorem setDescriptor (h : p.Settles p') (i : Nat) (id : PoolId) :
    p.Settles (p'.setDescriptor i id) :=
  h

end Settles

/-- A call on a pool leaves the settings as they are. -/
theorem settles_performIn (p : Program) (pool : Option Nat) (c : PoolId → Monitor.Command) :
    p.Settles (p.performIn pool c) := by
  rw [performIn_eq]
  cases p.named? pool with
  | none => exact .monitor p
  | some id => exact .perform p (c id)

/-- Registering an external object leaves the settings as they are. -/
theorem settles_registerOutside (p : Program) (a : Address) (size : ByteCount) :
    p.Settles (p.registerOutside a size) :=
  .perform p _

/-- The settings are the same before and after an external object is registered. -/
theorem settings_registerOutside (p : Program) (a : Address) (size : ByteCount) :
    (p.registerOutside a size).monitor.1.settings = p.monitor.1.settings :=
  (p.settles_registerOutside a size).settings_monitor

/-- The settings are the same before and after the strings of a vector are registered. -/
theorem settings_registerStrings (p : Program) (vector : Address) (count : Nat) :
    (p.registerStrings vector count).monitor.1.settings = p.monitor.1.settings := by
  induction count generalizing p vector with
  | zero => rfl
  | succ count ih =>
    rw [registerStrings, ih]
    -- the first string, if there is one
    split
    · rfl
    · rfl
    · rw [settings_registerOutside]

/-- The settings are the same before and after variables are registered. -/
theorem settings_registerVariables (p : Program) (vs : List (String × Address × ByteCount)) :
    (vs.foldl (fun p v => p.registerOutside v.2.1 v.2.2) p).monitor.1.settings =
      p.monitor.1.settings := by
  induction vs generalizing p with
  | nil => rfl
  | cons v rest ih => exact (ih _).trans (p.settings_registerOutside v.2.1 v.2.2)

/-- Registering the arguments of a program leaves the settings as they are. -/
theorem settles_registerArguments (p : Program) (count : Int) (vector : Address) :
    p.Settles (p.registerArguments count vector) := by
  have henvironment (p : Program) : p.Settles p.registerEnvironment :=
    (settles_registerOutside _ _ _).after (p.settings_registerVariables _)
  unfold registerArguments
  refine ((henvironment _).trans (settles_registerOutside _ _ _)).after ?_
  split
  · rfl
  · exact (settings_registerOutside _ _ _).trans (p.settings_registerStrings vector count.toNat)

/-- A new log file leaves the settings as they are. -/
theorem settles_setLogFile (p : Program) (name : String) : p.Settles (p.setLogFile name) := by
  have hsettles : p.Settles p.monitor.2 := .monitor p
  have hm := p.monitor?_monitor
  unfold setLogFile
  rcases hp : p.monitor with ⟨m, p'⟩
  rw [hp] at hsettles hm
  simp only
  cases p'.written.openFile name with
  | ok written => exact hsettles.withMonitor hm rfl rfl
  | error e => exact hsettles.withMonitor hm hm rfl

/-- Making shadow pages leaves the settings as they are. -/
theorem settles_shadow (p : Program) (a : Address) (size : ByteCount) :
    p.Settles (p.shadow a size).2 := by
  have hsettles : p.Settles p.monitor.2 := .monitor p
  have hm := p.monitor?_monitor
  unfold shadow
  rcases hp : p.monitor with ⟨m, p'⟩
  rw [hp] at hsettles hm
  have hsettings := m.settings_shadow AddressSpace.remap p'.addressSpace a size
  simp only
  split <;> exact hsettles.withMonitor hm rfl hsettings

/-- Giving shadow pages back leaves the settings as they are. -/
theorem settles_unshadow (p : Program) (a : Address) : p.Settles (p.unshadow a) := by
  have hsettles : p.Settles p.monitor.2 := .monitor p
  have hm := p.monitor?_monitor
  unfold unshadow
  rcases hp : p.monitor with ⟨m, p'⟩
  rw [hp] at hsettles hm
  have hsettings : (m.unshadow p'.addressSpace.protect a).2.settings = m.settings :=
    (m.perform_settings (.unshadow p'.addressSpace.protect a)).1
  simp only
  split <;> exact hsettles.withMonitor hm rfl hsettings

/-- Settings of the program itself count only if there is no monitor yet. -/
theorem settings?_configure (p : Program) (dangling terminate : Nat) :
    ∃ settings, (p.configure dangling terminate).settings? =
      some (p.settings?.getD settings) := by
  obtain ⟨settings, sink, written, heq⟩ := p.configure_eq dangling terminate
  refine ⟨settings, ?_⟩
  rw [heq, settings?, settings?, Option.map_some]
  cases p.monitor? with
  | none => rfl
  | some m => rfl

/-! ### What calls do on the thread -/

/-- What the thread does in a call that nothing interrupts. Calls without an effect do not ask for
the monitor. -/
def EntryPoint.events : EntryPoint → List Startup.Event
  | .finish | .setLogFile none | .createPool none => []
  | .configure .. => [.configure, .proceed, .proceed]
  | _ => [.ask, .proceed, .proceed]

/-- What the thread does in a call, which is nothing in a program that was aborted. -/
def events (p : Program) (e : EntryPoint) : List Startup.Event :=
  if p.aborted then [] else e.events

/-- What the thread does in calls that come one after another. -/
def eventsAll (p : Program) : List EntryPoint → List Startup.Event
  | [] => []
  | e :: rest => p.events e ++ (p.call e).2.eventsAll rest

/-- Every entry point that asks for the monitor leaves the settings as they are. -/
theorem settles_carryOut (p : Program) {e : EntryPoint}
    (he : e.events = [.ask, .proceed, .proceed]) : p.Settles (p.carryOut e).2 := by
  cases e with
  -- these do not ask for the monitor, or ask for it in another way
  | configure | finish => cases he
  | createPool pool =>
    cases pool with
    | none => cases he
    | some i =>
      rw [carryOut_createPool]
      exact (Settles.perform p .createPool).setDescriptor i _
  | destroyPool pool =>
    cases pool with
    | none =>
      simp only [carryOut, resolve_eq]
      exact .monitor p
    | some i =>
      rw [carryOut_destroyPool]
      by_cases hzero : p.descriptor i = 0
      · simp only [if_pos hzero]
        exact .monitor p
      · simp only [if_neg hzero]
        exact (Settles.perform p _).setDescriptor i 0
  | setLogFile name =>
    cases name with
    | none => cases he
    | some name =>
      rw [carryOut]
      exact p.settles_setLogFile _
  | register pool | free pool | endScope pool | move pool | checkAccess pool | checkAlignment pool
  | checkArithmetic pool | checkString pool =>
    simp only [carryOut]
    exact p.settles_performIn pool _
  | registerExternal a size =>
    simp only [carryOut]
    exact p.settles_registerOutside a size
  | registerArguments count vector =>
    simp only [carryOut]
    exact p.settles_registerArguments count vector
  | checkDerived | checkDerivedAccess | checkCall =>
    simp only [carryOut]
    exact .perform p _
  | shadow a size =>
    simp only [carryOut]
    exact p.settles_shadow a size
  | unshadow a =>
    simp only [carryOut]
    exact p.settles_unshadow a
  | allocated pool callee | deallocated pool callee =>
    rw [carryOut]
    split
    · rw [resolve_eq]
      exact .monitor p
    · exact p.settles_performIn pool _

/-- An entry point does nothing, configures the program, or asks for the monitor once. -/
theorem EntryPoint.events_cases (e : EntryPoint) :
    (e.events = [] ∧ ∀ p : Program, (p.carryOut e).2 = p) ∨
      (∃ dangling terminate, e = .configure dangling terminate) ∨
      e.events = [.ask, .proceed, .proceed] := by
  cases e with
  | configure dangling terminate => exact .inr (.inl ⟨dangling, terminate, rfl⟩)
  | finish => exact .inl ⟨rfl, fun _ => rfl⟩
  | setLogFile name =>
    cases name with
    | none => exact .inl ⟨rfl, fun _ => rfl⟩
    | some name => exact .inr (.inr rfl)
  | createPool pool =>
    cases pool with
    | none => exact .inl ⟨rfl, fun _ => rfl⟩
    | some i => exact .inr (.inr rfl)
  | _ => exact .inr (.inr rfl)

/-- On the thread no call is under way, and the program has the monitor that is in place. It was
made from the settings that it has. -/
structure Stands (p : Program) (s : Startup.State) (made : MonitorId → Settings) : Prop where
  reachable : Reachable s
  frames : s.frames = []
  settings : p.settings? = s.monitor.map made

namespace Stands

variable {s : Startup.State} {made : MonitorId → Settings}

/-- At first there is no monitor. -/
theorem start (h : p.monitor? = none) : p.Stands {} made where
  reachable := .start
  frames := rfl
  settings := by rw [settings?, h]; rfl

/-- The thread does what a call does that finds a monitor or gets one. -/
theorem settled (h : p.Stands s made) {es : List Startup.Event}
    (hready : s.phase = .ready → ∃ n, s.run es = { s with made := n })
    (habsent : s.phase = .absent → s.run es =
      { s with phase := .ready, monitor := some s.made, made := s.made + 1 })
    (hkept : ∀ settings, p.settings? = some settings → p'.settings? = some settings)
    (hsome : p'.settings?.isSome = true) :
    ∃ made', (∀ id < s.made, made' id = made id) ∧ p'.Stands (s.run es) made' := by
  have hphase := h.reachable.phase_of_frames h.frames
  obtain ⟨settings, hsettings⟩ := Option.isSome_iff_exists.mp hsome
  cases hmonitor : s.monitor with
  | some id =>
    rw [hmonitor] at hphase
    obtain ⟨n, hrun⟩ := hready hphase
    refine ⟨made, fun _ _ => rfl, ⟨h.reachable.run es, ?_, ?_⟩⟩
    · rw [hrun]
      exact h.frames
    · have hold := h.settings
      rw [hrun]
      rw [hmonitor, Option.map_some] at hold ⊢
      exact hkept _ hold
  | none =>
    rw [hmonitor] at hphase
    have hrun := habsent hphase
    -- the settings of the new monitor are remembered
    refine ⟨fun id => if id = s.made then settings else made id, fun id hid => if_neg hid.ne,
      ⟨h.reachable.run es, ?_, ?_⟩⟩
    · rw [hrun]
      exact h.frames
    · rw [hrun, hsettings, Option.map_some, if_pos rfl]

/-- What a call does in the program, its events do on the thread. Monitors that were made before
keep the settings that they were made from. -/
theorem call (h : p.Stands s made) (e : EntryPoint) :
    ∃ made', (∀ id < s.made, made' id = made id) ∧
      (p.call e).2.Stands (s.run (p.events e)) made' := by
  unfold Program.call events
  split
  · exact ⟨made, fun _ _ => rfl, h⟩
  rcases e.events_cases with ⟨hevents, hsame⟩ | ⟨dangling, terminate, rfl⟩ | hevents
  · rw [hevents, hsame p]
    exact ⟨made, fun _ _ => rfl, h⟩
  · -- a monitor that there is already wins
    obtain ⟨settings, hconfigure⟩ := p.settings?_configure dangling terminate
    refine h.settled (fun hphase => ⟨_, Startup.run_configure_of_ready h.frames hphase⟩)
      (Startup.run_configure_of_absent h.frames) (fun settings' hsettings => ?_) ?_
    · show (p.configure dangling terminate).settings? = some settings'
      rw [hconfigure, hsettings, Option.getD_some]
    · show (p.configure dangling terminate).settings?.isSome = true
      rw [hconfigure, Option.isSome_some]
  · have hsettles : p.Settles (p.carryOut e).2 := p.settles_carryOut hevents
    rw [hevents]
    refine h.settled (fun hphase => ⟨s.made, Startup.run_ask_of_ready h.frames hphase⟩)
      (Startup.run_ask_of_absent h.frames) (fun settings hsettings => ?_) ?_
    · obtain ⟨m, hm, rfl⟩ := Option.map_eq_some_iff.mp hsettings
      rw [hsettles, monitor_of_some hm]
    · rw [hsettles, Option.isSome_some]

/-- What a program does in calls that come one after another, their events do on the thread. -/
theorem callAll (h : p.Stands s made) (es : List EntryPoint) :
    ∃ made', (∀ id < s.made, made' id = made id) ∧
      (p.callAll es).Stands (s.run (p.eventsAll es)) made' := by
  induction es generalizing p s made with
  | nil => exact ⟨made, fun _ _ => rfl, h⟩
  | cons e rest ih =>
    obtain ⟨made', hmade', hcall⟩ := h.call e
    obtain ⟨made'', hmade'', hrest⟩ := ih hcall
    refine ⟨made'', fun id hid => ?_, ?_⟩
    · exact (hmade'' id (Nat.lt_of_lt_of_le hid (s.made_le_run _))).trans (hmade' id hid)
    · rw [eventsAll, Startup.State.run_append]
      exact hrest

end Stands

/-- A program that starts without a monitor has one exactly if there is one in place on its
thread. -/
theorem settings?_isSome_callAll (h : p.monitor? = none) (es : List EntryPoint) :
    (p.callAll es).settings?.isSome =
      (({} : Startup.State).run (p.eventsAll es)).monitor.isSome := by
  have hstands : p.Stands {} fun _ => {} := Stands.start h
  obtain ⟨made, -, hend⟩ := hstands.callAll es
  rw [hend.settings, Option.isSome_map]

/-- A monitor is never replaced by one with other settings. -/
theorem settings?_callAll {settings : Settings} (h : p.settings? = some settings)
    (es : List EntryPoint) : (p.callAll es).settings? = some settings := by
  -- a thread that could have brought the program to where it is
  have hstands : p.Stands (({} : Startup.State).run [.ask, .proceed, .proceed])
      fun _ => settings := ⟨Reachable.start.run _, rfl, h⟩
  obtain ⟨made, hmade, hend⟩ := hstands.callAll es
  have hmonitor := hstands.reachable.run_monitor rfl (p.eventsAll es)
  rw [hend.settings, hmonitor, Option.map_some, hmade 0 (by decide)]

end Program

end MemorySentry
