/-!
# Coming into being of the monitor of a program

A program has one monitor, which is made when it is first needed. Making it takes memory, and in an
instrumented program taking memory may ask for the monitor again, on the same thread. This is a
model of that thread: the calls that are under way, the innermost first, and what they have got to.

`Program.monitor` and `Program.configure` say what comes of it when no call comes from within
another.
-/

namespace MemorySentry.Startup

/-- How far the monitor of the program has come. -/
inductive Phase where
  /-- No monitor has been put in place yet. -/
  | absent
  /-- A monitor is being put in place. -/
  | installing
  /-- The monitor is in place. -/
  | ready
deriving DecidableEq

/-- The number of a monitor, in the order in which they are made. -/
abbrev MonitorId := Nat

/-- What a call is doing that is under way. -/
inductive Frame where
  /-- It makes a monitor from the settings of the environment. -/
  | making (id : MonitorId)
  /-- It puts a monitor in place. -/
  | placing (id : MonitorId)
deriving DecidableEq

/-- The state of the thread. -/
structure State where
  phase : Phase := .absent
  /-- The monitor in place. -/
  monitor : Option MonitorId := none
  /-- The calls under way, the innermost first. -/
  frames : List Frame := []
  /-- The number of monitors that were begun. -/
  made : Nat := 0
deriving DecidableEq

/-- What can happen next. -/
inductive Event where
  /-- An entry point asks for the monitor of the program. -/
  | ask
  /-- The program asks for a monitor with settings of its own. -/
  | configure
  /-- The innermost call goes on. -/
  | proceed
deriving DecidableEq

/-- What a call gives back. -/
inductive Reply where
  /-- It is still under way. -/
  | pending
  /-- There is no monitor for the time being. -/
  | absent
  /-- The monitor in place. -/
  | monitor (id : Option MonitorId)
deriving DecidableEq

/-- Begins to make a monitor. -/
def State.begin (s : State) : Reply × State :=
  (.pending, { s with frames := .making s.made :: s.frames, made := s.made + 1 })

/-- Lets an event happen. A monitor that was made is put in place only if none has been before;
otherwise it is given up. -/
def State.step (s : State) : Event → Reply × State
  | .ask =>
    match s.phase with
    | .ready => (.monitor s.monitor, s)
    | .installing => (.absent, s)
    | .absent => s.begin
  | .configure => s.begin
  | .proceed =>
    match s.frames with
    | [] => (.absent, s)
    | .making id :: frames =>
      if s.phase = .absent then
        (.pending, { s with phase := .installing, frames := .placing id :: frames })
      else (if s.phase = .ready then .monitor s.monitor else .absent, { s with frames })
    | .placing id :: frames =>
      (.monitor (some id), { s with phase := .ready, monitor := some id, frames })

/-- Lets events happen one after another. -/
def State.run (s : State) : List Event → State
  | [] => s
  | e :: rest => (s.step e).2.run rest

/-- The states that a thread can come to. -/
inductive Reachable : State → Prop where
  | start : Reachable {}
  | step {s : State} (e : Event) : Reachable s → Reachable (s.step e).2

end MemorySentry.Startup
