import MemorySentry.Digest.Sha256
import MemorySentry.Monitor.Check
import MemorySentry.Monitor.Tracking
import MemorySentry.RunLog.Emitter
import MemorySentry.Trace.Reader
import MemorySentry.Violation.Json

/-!
# Replays

A replay performs the operations of a trace on a fresh monitor and writes a run log: an entry at the
start, one for each operation and one at the end. It stops at the operation that ends the run, and
it fails at an operation whose label is not what it has to be. The log tells how far it came.
-/

namespace MemorySentry.Trace

/-- Why a replay failed. -/
inductive ReplayError where
  /-- An operation is about a pool that is not there. -/
  | unknownPool (index : Nat) (label : Label)
  /-- A label is given to a second pool. -/
  | duplicatePool (index : Nat) (label : Label)
deriving DecidableEq

/-- The wording of a failed replay. -/
def ReplayError.message : ReplayError → String
  | .unknownPool index label =>
    "op " ++ toString index ++ ": pool '" ++ label ++ "' was never initialized"
  | .duplicatePool index label =>
    "op " ++ toString index ++ ": pool '" ++ label ++ "' is already initialized"

/-- A violation with the index of the operation that it was found in. -/
structure FoundViolation where
  index : Nat
  violation : Violation
deriving DecidableEq

/-- What came of a replay. -/
structure Summary where
  /-- The name of the trace. -/
  name : String
  /-- The number of operations in the trace. -/
  total : Nat
  /-- The number of operations that were performed. -/
  executed : Nat
  warnings : Nat
  faults : Nat
  /-- The index of the operation that ended the run early, if one did. -/
  terminatedAt : Option Nat
  /-- The violations in their order. -/
  violations : List FoundViolation
  /-- How often things happened. -/
  counters : Counters

namespace Replay

/-- A replay between two operations. -/
structure State where
  monitor : Monitor
  /-- The labels in use and their pools. -/
  pools : List (Label × PoolId) := []

/-- The replay of a trace before its first operation. What its monitor reports is not kept, and no
operation asks it for pages. -/
def State.start (o : Options) : State where
  monitor := .start o.settings .refusing Page.usualSize

/-- A result without its value. -/
def outcomeOf {α : Type} (r : Except Violation α) : Except Violation Unit :=
  r.map fun _ => ()

/-- Continues with a monitor. -/
def State.after {α : Type} (s : State) (r : Except Violation α × Monitor) :
    Except Violation Unit × State :=
  (outcomeOf r.1, { s with monitor := r.2 })

/-- Continues with a monitor after an operation that finds no violations. -/
def State.done {α : Type} (s : State) (r : α × Monitor) : Except Violation Unit × State :=
  (.ok (), { s with monitor := r.2 })

/-- The pool that a label names. -/
def State.pool (s : State) (index : Nat) (label : Label) : Except ReplayError PoolId :=
  match s.pools.lookup label with
  | some id => .ok id
  | none => .error (.unknownPool index label)

/-- The provenance of a pointer. -/
def provenance (complete : Bool) : Provenance :=
  if complete then .complete else .incomplete

/-- The access that is checked. -/
def access (write : Bool) : Access :=
  if write then .write else .read

/-- The place of an operation. -/
def siteOf (index : Nat) : Option Site :=
  some { tag := UInt32.ofNat index }

/-- Performs an operation. -/
def State.apply (s : State) (index : Nat) (op : Operation) :
    Except ReplayError (Except Violation Unit × State) := do
  let m := s.monitor
  let site := siteOf index
  match op with
  | .createPool label =>
    if (s.pools.lookup label).isSome then .error (.duplicatePool index label)
    else
      let (id, monitor) := m.createPool
      return (.ok (), { monitor, pools := (label, id) :: s.pools })
  | .destroyPool label =>
    let id ← s.pool index label
    return (.ok (),
      { monitor := (m.destroyPool id).2, pools := s.pools.filter fun e => e.1 ≠ label })
  | .register label a size kind =>
    return s.done (m.register (← s.pool index label) a size kind site)
  | .registerExternal a size => return s.done (m.registerExternal a size site)
  | .free label a => return s.after (m.free (← s.pool index label) a site)
  | .endScope label a => return s.done (m.endScope (← s.pool index label) a)
  | .move label new old size =>
    return s.after (m.move (← s.pool index label) new old size .heap site)
  | .checkAccess label a length complete write =>
    let mode : CheckMode := ⟨provenance complete, access write⟩
    return s.after (m.checkAccess (← s.pool index label) a length mode site)
  | .checkAlignment label a elementSize =>
    return s.after (m.checkAlignment (← s.pool index label) a elementSize site)
  | .checkArithmetic label source dest complete =>
    let mode : CheckMode := ⟨provenance complete, .read⟩
    return s.after (m.checkArithmetic (← s.pool index label) source dest mode site)
  | .checkDerived base pointer size => return s.after (m.checkDerived base pointer size site)
  | .checkDerivedAccess base pointer size length =>
    return s.after (m.checkDerivedAccess base pointer size length site)
  | .allocated label callee args returned stringLength =>
    let call : Call := ⟨callee, args, returned⟩
    return s.after (m.allocated (← s.pool index label) call (fun _ => stringLength) site)
  | .deallocated label callee args =>
    return s.after (m.deallocated (← s.pool index label) ⟨callee, args, 0⟩ site)

/-- What came of an operation, in the log. `terminated` says whether the run has been ended. -/
def outcome (terminated : Bool) : Except Violation Unit → RunLog.Outcome
  | .ok () => .pass
  | .error v => if terminated then .terminated else if v.isWarning then .warn else .fault

/-- How urgent an outcome is. -/
def level : RunLog.Outcome → RunLog.Level
  | .pass => .info
  | .warn => .warn
  | .fault => .error
  | .terminated => .fatal

/-- The entry of an operation. -/
def entryOf (timestamp : String) (index : Nat) (op : Operation) (terminated : Bool)
    (r : Except Violation Unit) : RunLog.Entry :=
  let outcome := outcome terminated r
  let e : RunLog.Entry :=
    { timestamp
      traceId := ""
      level := level outcome
      event := op.name
      opIndex := some (UInt64.ofNat index)
      pool := op.label?
      outcome := some outcome }
  match r with
  | .ok () => e
  | .error v => e.withViolation v.kind.symbol v.pointer

/-- The entry at the start. -/
def startEntry (timestamp : String) (t : Trace) : RunLog.Entry where
  timestamp
  traceId := ""
  level := .info
  event := "replay_start"
  details := some (.object [("name", .string t.name), ("ops", .nat t.operations.length)])

/-- The entry at the end. -/
def endEntry (timestamp : String) (s : Summary) : RunLog.Entry where
  timestamp
  traceId := ""
  level := .info
  event := "replay_end"
  details := some (.object [("faults", .nat s.faults), ("ops_executed", .nat s.executed),
    ("terminated", .bool s.terminatedAt.isSome), ("warnings", .nat s.warnings)])

/-- What the operations of a trace led to. -/
structure Course where
  /-- The entries in the log, in order. -/
  entries : List RunLog.Entry := []
  /-- The violations, in order. -/
  violations : List FoundViolation := []
  /-- The number of operations that were performed. -/
  executed : Nat := 0
  /-- The index of the operation that ended the run early. -/
  terminatedAt : Option Nat := none
  /-- The state at the end, or why there is none. -/
  final : Except ReplayError State

/-- Performs operations, of which the first one has the given index, until one of them ends the run
or fails. `clock` gives the time stamp of the entry of each operation. -/
def run (clock : Nat → String) (s : State) (index : Nat) : List Operation → Course
  | [] => { executed := index, final := .ok s }
  | op :: rest =>
    match s.apply index op with
    | .error e => { executed := index, final := .error e }
    | .ok (r, s) =>
      let terminated := s.monitor.alerts.terminated
      let entry := entryOf (clock index) index op terminated r
      let found := match r with
        | .ok () => []
        | .error v => [⟨index, v⟩]
      if outcome terminated r = .terminated then
        { entries := [entry]
          violations := found
          executed := index + 1
          terminatedAt := some index
          final := .ok s }
      else
        let c := run clock s (index + 1) rest
        { c with entries := entry :: c.entries, violations := found ++ c.violations }

/-- The summary of operations that led somewhere. -/
def Course.summary (c : Course) (t : Trace) (s : State) : Summary where
  name := t.name
  total := t.operations.length
  executed := c.executed
  warnings := s.monitor.alerts.warnings
  faults := s.monitor.alerts.faults
  terminatedAt := c.terminatedAt
  violations := c.violations
  counters := s.monitor.counters

/-- Completes the entries of a run one after another. -/
def emitAll (w : RunLog.Emitter) : List RunLog.Entry → List RunLog.Entry
  | [] => []
  | e :: rest =>
    let (e, w) := w.emit e
    e :: emitAll w rest

end Replay

/-- Replays a trace. Gives the entries of the log, and the summary or why there is none. `clock`
gives the time stamps of the entries, the one at the start having number zero. -/
def replay (t : Trace) (runId : String) (clock : Nat → String) :
    List RunLog.Entry × Except ReplayError Summary :=
  let c := Replay.run (fun index => clock (index + 1)) (.start t.options) 0 t.operations
  let entries := Replay.startEntry (clock 0) t :: c.entries
  match c.final with
  | .error e => (Replay.emitAll { runId } entries, .error e)
  | .ok s =>
    let summary := c.summary t s
    let entries := entries ++ [Replay.endEntry (clock (c.executed + 1)) summary]
    (Replay.emitAll { runId } entries, .ok summary)

/-- The name of the replay of a trace whose text has a digest. -/
def runId (name digest : String) : String :=
  name ++ "-" ++ String.ofList (digest.toList.take 12)

end MemorySentry.Trace
