import MemorySentry.Files.Delivery
import MemorySentry.Monitor.Command
import MemorySentry.Page.AddressSpace
import MemorySentry.Program.Memory

/-!
# Watched programs

An instrumented program has one monitor, made from the settings in its environment when it is first
needed, and it keeps the numbers of its pools in descriptors of its own. Alerts go to the standard
error stream or to a file, and a fault that ends the run aborts the program.
-/

namespace MemorySentry

/-- Where a program finds what it did not place itself. -/
structure ProgramLayout where
  /-- Where its environment starts. -/
  environment : Address := 0x7ffd00000000
  /-- Where the vector of its environment is. -/
  vector : Address := 0x7ffc00000000
  /-- Where the number of the last error is. -/
  lastError : Address := 0x7ffb00000000

/-- A layout away from named addresses: the environment on the stack, the number of the last error
above the mappings. -/
def ProgramLayout.apartFrom (named : List Nat) : ProgramLayout :=
  let stack := AddressSpace.apartFrom named (1 <<< 24) 0x7fffe0000000
  { environment := UInt64.ofNat stack
    vector := UInt64.ofNat (stack - 1 <<< 22)
    lastError := UInt64.ofNat (AddressSpace.topFrom named + 1 <<< 22) }

/-- An instrumented program. -/
structure Program where
  /-- The variables in its environment with their values. -/
  environment : List (String × String) := []
  /-- Where it finds what it did not place itself. -/
  layout : ProgramLayout := {}
  /-- What it has written. -/
  written : Written := {}
  /-- Its memory. -/
  memory : Memory := .blank
  /-- The mappings of its address space. -/
  addressSpace : AddressSpace := {}
  /-- The numbers of its pools, zero where there is none. -/
  descriptors : List PoolId := []
  /-- Its monitor, once there is one. -/
  monitor? : Option Monitor := none
  /-- Whether it has been aborted. -/
  aborted : Bool := false

namespace Program

/-- The number of a pool in a descriptor. -/
def descriptor (p : Program) (i : Nat) : PoolId :=
  p.descriptors.getD i 0

/-- Changes the number in a descriptor. -/
def setDescriptor (p : Program) (i : Nat) (id : PoolId) : Program :=
  { p with descriptors := p.descriptors.set i id }

/-- Writes a text on the standard error stream. -/
def complain (p : Program) (text : String) : Program :=
  { p with written := p.written.complain ("poolguard: " ++ text ++ "\n") }

/-- Ends the program in the middle of a call. -/
def abort (p : Program) : Program :=
  { p with aborted := true }

/-- The settings in the environment. If one of them makes no sense, all are standard. -/
def settings (p : Program) : Settings × Program :=
  match Settings.ofLookup fun name => p.environment.lookup name with
  | .ok s => (s, p)
  | .error e => ({}, p.complain (e.message ++ "; using default configuration"))

/-- Makes a monitor. If its log cannot be opened, alerts go to the standard error stream. -/
def makeMonitor (p : Program) (s : Settings) : Monitor × Program :=
  match s.logPath with
  | none => (.start s .standardError p.addressSpace.pageSize, p)
  | some path =>
    match p.written.openFile path with
    | .ok written => (.start s (.file path) p.addressSpace.pageSize, { p with written })
    | .error e =>
      (.start { s with logPath := none } .standardError p.addressSpace.pageSize,
        p.complain ("cannot open log file: " ++ e.message ++ "; reporting to stderr"))

/-- The monitor of the program, which is made if there is none yet. -/
def monitor (p : Program) : Monitor × Program :=
  match p.monitor? with
  | some m => (m, p)
  | none =>
    let (s, p) := p.settings
    let (m, p) := p.makeMonitor s
    (m, { p with monitor? := some m })

/-- The program after its monitor has changed. New alerts are delivered, and if one of them ends the
run the program is aborted. -/
def afterMonitor (p : Program) (before after : Monitor) : Program :=
  { p with
    monitor? := some after
    written := p.written.deliver after.alerts.format
      (after.alerts.entries.drop before.alerts.entries.length)
    aborted := p.aborted || before.alerts.terminations < after.alerts.terminations }

/-- Lets the monitor carry out an operation. -/
def perform (p : Program) (c : Monitor.Command) : Monitor.Answer × Program :=
  let (m, p) := p.monitor
  let (answer, after) := m.perform c
  (answer, p.afterMonitor m after)

end Program

end MemorySentry
