import MemorySentry.Settings
import MemorySentry.Violation.Alert
import MemorySentry.Violation.Json

/-!
# The log of alerts

Every violation is written to the log at once. Warnings go no further. A fault uses up one unit of
the error budget, and it ends the process if the log was told to stop at the first fault or if the
budget is used up with it. What ends the process is not the log's own affair: it counts how often it
asked for the end and goes on if nothing came of it.
-/

namespace MemorySentry

/-- Where alerts are written. -/
inductive Sink where
  /-- The standard error stream. -/
  | standardError
  /-- A file, at its end. -/
  | file (path : String)
  /-- A buffer in memory. -/
  | buffer (number : Nat)
  /-- A sink that accepts nothing. -/
  | refusing
deriving DecidableEq

/-- Whether a sink keeps what is written to it. -/
def Sink.accepts : Sink → Bool
  | .refusing => false
  | _ => true

/-- The text of a violation in a format. -/
def AlertFormat.render : AlertFormat → Violation → String
  | .text, v => v.alert
  | .jsonl, v => v.jsonLine

/-- Whether the program may go on after an alert. -/
inductive Decision where
  | proceed
  | terminate
deriving DecidableEq

/-- The log of alerts and the policy on when a process has to end. -/
structure AlertLog where
  /-- How alerts are written. -/
  format : AlertFormat
  /-- Whether the first fault ends the process. -/
  stopOnError : Bool
  /-- The number of the fault that ends the process at the latest. -/
  budget : Nat
  /-- What is left of the budget. -/
  remaining : Nat
  /-- Whether a fault has ended the process. -/
  terminated : Bool := false
  /-- How often the process was asked to end. -/
  terminations : Nat := 0
  /-- The number of warnings. -/
  warnings : Nat := 0
  /-- The number of faults. -/
  faults : Nat := 0
  /-- Where alerts are written at present. -/
  sink : Sink
  /-- All violations that were reported and the sink of each, in their order. -/
  entries : List (Sink × Violation) := []

namespace AlertLog

/-- A log without alerts. A budget of zero counts as one. -/
def start (sink : Sink) (stopOnError : Bool) (budget : Nat) (format : AlertFormat) : AlertLog where
  format
  stopOnError
  budget := max budget 1
  remaining := max budget 1
  sink

/-- Writes a violation and decides whether the program may go on. -/
def report (log : AlertLog) (v : Violation) : Decision × AlertLog :=
  let log := { log with entries := log.entries ++ [(log.sink, v)] }
  if v.isWarning then (.proceed, { log with warnings := log.warnings + 1 })
  else
    let exhausted := log.remaining ≤ 1
    let log := { log with faults := log.faults + 1, remaining := log.remaining - 1 }
    if log.stopOnError || exhausted then
      (.terminate, { log with terminated := true, terminations := log.terminations + 1 })
    else (.proceed, log)

/-- Writes later alerts to another sink. -/
def redirect (log : AlertLog) (sink : Sink) : AlertLog :=
  { log with sink }

/-- Writes later alerts to a file, unless it cannot be opened. -/
def redirectToFile {ε : Type} (log : AlertLog) (path : String) (opened : Except ε Unit) :
    Except ε Unit × AlertLog :=
  match opened with
  | .ok () => (.ok (), log.redirect (.file path))
  | .error e => (.error e, log)

/-- The text that entries left in a sink. -/
def textOf (format : AlertFormat) (sink : Sink) (entries : List (Sink × Violation)) : String :=
  String.join ((entries.filter fun e => e.1 == sink && e.1.accepts).map fun e => format.render e.2)

/-- The text that the log left in a sink. -/
def textIn (log : AlertLog) (sink : Sink) : String :=
  textOf log.format sink log.entries

end AlertLog

end MemorySentry
