import MemorySentry.AlertLog
import MemorySentry.Files.Error

/-!
# Operations on alert logs as data

A `Command` is one operation on a log with its arguments, among them whether a file could be opened.
An `Answer` is what it returns. A run is a list of commands.
-/

namespace MemorySentry.AlertLog

/-- An operation on a log. -/
inductive Command where
  | report (v : Violation)
  | redirect (sink : Sink)
  | redirectToFile (path : String) (opened : Except FileError Unit)
  /-- Pushes out what a sink holds back. -/
  | flush

/-- What an operation on a log returns. -/
inductive Answer where
  /-- The operation returns nothing. -/
  | done
  /-- Whether the program may go on. -/
  | decision (d : Decision)
  /-- Whether a file could be opened. -/
  | opened (r : Except FileError Unit)

/-- Carries out one operation on a log. No sink holds anything back, since every entry is pushed out
when it is written. -/
def perform (log : AlertLog) : Command → Answer × AlertLog
  | .report v =>
    let (d, log) := log.report v
    (.decision d, log)
  | .redirect sink => (.done, log.redirect sink)
  | .redirectToFile path opened =>
    let (r, log) := log.redirectToFile path opened
    (.opened r, log)
  | .flush => (.done, log)

/-- Carries out a run of operations and collects the answers. -/
def performAll (log : AlertLog) : List Command → List Answer × AlertLog
  | [] => ([], log)
  | c :: rest =>
    let (answer, log) := log.perform c
    let (answers, log) := performAll log rest
    (answer :: answers, log)

end MemorySentry.AlertLog
