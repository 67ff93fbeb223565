import MemorySentry.RunLog.Entry
import MemorySentry.RunLog.Timestamp

/-!
# Writing run logs

An emitter numbers the entries of one run. An entry that has an identifier already keeps it and
takes no number.
-/

namespace MemorySentry.RunLog

/-- What writes the entries of one run. -/
structure Emitter where
  /-- The run. -/
  runId : String
  /-- How many entries have been given a number. -/
  numbered : Nat := 0

namespace Emitter

/-- The identifier of a numbered entry. -/
def traceId (runId : String) (number : Nat) : String :=
  runId ++ "::" ++ padded 4 number

/-- Completes an entry, which is then written as one line. -/
def emit (w : Emitter) (e : Entry) : Entry × Emitter :=
  let (e, w) :=
    if e.traceId = "" then
      ({ e with traceId := traceId w.runId (w.numbered + 1) },
        { w with numbered := w.numbered + 1 })
    else (e, w)
  ({ e with runId := some (e.runId.getD w.runId) }, w)

end Emitter

/-- The text of a log with some entries. -/
def textOf (entries : List Entry) : String :=
  String.join (entries.map fun e => e.line ++ "\n")

end MemorySentry.RunLog
