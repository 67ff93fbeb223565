import MemorySentry.Monitor.Json
import MemorySentry.Trace.Replay

/-!
# Summaries as JSON

The summary of a replay, with the digest of the text of its trace.
-/

namespace MemorySentry.Trace

/-- A violation in a summary. -/
def FoundViolation.toJson (f : FoundViolation) : Json :=
  .object [("op_index", .nat f.index), ("symbol", .string f.violation.kind.symbol),
    ("record", f.violation.toJson)]

/-- A summary as JSON. -/
def Summary.toJson (s : Summary) (digest : String) : Json :=
  .object ([("name", .string s.name), ("trace_sha256", .string digest),
      ("ops_total", .nat s.total), ("ops_executed", .nat s.executed),
      ("warnings", .nat s.warnings), ("faults", .nat s.faults),
      ("terminated", .bool s.terminatedAt.isSome)] ++
    (s.terminatedAt.map fun index => ("terminated_at", Json.nat index)).toList ++
    [("violations", .array (s.violations.map FoundViolation.toJson)),
      ("metrics", s.counters.toJson)])

end MemorySentry.Trace
