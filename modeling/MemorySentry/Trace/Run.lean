import MemorySentry.Text.Utf8
import MemorySentry.Trace.Summary

/-!
# Replays of trace files

A replay of the text of a trace. The run takes its name from the trace and from the digest of its
text, so that logs of different traces can be told apart.
-/

namespace MemorySentry.Trace

/-- A replay of the text of a trace. -/
structure Run where
  /-- The digest of the text. -/
  digest : String
  /-- The entries of the log. -/
  entries : List RunLog.Entry
  /-- The summary, or why there is none. -/
  result : Except ReplayError Summary

/-- Replays the text of a trace, unless it is no trace. -/
def runOf (bytes : List UInt8) (clock : Nat → String) : Except Json.ReadError Run := do
  let t ← read (Text.Utf8.symbols bytes)
  let digest := Sha256.hexDigest bytes
  let (entries, result) := t.replay (runId t.name digest) clock
  return { digest, entries, result }

/-- The text of the log of a replay. -/
def Run.logText (r : Run) : String :=
  RunLog.textOf r.entries

end MemorySentry.Trace
