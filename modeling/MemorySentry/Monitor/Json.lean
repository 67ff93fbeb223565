import MemorySentry.Json.Printer
import MemorySentry.Monitor.Basic

/-!
# Counters as JSON

How often things happened, for summaries.
-/

namespace MemorySentry.Counters

/-- The number of violations of either sort. -/
def violations (c : Counters) : Nat :=
  c.warnings + c.faults

/-- How often things happened, as JSON. -/
def toJson (c : Counters) : Json :=
  .object [("pools_created", .nat c.poolsCreated), ("pools_destroyed", .nat c.poolsDestroyed),
    ("registrations", .nat c.registrations), ("unregistrations", .nat c.unregistrations),
    ("checks", .nat c.checks), ("incomplete_passes", .nat c.incompletePasses),
    ("external_hits", .nat c.externalHits), ("warnings", .nat c.warnings),
    ("faults", .nat c.faults)]

end MemorySentry.Counters
