import MemorySentry.Json.Record
import MemorySentry.Word

/-!
# Entries of a run log

A run log has one entry a line, as JSON. An entry says when and in which run something happened,
and, where it was an operation, what came of it.
-/

namespace MemorySentry.RunLog

/-- How urgent an entry is. -/
inductive Level where
  | trace
  | debug
  | info
  | warn
  | error
  | fatal
deriving DecidableEq

namespace Level

/-- All levels. -/
def all : List Level := [.trace, .debug, .info, .warn, .error, .fatal]

/-- The word for a level. -/
def name : Level → String
  | .trace => "trace"
  | .debug => "debug"
  | .info => "info"
  | .warn => "warn"
  | .error => "error"
  | .fatal => "fatal"

/-- The level that a word means. -/
def ofName? (s : String) : Option Level :=
  all.find? fun l => l.name == s

end Level

/-- What came of an operation. -/
inductive Outcome where
  /-- There was no violation. -/
  | pass
  /-- There was a warning. -/
  | warn
  /-- There was a fault, and the run went on. -/
  | fault
  /-- There was a fault that ended the run. -/
  | terminated
deriving DecidableEq

namespace Outcome

/-- All outcomes. -/
def all : List Outcome := [.pass, .warn, .fault, .terminated]

/-- The word for an outcome. -/
def name : Outcome → String
  | .pass => "pass"
  | .warn => "warn"
  | .fault => "fault"
  | .terminated => "terminated"

end Outcome

/-- An entry of a run log. -/
structure Entry where
  /-- When it was made. -/
  timestamp : String
  /-- The run and the number of the entry in it. -/
  traceId : String
  level : Level
  /-- What happened. -/
  event : String
  /-- The run. -/
  runId : Option String := none
  /-- The index of the operation. -/
  opIndex : Option UInt64 := none
  /-- The label of the pool that the operation is about. -/
  pool : Option String := none
  outcome : Option Outcome := none
  /-- The symbol of the violation. -/
  violation : Option String := none
  /-- The pointer that the violation is about. -/
  pointer : Option String := none
  /-- Anything else, with the fields of objects in order. -/
  details : Option Json := none

namespace Entry

/-- The fields of an optional part. -/
def optionalField {α : Type} (key : String) (f : α → Json) (a : Option α) : List (String × Json) :=
  (a.map fun a => (key, f a)).toList

/-- The entry as JSON. What is not known has no field. -/
def toJson (e : Entry) : Json :=
  .object ([("timestamp", .string e.timestamp), ("trace_id", .string e.traceId),
      ("level", .string e.level.name), ("event", .string e.event)] ++
    optionalField "run_id" .string e.runId ++
    optionalField "op_index" .word e.opIndex ++
    optionalField "pool" .string e.pool ++
    optionalField "outcome" (fun o : Outcome => .string o.name) e.outcome ++
    optionalField "violation" .string e.violation ++
    optionalField "fault_ptr" .string e.pointer ++
    optionalField "details" id e.details)

/-- The line of the entry, without its line break. -/
def line (e : Entry) : String :=
  e.toJson.render

/-- The entry of a violation. -/
def withViolation (e : Entry) (symbol : String) (pointer : Address) : Entry :=
  { e with violation := some symbol, pointer := some (Word.hex pointer.toNat) }

/-- A value that may be missing. -/
def orNull {α : Type} (decode : Json → Except Json.Mismatch α) :
    Json → Except Json.Mismatch (Option α)
  | .null => .ok none
  | v => some <$> decode v

/-- A field that has to be there. -/
def requiredField {α : Type} (key : String) (decode : Json → Except Json.Mismatch α) :
    Json.Record α :=
  .required key decode

/-- A field that may be missing or `null`. -/
def possibleField {α : Type} (key : String) (decode : Json → Except Json.Mismatch α) :
    Json.Record (Option α) :=
  .orElse key (orNull decode) none

/-- The text that a value is. -/
def text : Json → Except Json.Mismatch String :=
  Json.Decode.ofHead Json.Decode.string

/-- Whether a value is `null`. -/
def isNull : Json → Bool
  | .null => true
  | _ => false

/-- What the fields of an entry mean. -/
def record : Json.Record Entry :=
  Entry.mk <$> requiredField "timestamp" text <*> requiredField "trace_id" text <*>
    requiredField "level" (Json.Decode.variant Level.name Level.all isNull) <*>
    requiredField "event" text <*> possibleField "run_id" text <*>
    possibleField "op_index" (Json.Decode.ofHead Json.Decode.word) <*> possibleField "pool" text <*>
    possibleField "outcome" (Json.Decode.variant Outcome.name Outcome.all isNull) <*>
    possibleField "violation" text <*> possibleField "fault_ptr" text <*>
    possibleField "details" .ok

end Entry

end MemorySentry.RunLog
