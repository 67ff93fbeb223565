import MemorySentry.Violation.Basic
import MemorySentry.Object.Json
import MemorySentry.Json.Printer

/-!
# Violations as JSON

The record of a violation in a log of JSON lines. All fields are written, `null` for what is not
known, so that two violations have the same record only if they are the same.
-/

namespace MemorySentry

/-- A violation with all its fields. -/
def Violation.toJson (v : Violation) : Json :=
  .object [("kind", .string v.kind.symbol), ("fault_ptr", .word v.pointer), ("pc", .word v.pc),
    ("cwe", .ofOption (fun w => .nat w.id) v.weakness), ("site", .ofOption Site.toJson v.site),
    ("object", .ofOption Span.toJson v.span), ("alignment", .ofOption .word v.alignment),
    ("function", .ofOption .string v.function), ("history", .ofOption Object.toJson v.history)]

/-- The line of a violation in a log of JSON lines. -/
def Violation.jsonLine (v : Violation) : String :=
  v.toJson.render ++ "\n"

end MemorySentry
