import MemorySentry.Violation.Kind
import MemorySentry.Json.Printer

/-!
# The catalogue of violations

All kinds of violations with their codes, symbols, descriptions and weaknesses, for programs that
read logs.
-/

namespace MemorySentry

/-- The entry of a kind in the catalogue. A kind without a weakness has no field for it. -/
def ViolationKind.catalogueEntry (k : ViolationKind) : Json :=
  .object ([("code", .nat k.code), ("symbol", .string k.symbol),
    ("description", .string k.description), ("warning", .bool k.isWarning)] ++
    (k.weakness.map fun w => ("cwe", Json.nat w.id)).toList)

/-- All kinds in the order of their codes. -/
def ViolationKind.catalogue : Json :=
  .array (all.map catalogueEntry)

end MemorySentry
