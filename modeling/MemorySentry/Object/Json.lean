import MemorySentry.Object.Basic
import MemorySentry.Json.Basic

/-!
# Objects as JSON

The fields of a record always stand in the same order, and a field without a value is `null`.
-/

namespace MemorySentry

/-- A span by its bounds. -/
def Span.toJson (s : Span) : Json :=
  .object [("begin", .word s.start), ("end", .word s.stop)]

/-- A site with all its fields. -/
def Site.toJson (s : Site) : Json :=
  .object [("tag", .nat s.tag.toNat), ("pc", .word s.pc), ("source", .ofOption .string s.source),
    ("line", .nat s.line.toNat)]

/-- An object with its history. -/
def Object.toJson (o : Object) : Json :=
  .object [("region", o.span.toJson), ("kind", .string o.kind.jsonName),
    ("state", .string (if o.isLive then "live" else "retired")), ("alloc_id", .nat o.allocId),
    ("alloc_site", .ofOption Site.toJson o.allocSite), ("free_id", .nat o.freeId),
    ("free_site", .ofOption Site.toJson o.freeSite)]

end MemorySentry
