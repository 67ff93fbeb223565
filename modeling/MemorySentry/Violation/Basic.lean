import MemorySentry.Violation.Kind

/-!
# Violations

A `Violation` is the finding of a failed check: its kind and the pointer, and what is known about
the place and about the object. The check that finds it fills in what it knows.
-/

namespace MemorySentry

/-- A finding of a failed check. -/
structure Violation where
  /-- What the violation consists in. -/
  kind : ViolationKind
  /-- The address at fault. -/
  pointer : Address
  /-- The program counter, 0 if it is not known. -/
  pc : Address := 0
  /-- The weakness that the violation is an instance of. -/
  weakness : Option Weakness := kind.weakness
  /-- Where the check was made. -/
  site : Option Site := none
  /-- The span that the pointer should have stayed in. -/
  span : Option Span := none
  /-- The alignment that the pointer should have had. -/
  alignment : Option ByteCount := none
  /-- The library function that was called. -/
  function : Option String := none
  /-- The object involved. -/
  history : Option Object := none
deriving DecidableEq

namespace Violation

/-- The violation at a program counter. -/
def atPc (v : Violation) (pc : Address) : Violation :=
  { v with pc }

/-- The violation as an instance of another weakness. -/
def ofWeakness (v : Violation) (w : Weakness) : Violation :=
  { v with weakness := some w }

/-- The violation found at a site, whose program counter counts unless one is known already. -/
def atSite (v : Violation) (site : Site) : Violation :=
  { v with pc := if v.pc = 0 then site.pc else v.pc, site := some site }

/-- The violation found at a site, if there is one. -/
def atSite? (v : Violation) (site : Option Site) : Violation :=
  match site with
  | none => v
  | some s => v.atSite s

/-- The violation of the bounds of a span. -/
def outside (v : Violation) (span : Span) : Violation :=
  { v with span := some span }

/-- The violation with an object's bounds and history. -/
def about (v : Violation) (o : Object) : Violation :=
  { v with span := some o.span, history := some o }

/-- The violation of an alignment. -/
def requiring (v : Violation) (alignment : ByteCount) : Violation :=
  { v with alignment := some alignment }

/-- The violation in a call of a library function. -/
def calling (v : Violation) (function : String) : Violation :=
  { v with function := some function }

/-- Whether the violation is only a warning. -/
def isWarning (v : Violation) : Bool :=
  v.kind.isWarning

end Violation

end MemorySentry
