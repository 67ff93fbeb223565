import MemorySentry.Violation.Basic

/-!
# Alerts

The text of a violation in a plain log: a summary line, a ruled heading and one line for each thing
that is known. The labels fill a column of their own.
-/

namespace MemorySentry.Violation

/-- The width of the column of labels. -/
def labelWidth : Nat := 38

/-- The heading of an alert. -/
def heading : String := "=======+++++++    POOLGUARD RUNTIME ALERT +++++++======="

/-- One line of an alert: a label, filled up with blanks, and a value. -/
def alertLine (label value : String) : String :=
  "= " ++ label ++ String.ofList (List.replicate (labelWidth - label.length) ' ') ++ ":\t" ++
    value ++ "\n"

/-- A blank line inside an alert. -/
def alertGap : String := "=\n"

/-- The violation in one line. -/
def summary (v : Violation) : String :=
  "Violation Type " ++ Word.hex v.kind.code ++ " when accessing " ++ Word.hex v.pointer.toNat ++
    " at IP=" ++ Word.hex v.pc.toNat

/-- The program counter of a site, 0 if it is not known. -/
def sitePc (site : Option Site) : Address :=
  (site.map Site.pc).getD 0

/-- The lines on how an object was allocated. -/
def allocationLines (o : Object) : List String :=
  [alertGap,
    alertLine "Object allocation kind" o.kind.name,
    alertLine "Object allocated at PC" (Word.hex (sitePc o.allocSite).toNat),
    alertLine "Allocated in Source File" (Site.position o.allocSite)] ++
  if o.allocId = 0 then []
  else [alertLine "Object allocation sequence number" (toString o.allocId)]

/-- The lines on how an object was freed; none while it is live. -/
def releaseLines (o : Object) : List String :=
  if o.freeId = 0 then []
  else
    [alertGap,
      alertLine "Object freed at PC" (Word.hex (sitePc o.freeSite).toNat),
      alertLine "Freed in Source File" (Site.position o.freeSite),
      alertLine "Object free sequence number" (toString o.freeId)]

/-- The lines of an alert, each with its line break. -/
def alertLines (v : Violation) : List String :=
  [v.summary ++ "\n", "\n", heading ++ "\n",
    alertLine "Error type" v.kind.description,
    alertLine "CWE ID" ((v.weakness.map fun w => toString w.id).getD "none"),
    alertLine "Faulting pointer" (Word.hex v.pointer.toNat),
    alertLine "Program counter" (Word.hex v.pc.toNat)] ++
  (if v.site.isSome then [alertLine "Fault PC Source" (Site.position v.site)] else []) ++
  (match v.span with
    | none => []
    | some s =>
      [alertLine "Object start" (Word.hex s.start.toNat),
        alertLine "Object length" (Word.hex s.length.toNat)]) ++
  (match v.alignment with
    | none => []
    | some n => [alertLine "Alignment" (Word.hex n.toNat)]) ++
  (match v.function with
    | none => []
    | some f => [alertLine "Library function" f]) ++
  (match v.history with
    | none => []
    | some o => allocationLines o ++ releaseLines o)

/-- The text of an alert. -/
def alert (v : Violation) : String :=
  String.join v.alertLines

end MemorySentry.Violation
