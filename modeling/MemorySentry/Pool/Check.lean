import MemorySentry.Pool.Basic
import MemorySentry.Pool.Mode

/-!
# Checks against a pool

Each check looks for the live object that covers the pointer and says whether the program keeps to
it. A pointer outside all live objects is judged by its provenance: with complete provenance it is a
violation, otherwise it is unknown unless it points into a retained object.
-/

namespace MemorySentry

/-- A check that found no violation. -/
inductive Verdict where
  /-- The pointer keeps to a live object. -/
  | inBounds (span : Span)
  /-- There was nothing to check. -/
  | empty
  /-- The pointer points into no object of the pool and need not. -/
  | unknown
deriving DecidableEq

namespace Pool

/-- Addresses below this one lie in the first page, which is never mapped. -/
def nullPageEnd : Address := 4096

/-- The violation of an access that leaves the object in which it starts, at its last byte. -/
def overflow (access : Access) (a : Address) (length : ByteCount) (o : Object) : Violation :=
  let kind : ViolationKind := match access with
    | .read => .outOfBounds
    | .write => .writeOutOfBounds
  (({ kind, pointer := Word.addClamped a (length - 1) } : Violation).about o).ofWeakness
    (.ofOverflow o.kind)

/-- The verdict on an access that starts in no live object. -/
def judgeMiss (provenance : Provenance) (a : Address) (freed : Option Object) :
    Except Violation Verdict :=
  match provenance, freed with
  | .complete, freed =>
    if a = 0 then .error { kind := .uninitialized, pointer := a }
    else match freed with
      | some o => .error (({ kind := .danglingPointer, pointer := a } : Violation).about o)
      | none => .error { kind := .outOfBounds, pointer := a }
  | .incomplete, some o => .error (({ kind := .suspectAccess, pointer := a } : Violation).about o)
  | .incomplete, none => .ok .unknown

/-- Checks an access of `length` bytes from an address on. -/
def checkAccess (p : Pool) (a : Address) (length : ByteCount) (mode : CheckMode) :
    Except Violation Verdict × Pool :=
  if length = 0 then (.ok .empty, p)
  else
    match p.find a with
    | (some o, p) =>
      if o.span.containsBytes a length then (.ok (.inBounds o.span), p)
      else (.error (overflow mode.access a length o), p)
    | (none, p) =>
      let (freed, p) := p.findRetained a
      (judgeMiss mode.provenance a freed, p)

/-- Checks that an address is at an element of its object. -/
def checkAlignment (p : Pool) (a : Address) (elementSize : ByteCount) :
    Except Violation Unit × Pool :=
  if a = 0 ∨ elementSize = 0 then (.ok (), p)
  else
    let misaligned : Violation := { kind := .misaligned, pointer := a }
    match p.find a with
    | (some o, p) =>
      if (a - o.span.start) % elementSize = 0 then (.ok (), p)
      else (.error ((misaligned.about o).requiring elementSize), p)
    | (none, p) => (.error (misaligned.requiring elementSize), p)

/-- The verdict on pointer arithmetic that starts in no live object. -/
def judgeStrayArithmetic (provenance : Provenance) (source dest : Address)
    (freed : Option Object) : Except Violation Verdict :=
  match provenance, freed with
  | .complete, some o =>
    .error (({ kind := .danglingPointer, pointer := source } : Violation).about o)
  | .complete, none => .error { kind := .outOfBounds, pointer := dest }
  | .incomplete, _ => .ok .unknown

/-- Checks that pointer arithmetic stays in an object or goes to the address after it. Arithmetic
inside the first page is left to the use of the pointer, which faults. -/
def checkArithmetic (p : Pool) (source dest : Address) (mode : CheckMode) :
    Except Violation Verdict × Pool :=
  match p.find source with
  | (some o, p) =>
    if o.span.start ≤ dest ∧ dest ≤ o.span.stop then (.ok (.inBounds o.span), p)
    else
      let outside : Violation := { kind := .outOfBounds, pointer := dest }
      (.error ((outside.about o).ofWeakness (.ofOverflow o.kind)), p)
  | (none, p) =>
    if source < nullPageEnd ∧ dest < nullPageEnd then (.ok .empty, p)
    else
      let (freed, p) := p.findRetained source
      (judgeStrayArithmetic mode.provenance source dest freed, p)

end Pool

end MemorySentry
