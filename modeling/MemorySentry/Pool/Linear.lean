import MemorySentry.Pool.Registration
import MemorySentry.Pool.Check

/-!
# Linear pools

A pool said with plain lists: the live objects in the order of addresses and the retained ones in
the order of their frees, both searched from the front, with nothing kept at hand. What a `Pool`
answers is measured against it.
-/

namespace MemorySentry

/-- The objects of a pool in plain lists. -/
structure LinearPool where
  /-- What becomes of freed objects. -/
  retention : Retention
  /-- The live objects, in ascending order. -/
  live : List Object := []
  /-- The retained objects, the oldest free first. -/
  retained : List Object := []
deriving DecidableEq

namespace LinearPool

/-- The first object that covers an address. -/
def covering (os : List Object) (a : Address) : Option Object :=
  os.find? fun o => o.span.contains a

/-- The live object that covers an address. -/
def objectAt (p : LinearPool) (a : Address) : Option Object :=
  covering p.live a

/-- The retained object that covers an address. -/
def retainedAt (p : LinearPool) (a : Address) : Option Object :=
  covering p.retained a

/-- Puts an object before the first one that starts after it. -/
def place (o : Object) : List Object → List Object
  | [] => [o]
  | e :: rest => if o.span.start < e.span.start then o :: e :: rest else e :: place o rest

/-- Registers a span: of the live objects that overlap it, those that merge with it are merged into
one object with it, which is otherwise the highest of them, and the others are dropped. -/
def register (p : LinearPool) (numbers : Numbering) (s : Span) (kind : ObjectKind)
    (site : Option Site) : Registration × LinearPool × Numbering :=
  let overlapped := p.live.filter fun o => o.span.overlaps s
  let members := overlapped.filter fun o => kind.merges && o.kind.merges
  let span := members.foldl (fun acc o => acc.hull o.span) s
  let object : Object := match members.getLast? with
    | some o => { o with span }
    | none => { span, kind, allocId := numbers.nextAlloc, allocSite := site }
  let registration := match members, overlapped.getLast? with
    | _ :: _, _ => .merged span
    | [], some previous => .replaced span previous
    | [], none => .inserted span
  (registration,
    { p with
      live := place object (p.live.filter fun o => !o.span.overlaps s)
      retained := p.retained.filter fun o => !o.span.overlaps s },
    { numbers with nextAlloc := numbers.nextAlloc + 1 })

/-- Registers bytes as a live object, unless they are at the null address or make no span. -/
def registerBytes (p : LinearPool) (numbers : Numbering) (a : Address) (size : ByteCount)
    (kind : ObjectKind) (site : Option Site) : Option Registration × LinearPool × Numbering :=
  match Span.ofLength a size with
  | .ok s =>
    if a = 0 then (none, p, numbers)
    else
      let (registration, p, numbers) := p.register numbers s kind site
      (some registration, p, numbers)
  | .error _ => (none, p, numbers)

/-- The newest objects of a list, at most `n`. -/
def newest (n : Nat) (os : List Object) : List Object :=
  os.drop (os.length - n)

/-- Frees the object based at an address. -/
def free (p : LinearPool) (numbers : Numbering) (a : Address) (site : Option Site) :
    Except Violation (Option Object) × LinearPool × Numbering :=
  if a = 0 then (.ok none, p, numbers)
  else
    match p.objectAt a, p.retainedAt a with
    | some o, _ =>
      if !o.kind.isHeap then
        (.error (({ kind := .freeOutsideHeap, pointer := a } : Violation).about o), p, numbers)
      else if o.span.start ≠ a then
        (.error (({ kind := .invalidFree, pointer := a } : Violation).about o), p, numbers)
      else
        let freed := o.retire numbers.nextFree site
        (.ok (some freed),
          { p with
            live := p.live.filter fun e => e.span.start ≠ a
            retained := newest p.retention.capacity (p.retained ++ [freed]) },
          { numbers with nextFree := numbers.nextFree + 1 })
    | none, some o =>
      let kind : ViolationKind := if o.span.start = a then .doubleFree else .invalidFree
      (.error (({ kind, pointer := a } : Violation).about o), p, numbers)
    | none, none => (.error { kind := .freeOutsideHeap, pointer := a }, p, numbers)

/-- Drops the live object based at an address. -/
def endScope (p : LinearPool) (a : Address) : Option Object × LinearPool :=
  match p.live.find? fun o => o.span.start == a with
  | some o => (some o, { p with live := p.live.filter fun e => e.span.start ≠ a })
  | none => (none, p)

/-- Moves an object after a reallocation. -/
def move (p : LinearPool) (numbers : Numbering) (new old : Address) (size : ByteCount)
    (kind : ObjectKind) (site : Option Site) :
    Except Violation (Option Registration) × LinearPool × Numbering :=
  if old ≠ 0 ∧ size ≠ 0 ∧ new = 0 then (.ok none, p, numbers)
  else
    match p.free numbers old site with
    | (.error v, p, numbers) => (.error v, p, numbers)
    | (.ok _, p, numbers) =>
      let (registration, p, numbers) := p.registerBytes numbers new size kind site
      (.ok registration, p, numbers)

/-- Checks an access of `length` bytes from an address on. -/
def checkAccess (p : LinearPool) (a : Address) (length : ByteCount) (mode : CheckMode) :
    Except Violation Verdict :=
  if length = 0 then .ok .empty
  else
    match p.objectAt a, p.retainedAt a, mode.provenance with
    | some o, _, _ =>
      if a.toNat + length.toNat ≤ o.span.stop.toNat then .ok (.inBounds o.span)
      else .error (Pool.overflow mode.access a length o)
    | none, some o, .incomplete =>
      .error (({ kind := .suspectAccess, pointer := a } : Violation).about o)
    | none, none, .incomplete => .ok .unknown
    | none, freed, .complete =>
      if a = 0 then .error { kind := .uninitialized, pointer := a }
      else match freed with
        | some o => .error (({ kind := .danglingPointer, pointer := a } : Violation).about o)
        | none => .error { kind := .outOfBounds, pointer := a }

/-- Checks that an address is at an element of its object. -/
def checkAlignment (p : LinearPool) (a : Address) (elementSize : ByteCount) :
    Except Violation Unit :=
  if a = 0 ∨ elementSize = 0 then .ok ()
  else
    let misaligned := ({ kind := .misaligned, pointer := a } : Violation).requiring elementSize
    match p.objectAt a with
    | some o =>
      if (a.toNat - o.span.start.toNat) % elementSize.toNat = 0 then .ok ()
      else .error (misaligned.about o)
    | none => .error misaligned

/-- Checks that pointer arithmetic stays in an object or goes to the address after it. -/
def checkArithmetic (p : LinearPool) (source dest : Address) (mode : CheckMode) :
    Except Violation Verdict :=
  match p.objectAt source with
  | some o =>
    if o.span.start ≤ dest ∧ dest ≤ o.span.stop then .ok (.inBounds o.span)
    else .error ((({ kind := .outOfBounds, pointer := dest } : Violation).about o).ofWeakness
      (.ofOverflow o.kind))
  | none =>
    if source < Pool.nullPageEnd ∧ dest < Pool.nullPageEnd then .ok .empty
    else match mode.provenance, p.retainedAt source with
      | .complete, some o =>
        .error (({ kind := .danglingPointer, pointer := source } : Violation).about o)
      | .complete, none => .error { kind := .outOfBounds, pointer := dest }
      | .incomplete, _ => .ok .unknown

end LinearPool

end MemorySentry
