import MemorySentry.Pool.Basic

/-!
# Registering and freeing objects

A new object takes the place of what the pool knew about its addresses. Retained objects there are
forgotten. A live object that overlaps it is widened if both are of kinds that merge, and dropped as
stale otherwise.

Only the base of a live object on the heap can be freed; a free of anything else is a violation and
changes nothing.
-/

namespace MemorySentry

/-- What the registration of an object did. -/
inductive Registration where
  /-- No live object overlapped it. -/
  | inserted (span : Span)
  /-- It was merged with live objects into one that spans all of them. -/
  | merged (span : Span)
  /-- It replaced live objects, the highest of which was `previous`. -/
  | replaced (span : Span) (previous : Object)
deriving DecidableEq

/-- The span of the object that a registration left. -/
def Registration.span : Registration → Span
  | .inserted s | .merged s | .replaced s _ => s

namespace Pool

/-- A registration under way. -/
structure Intake where
  /-- The object as it will be stored. -/
  object : Object
  /-- Whether a live object was widened. -/
  merged : Bool := false
  /-- The last live object that was dropped. -/
  previous : Option Object := none

/-- Takes the live objects that overlap the new one out of a map, from the lowest on, and merges the
new one with those of kinds that merge if it is of such a kind. The second argument bounds the
number of objects. -/
def absorb (kind : ObjectKind) : Nat → SpanMap Object → Intake → SpanMap Object × Intake
  | 0, live, intake => (live, intake)
  | n + 1, live, intake =>
    match live.firstOverlapping intake.object.span with
    | (none, live) => (live, intake)
    | (some (s, existing), live) =>
      match live.remove s with
      | (.error _, live) => (live, intake)
      | (.ok _, live) =>
        if kind.merges && existing.kind.merges then
          let widened := { existing with span := intake.object.span.hull s }
          absorb kind n live { intake with object := widened, merged := true }
        else
          absorb kind n live { intake with previous := some existing }

/-- Registers a span as a live object. -/
def register (p : Pool) (numbers : Numbering) (s : Span) (kind : ObjectKind)
    (site : Option Site) : Registration × Pool × Numbering :=
  let fresh : Object :=
    { span := s, kind, allocId := numbers.nextAlloc, allocSite := site }
  let numbers := { numbers with nextAlloc := numbers.nextAlloc + 1 }
  let p := p.forgetRecent.evictRetained s
  -- every step takes one object out, so the bound is never reached
  let (live, intake) := absorb kind (p.live.size + 1) p.live { object := fresh }
  -- the object may have grown since the first eviction
  let p := { p with live }.evictRetained intake.object.span
  let (_, live) := p.live.insert intake.object.span intake.object
  let registration :=
    if intake.merged then .merged intake.object.span
    else match intake.previous with
      | some previous => .replaced intake.object.span previous
      | none => .inserted intake.object.span
  (registration, { p with live }, numbers)

/-- Registers bytes as a live object, unless they are at the null address or make no span. -/
def registerBytes (p : Pool) (numbers : Numbering) (a : Address) (size : ByteCount)
    (kind : ObjectKind) (site : Option Site) : Option Registration × Pool × Numbering :=
  if a = 0 then (none, p, numbers)
  else
    match Span.ofLength a size with
    | .error _ => (none, p, numbers)
    | .ok s =>
      let (registration, p, numbers) := p.register numbers s kind site
      (some registration, p, numbers)

/-- The violation of a free that names no live object. -/
def strayFree (a : Address) (freed : Option Object) : Violation :=
  match freed with
  | some o =>
    let kind : ViolationKind := if o.span.start = a then .doubleFree else .invalidFree
    ({ kind, pointer := a } : Violation).about o
  | none => { kind := .freeOutsideHeap, pointer := a }

/-- Frees the object based at an address. The null address names nothing and is freed without
effect. -/
def free (p : Pool) (numbers : Numbering) (a : Address) (site : Option Site) :
    Except Violation (Option Object) × Pool × Numbering :=
  if a = 0 then (.ok none, p, numbers)
  else
    match p.find a with
    | (some o, p) =>
      if !o.kind.isHeap then
        (.error (({ kind := .freeOutsideHeap, pointer := a } : Violation).about o), p, numbers)
      else if o.span.start ≠ a then
        (.error (({ kind := .invalidFree, pointer := a } : Violation).about o), p, numbers)
      else
        -- the object may be at hand, where a look-up would find it before the map
        let p := p.forgetRecent
        let (freed, p, numbers) := { p with live := (p.live.removeAt a).2 }.retire numbers o site
        (.ok (some freed), p, numbers)
    | (none, p) =>
      let (freed, p) := p.findRetained a
      (.error (strayFree a freed), p, numbers)

/-- Drops the live object based at an address, of whatever kind, without retaining it. -/
def endScope (p : Pool) (a : Address) : Option Object × Pool :=
  let p := p.forgetRecent
  match p.live.removeAt a with
  | (.ok (_, o), live) => (some o, { p with live })
  | (.error _, live) => (none, { p with live })

/-- Moves an object after a reallocation. Without an old address it is a plain registration, and
with a size of zero a plain free. A reallocation that returned null failed: the old object stays. -/
def move (p : Pool) (numbers : Numbering) (new old : Address) (size : ByteCount)
    (kind : ObjectKind) (site : Option Site) :
    Except Violation (Option Registration) × Pool × Numbering :=
  if old = 0 then
    let (registration, p, numbers) := p.registerBytes numbers new size kind site
    (.ok registration, p, numbers)
  else if size = 0 then
    let (freed, p, numbers) := p.free numbers old site
    (freed.map fun _ => none, p, numbers)
  else if new = 0 then (.ok none, p, numbers)
  else
    match p.free numbers old site with
    | (.error v, p, numbers) => (.error v, p, numbers)
    | (.ok _, p, numbers) =>
      let (registration, p, numbers) := p.registerBytes numbers new size kind site
      (.ok registration, p, numbers)

end Pool

end MemorySentry
