import MemorySentry.SpanMap.Basic
import MemorySentry.Violation.Basic

/-!
# Pools

A pool tracks the objects that one group of pointers may point to. Freed objects can be retained for
a while, so that a later use of their memory is recognised; the quarantine lists them from the
oldest free to the newest. The two objects found last are kept at hand, so that a look-up near them
does not touch the map.
-/

namespace MemorySentry

/-- What becomes of an object when it is freed. -/
inductive Retention where
  /-- It is forgotten. -/
  | immediate
  /-- It is retained, and the oldest retained object is forgotten when there are more than
  `most`. -/
  | keep (most : Nat)
deriving DecidableEq

namespace Retention

/-- The number of objects retained unless configured otherwise. -/
def defaultMost : Nat := 65536

/-- The retention unless configured otherwise. -/
def standard : Retention := .keep defaultMost

/-- The number of freed objects that can be retained. -/
def capacity : Retention → Nat
  | .immediate => 0
  | .keep most => most

/-- Whether any freed object is retained. -/
def retains (r : Retention) : Bool :=
  0 < r.capacity

end Retention

/-- The sequence numbers that the next allocation and the next free receive. All pools of a process
draw from the same ones. A program draws 64-bit numbers, which are these as long as there have been
fewer than `2 ^ 64 - 1` allocations and as many frees. -/
structure Numbering where
  /-- The number of the next allocation. -/
  nextAlloc : Nat := 1
  /-- The number of the next free. -/
  nextFree : Nat := 1
deriving DecidableEq

/-- The objects that one group of pointers may point to. -/
structure Pool where
  /-- What becomes of freed objects. -/
  retention : Retention
  /-- The live objects. -/
  live : SpanMap Object := {}
  /-- The freed objects that are retained. -/
  retained : SpanMap Object := {}
  /-- The bases and allocation numbers of the retained objects, in the order of their frees. -/
  quarantine : List (Address × Nat) := []
  /-- The live object that was found last. -/
  recent : Option Object := none
  /-- The live object that was found last before that one. -/
  earlier : Option Object := none
  /-- The number of look-ups that the objects at hand answered. A program counts them in 64 bits,
  which come to this number below `2 ^ 64`. -/
  hits : Nat := 0

namespace Pool

/-- An object at hand, if it covers an address. -/
def covering? (o : Option Object) (a : Address) : Option Object :=
  o.filter fun o => o.span.contains a

/-- The live object that covers an address. A look-up that finds none leaves the objects at hand
alone. -/
def find (p : Pool) (a : Address) : Option Object × Pool :=
  match covering? p.recent a with
  | some o => (some o, { p with hits := p.hits + 1 })
  | none =>
    match covering? p.earlier a with
    | some o =>
      (some o, { p with recent := p.earlier, earlier := p.recent, hits := p.hits + 1 })
    | none =>
      match p.live.lookup a with
      | (some (_, o), live) => (some o, { p with live, recent := some o, earlier := p.recent })
      | (none, live) => (none, { p with live })

/-- The retained object that covers an address. -/
def findRetained (p : Pool) (a : Address) : Option Object × Pool :=
  let (hit, retained) := p.retained.lookup a
  (hit.map Prod.snd, { p with retained })

/-- The pool with no objects at hand. -/
def forgetRecent (p : Pool) : Pool :=
  { p with recent := none, earlier := none }

/-- Takes the retained objects that overlap a span out of a map and out of the quarantine, from the
lowest on. The first argument bounds their number. -/
def dropOverlapping (s : Span) : Nat → SpanMap Object → List (Address × Nat) →
    SpanMap Object × List (Address × Nat)
  | 0, retained, quarantine => (retained, quarantine)
  | n + 1, retained, quarantine =>
    match retained.firstOverlapping s with
    | (none, retained) => (retained, quarantine)
    | (some (stale, o), retained) =>
      match retained.remove stale with
      | (.ok _, retained) =>
        dropOverlapping s n retained (quarantine.filter fun e => e ≠ (stale.start, o.allocId))
      | (.error _, retained) => (retained, quarantine)

/-- The pool without the retained objects that overlap a span, whose addresses are in use again. -/
def evictRetained (p : Pool) (s : Span) : Pool :=
  let (retained, quarantine) := dropOverlapping s (p.retained.size + 1) p.retained p.quarantine
  { p with retained, quarantine }

/-- Takes objects out of a map in the order of the quarantine until there are no more than
`most`. -/
def trim (most : Nat) : List (Address × Nat) → SpanMap Object →
    List (Address × Nat) × SpanMap Object
  | [], retained => ([], retained)
  | (base, id) :: rest, retained =>
    if most < retained.size then
      match retained.lookup base with
      | (some (s, o), retained) =>
        if s.start = base ∧ o.allocId = id then trim most rest (retained.removeAt base).2
        else trim most rest retained
      | (none, retained) => trim most rest retained
    else
      ((base, id) :: rest, retained)

/-- Retains a freed object as the newest one, and forgets the oldest ones beyond `most`. -/
def retain (p : Pool) (o : Object) (most : Nat) : Pool :=
  let p := p.evictRetained o.span
  match p.retained.insert o.span o with
  | (.ok (), retained) =>
    let (quarantine, retained) := trim most (p.quarantine ++ [(o.span.start, o.allocId)]) retained
    { p with retained, quarantine }
  | (.error _, retained) =>
    let (quarantine, retained) := trim most p.quarantine retained
    { p with retained, quarantine }

/-- Numbers the free of an object and retains the object as the pool's retention says. -/
def retire (p : Pool) (numbers : Numbering) (o : Object) (site : Option Site) :
    Object × Pool × Numbering :=
  let freed := o.retire numbers.nextFree site
  let numbers := { numbers with nextFree := numbers.nextFree + 1 }
  if p.retention.retains then (freed, p.retain freed p.retention.capacity, numbers)
  else (freed, p, numbers)

/-- The live object that covers an address, as a question. -/
def objectAt (p : Pool) (a : Address) : Option Object × Pool :=
  p.find a

/-- The live objects in the order of addresses. -/
def objects (p : Pool) : List Object :=
  p.live.toList.map Prod.snd

/-- The pool without objects. The number of hits stays. -/
def reset (p : Pool) : Pool :=
  { p.forgetRecent with
    live := p.live.clear, retained := p.retained.clear, quarantine := [] }

/-- The sizes of a pool. -/
structure Stats where
  /-- The number of live objects. -/
  live : Nat
  /-- The number of retained objects. -/
  retained : Nat
  /-- The number of look-ups that the objects at hand answered. -/
  hits : Nat
deriving DecidableEq

/-- The sizes of the pool. -/
def stats (p : Pool) : Stats :=
  ⟨p.live.size, p.retained.size, p.hits⟩

end Pool

end MemorySentry
