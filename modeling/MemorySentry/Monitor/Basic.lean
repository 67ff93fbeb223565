import MemorySentry.AlertLog
import MemorySentry.Allocator.Table
import MemorySentry.Page.Request
import MemorySentry.Pool.Registration

/-!
# Monitors

A `Monitor` is all that is known about a running program: its pools, the objects that it received
from outside, second views of its memory, and the log of alerts. Every violation that an operation
finds is reported to the log exactly once, by that operation, and also returned.
-/

namespace MemorySentry

/-- The number of a pool; no pool has the number zero. Pools have 64-bit numbers in a program, which
are these as long as fewer than `2 ^ 64` pools have been created. -/
abbrev PoolId := Nat

/-- The name of a pool in messages. -/
def PoolId.render (id : PoolId) : String :=
  "pool#" ++ toString id

/-- How often things happened. A program counts in 64 bits, and what it counts is what stands here
as long as no count comes to `2 ^ 64`. -/
structure Counters where
  poolsCreated : Nat := 0
  poolsDestroyed : Nat := 0
  registrations : Nat := 0
  unregistrations : Nat := 0
  checks : Nat := 0
  /-- Checks that passed because nothing was known about the pointer. -/
  incompletePasses : Nat := 0
  /-- Checks that the objects from outside decided. -/
  externalHits : Nat := 0
  warnings : Nat := 0
  faults : Nat := 0
deriving DecidableEq

/-- A second view of whole pages. -/
structure Shadow where
  /-- The first address of the pages. -/
  canonical : Address
  /-- The first address of the second view. -/
  base : Address
  /-- The number of pages. -/
  pages : UInt64
deriving DecidableEq

/-- All that is known about a running program. -/
structure Monitor where
  /-- How the program is watched. -/
  settings : Settings
  /-- The number of bytes of a page. -/
  pageSize : UInt64
  /-- The pools with their numbers. -/
  pools : List (PoolId × Pool) := []
  /-- The number of the next pool. -/
  nextPool : PoolId := 1
  /-- The objects that the program received from outside. -/
  external : Pool := { retention := .immediate }
  /-- The sequence numbers of allocations and frees. -/
  numbers : Numbering := {}
  /-- The second views of memory. -/
  shadows : List Shadow := []
  /-- The known allocation functions. -/
  allocators : AllocatorTable := .standard
  /-- The log of alerts. -/
  alerts : AlertLog
  /-- How often things happened. -/
  counters : Counters := {}

namespace Monitor

/-- A monitor of a program that has not done anything, for pages of so many bytes. -/
def start (settings : Settings) (sink : Sink) (page : UInt64) : Monitor where
  settings
  pageSize := page
  alerts := .start sink settings.stopOnError settings.errorBudget settings.format

/-- The pool with a number. -/
def pool? (m : Monitor) (id : PoolId) : Option Pool :=
  m.pools.lookup id

/-- The monitor with a pool changed. -/
def setPool (m : Monitor) (id : PoolId) (p : Pool) : Monitor :=
  { m with pools := m.pools.map fun e => if e.1 = id then (id, p) else e }

/-- The monitor with its counters changed. -/
def count (m : Monitor) (f : Counters → Counters) : Monitor :=
  { m with counters := f m.counters }

/-- Counts a check. -/
def countCheck (m : Monitor) : Monitor :=
  m.count fun c => { c with checks := c.checks + 1 }

/-- Counts a registration. -/
def countRegistration (m : Monitor) : Monitor :=
  m.count fun c => { c with registrations := c.registrations + 1 }

/-- Counts an object that is no longer tracked. -/
def countUnregistration (m : Monitor) : Monitor :=
  m.count fun c => { c with unregistrations := c.unregistrations + 1 }

/-- Reports a violation to the log. -/
def report (m : Monitor) (v : Violation) : Decision × Monitor :=
  let (decision, alerts) := m.alerts.report v
  let m := m.count fun c =>
    if v.isWarning then { c with warnings := c.warnings + 1 } else { c with faults := c.faults + 1 }
  (decision, { m with alerts })

/-- Reports the violation in a result, if there is one, as found at a site. -/
def reported {α : Type} (m : Monitor) (r : Except Violation α) (site : Option Site) :
    Except Violation α × Monitor :=
  match r with
  | .ok a => (.ok a, m)
  | .error v =>
    let v := v.atSite? site
    (.error v, (m.report v).2)

/-- Creates an empty pool. -/
def createPool (m : Monitor) : PoolId × Monitor :=
  let id := m.nextPool
  let p : Pool := { retention := m.settings.retention }
  let m := { m with pools := m.pools ++ [(id, p)], nextPool := id + 1 }
  (id, m.count fun c => { c with poolsCreated := c.poolsCreated + 1 })

/-- Destroys a pool with all its objects. Says whether there was one. -/
def destroyPool (m : Monitor) (id : PoolId) : Bool × Monitor :=
  match m.pool? id with
  | none => (false, m)
  | some _ =>
    let m := { m with pools := m.pools.filter fun e => e.1 ≠ id }
    (true, m.count fun c => { c with poolsDestroyed := c.poolsDestroyed + 1 })

/-- Announces a family of allocation functions. -/
def announce (m : Monitor) (f : Allocator) : Monitor :=
  { m with allocators := m.allocators.announce f }

/-- The object from outside that covers an address. -/
def externalAt (m : Monitor) (a : Address) : Option Object × Monitor :=
  let (o, external) := m.external.objectAt a
  (o, { m with external })

end Monitor

end MemorySentry
