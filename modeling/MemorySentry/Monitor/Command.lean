import MemorySentry.Monitor.Check
import MemorySentry.Monitor.Shadow
import MemorySentry.Monitor.Tracking

/-!
# Operations on monitors as data

A `Command` is one operation on a monitor with its arguments, among them what the operation is told
about memory and by the operating system. An `Answer` is what it returns. A run is a list of
commands.
-/

namespace MemorySentry.Monitor

/-- An operation on a monitor. -/
inductive Command where
  | createPool
  | destroyPool (id : PoolId)
  | poolCount
  | poolStats (id : PoolId)
  | objects (id : PoolId)
  | objectAt (id : PoolId) (a : Address)
  | retainedAt (id : PoolId) (a : Address)
  | register (id : PoolId) (a : Address) (size : ByteCount) (kind : ObjectKind)
      (site : Option Site)
  | registerExternal (a : Address) (size : ByteCount) (site : Option Site)
  | externalAt (a : Address)
  | free (id : PoolId) (a : Address) (site : Option Site)
  | endScope (id : PoolId) (a : Address)
  | move (id : PoolId) (new old : Address) (size : ByteCount) (site : Option Site)
  | checkAccess (id : PoolId) (a : Address) (length : ByteCount) (mode : CheckMode)
      (site : Option Site)
  | checkArithmetic (id : PoolId) (source dest : Address) (mode : CheckMode) (site : Option Site)
  | checkAlignment (id : PoolId) (a : Address) (elementSize : ByteCount) (site : Option Site)
  | checkDerived (base pointer : Address) (size : ByteCount) (site : Option Site)
  | checkDerivedAccess (base pointer : Address) (size length : ByteCount) (site : Option Site)
  | checkCallTarget (target : Address) (targets : List Address) (provenance : Provenance)
      (site : Option Site)
  | checkString (memory : Address → UInt8) (id : PoolId) (a : Address) (function : String)
      (site : Option Site)
  | announce (f : Allocator)
  | allocated (id : PoolId) (c : Call) (measure : Address → Option ByteCount) (site : Option Site)
  | deallocated (id : PoolId) (c : Call) (site : Option Site)
  | shadow (remap : Page.Request → Except Errno Address) (a : Address) (length : ByteCount)
  | unshadow (protect : Page.Request → Except Errno Unit) (a : Address)
  | canonicalOf (a : Address)
  | report (v : Violation)
  | counters

/-- What an operation on a monitor returns. -/
inductive Answer where
  /-- The operation returns nothing. -/
  | done
  /-- The number of a new pool. -/
  | pool (id : PoolId)
  /-- The answer to a yes-or-no question. -/
  | truth (b : Bool)
  /-- A number of things. -/
  | number (n : Nat)
  /-- The sizes of a pool, if there is one. -/
  | stats (s : Option Pool.Stats)
  /-- The live objects of a pool, if there is one. -/
  | objects (os : Option (List Object))
  /-- An object, if there is one. -/
  | object (o : Option Object)
  /-- What a registration did, if there was anything to register. -/
  | registration (r : Option Registration)
  /-- What a move registered, or the violation of its free. -/
  | moved (r : Except Violation (Option Registration))
  /-- The freed object, or the violation of a free. -/
  | freed (r : Except Violation (Option Object))
  /-- The verdict of a check, or its violation. -/
  | verdict (r : Except Violation Verdict)
  /-- The outcome of a check without a verdict. -/
  | checked (r : Except Violation Unit)
  /-- The pointer of a check of a derived pointer. -/
  | derived (r : Except Violation Address)
  /-- The length of a string, if its object is known. -/
  | string (r : Except Violation (Option ByteCount))
  /-- The address of a second view. -/
  | shadow (r : Except PageFailure Address)
  /-- The second view that was revoked, if there was one. -/
  | unshadowed (r : Except PageFailure (Option Shadow))
  /-- An address, if there is one. -/
  | address (r : Except Word.Overflow (Option Address))
  /-- Whether the program may go on. -/
  | decision (d : Decision)
  /-- How often things happened. -/
  | counters (c : Counters)

/-- The violation in an answer. -/
def Answer.violation? : Answer → Option Violation
  | .moved (.error v) | .freed (.error v) | .verdict (.error v) | .checked (.error v)
  | .derived (.error v) | .string (.error v) => some v
  | _ => none

/-- Asks a pool; there is no answer if there is no such pool. -/
def askPool {α : Type} (m : Monitor) (id : PoolId) (ask : Pool → Option α × Pool) :
    Option α × Monitor :=
  match m.pool? id with
  | none => (none, m)
  | some p =>
    let (o, p) := ask p
    (o, m.setPool id p)

/-- Carries out one operation on a monitor. -/
def perform (m : Monitor) : Command → Answer × Monitor
  | .createPool =>
    let (id, m) := m.createPool
    (.pool id, m)
  | .destroyPool id =>
    let (b, m) := m.destroyPool id
    (.truth b, m)
  | .poolCount => (.number m.pools.length, m)
  | .poolStats id => (.stats ((m.pool? id).map Pool.stats), m)
  | .objects id => (.objects ((m.pool? id).map Pool.objects), m)
  | .objectAt id a =>
    let (o, m) := m.askPool id fun p => p.objectAt a
    (.object o, m)
  | .retainedAt id a =>
    let (o, m) := m.askPool id fun p => p.findRetained a
    (.object o, m)
  | .register id a size kind site =>
    let (r, m) := m.register id a size kind site
    (.registration r, m)
  | .registerExternal a size site =>
    let (r, m) := m.registerExternal a size site
    (.registration r, m)
  | .externalAt a =>
    let (o, m) := m.externalAt a
    (.object o, m)
  | .free id a site =>
    let (r, m) := m.free id a site
    (.freed r, m)
  | .endScope id a =>
    let (o, m) := m.endScope id a
    (.object o, m)
  | .move id new old size site =>
    let (r, m) := m.move id new old size .heap site
    (.moved r, m)
  | .checkAccess id a length mode site =>
    let (r, m) := m.checkAccess id a length mode site
    (.verdict r, m)
  | .checkArithmetic id source dest mode site =>
    let (r, m) := m.checkArithmetic id source dest mode site
    (.verdict r, m)
  | .checkAlignment id a elementSize site =>
    let (r, m) := m.checkAlignment id a elementSize site
    (.checked r, m)
  | .checkDerived base pointer size site =>
    let (r, m) := m.checkDerived base pointer size site
    (.derived r, m)
  | .checkDerivedAccess base pointer size length site =>
    let (r, m) := m.checkDerivedAccess base pointer size length site
    (.checked r, m)
  | .checkCallTarget target targets provenance site =>
    let (r, m) := m.checkCallTarget target targets provenance site
    (.checked r, m)
  | .checkString memory id a function site =>
    let (r, m) := m.checkString memory id a function site
    (.string r, m)
  | .announce f => (.done, m.announce f)
  | .allocated id c measure site =>
    let (r, m) := m.allocated id c measure site
    (.moved r, m)
  | .deallocated id c site =>
    let (r, m) := m.deallocated id c site
    (.freed r, m)
  | .shadow remap a length =>
    let (r, m, _) := m.shadow (fun request os => (remap request, os)) () a length
    (.shadow r, m)
  | .unshadow protect a =>
    let (r, m) := m.unshadow protect a
    (.unshadowed r, m)
  | .canonicalOf a => (.address (m.canonicalOf a), m)
  | .report v =>
    let (d, m) := m.report v
    (.decision d, m)
  | .counters => (.counters m.counters, m)

/-- Carries out a run of operations and collects the answers. -/
def performAll (m : Monitor) : List Command → List Answer × Monitor
  | [] => ([], m)
  | c :: rest =>
    let (answer, m) := m.perform c
    let (answers, m) := performAll m rest
    (answer :: answers, m)

end MemorySentry.Monitor
