import MemorySentry.Monitor.Basic
import MemorySentry.Pool.Check
import MemorySentry.DirectCheck

/-!
# Checks of a running program

A check first asks the pool. Where the pool knows nothing about the pointer, the objects that the
program received from outside decide, and only if these know nothing either the verdict of the pool
counts.
-/

namespace MemorySentry.Monitor

/-- Whether a pool knows nothing about the pointer that it judged. -/
def missed (a : Address) : Except Violation Verdict → Bool
  | .ok .unknown => true
  | .ok _ => false
  | .error v => a ≠ 0 && v.span.isNone && v.history.isNone

/-- Lets the objects from outside judge a pointer about which the pool knows nothing. -/
def orExternal (m : Monitor) (a : Address) (r : Except Violation Verdict)
    (judge : Pool → Except Violation Verdict × Pool) : Except Violation Verdict × Monitor :=
  if missed a r then
    let (fromOutside, external) := judge m.external
    let m := { m with external }
    match fromOutside with
    | .ok .unknown =>
      match r with
      | .ok .unknown =>
        (r, m.count fun c => { c with incompletePasses := c.incompletePasses + 1 })
      | _ => (r, m)
    | _ => (fromOutside, m.count fun c => { c with externalHits := c.externalHits + 1 })
  else (r, m)

/-- Lets a pool judge, without a verdict if there is no such pool. -/
def judgeIn {α : Type} (m : Monitor) (id : PoolId) (absent : α)
    (judge : Pool → Except Violation α × Pool) : Except Violation α × Monitor :=
  match m.pool? id with
  | none => (.ok absent, m)
  | some p =>
    let (r, p) := judge p
    (r, m.setPool id p)

/-- Checks an access of `length` bytes from an address on. -/
def checkAccess (m : Monitor) (id : PoolId) (a : Address) (length : ByteCount) (mode : CheckMode)
    (site : Option Site) : Except Violation Verdict × Monitor :=
  let (r, m) := m.countCheck.judgeIn id .unknown fun p => p.checkAccess a length mode
  let (r, m) := m.orExternal a r fun p =>
    p.checkAccess a length { mode with provenance := .incomplete }
  m.reported r site

/-- Checks that pointer arithmetic stays in an object or goes to the address after it. -/
def checkArithmetic (m : Monitor) (id : PoolId) (source dest : Address) (mode : CheckMode)
    (site : Option Site) : Except Violation Verdict × Monitor :=
  let (r, m) := m.countCheck.judgeIn id .unknown fun p => p.checkArithmetic source dest mode
  let (r, m) := m.orExternal source r fun p => p.checkArithmetic source dest ⟨.incomplete, .read⟩
  m.reported r site

/-- Checks that an address is at an element of its object in the pool. -/
def checkAlignment (m : Monitor) (id : PoolId) (a : Address) (elementSize : ByteCount)
    (site : Option Site) : Except Violation Unit × Monitor :=
  let (r, m) := m.countCheck.judgeIn id () fun p => p.checkAlignment a elementSize
  m.reported r site

/-- Checks that a pointer derived from an object of `size` bytes at `base` still points into it. -/
def checkDerived (m : Monitor) (base pointer : Address) (size : ByteCount) (site : Option Site) :
    Except Violation Address × Monitor :=
  m.countCheck.reported (DirectCheck.address base pointer size) site

/-- Checks that an access of `length` bytes stays in an object of `size` bytes at `base`. -/
def checkDerivedAccess (m : Monitor) (base pointer : Address) (size length : ByteCount)
    (site : Option Site) : Except Violation Unit × Monitor :=
  m.countCheck.reported (DirectCheck.access base pointer size length) site

/-- Checks that a call goes to one of the functions that it may go to. If there may be more of them,
nothing can be said. -/
def checkCallTarget (m : Monitor) (target : Address) (targets : List Address)
    (provenance : Provenance) (site : Option Site) : Except Violation Unit × Monitor :=
  match provenance with
  | .incomplete => (.ok (), m.countCheck)
  | .complete => m.countCheck.reported (DirectCheck.callTarget target targets) site

/-- The number of bytes before the first zero byte among the next ones of memory. -/
def stringLength? (memory : Address → UInt8) (a : Address) : Nat → Option ByteCount
  | 0 => none
  | n + 1 => if memory a = 0 then some 0 else (stringLength? memory (a + 1) n).map (· + 1)

/-- Checks that a string ends inside its object, which may come from outside. -/
def checkString (m : Monitor) (memory : Address → UInt8) (id : PoolId) (a : Address)
    (function : String) (site : Option Site) : Except Violation (Option ByteCount) × Monitor :=
  let m := m.countCheck
  if a = 0 then (.ok none, m)
  else
    let (o, m) := match m.pool? id with
      | none => (none, m)
      | some p =>
        let (o, p) := p.objectAt a
        (o, m.setPool id p)
    let (o, m) := match o with
      | some o => (some o, m)
      | none => m.externalAt a
    match o with
    | none => (.ok none, m.count fun c => { c with incompletePasses := c.incompletePasses + 1 })
    | some o =>
      match stringLength? memory a (o.span.stop - a).toNat with
      | some n => m.reported (.ok (some n)) site
      | none =>
        let v := (({ kind := .libraryMisuse, pointer := a } : Violation).about o).calling function
        m.reported (.error v) site

end MemorySentry.Monitor
