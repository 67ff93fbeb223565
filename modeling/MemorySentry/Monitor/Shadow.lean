import MemorySentry.Monitor.Basic

/-!
# Second views of memory

The pages of an object can be mapped a second time, and the second view revoked later, so that every
use of it traps. What the operating system answers is an argument of these operations.
-/

namespace MemorySentry.Monitor

/-- The pages that hold `length` bytes from an address on. -/
def pagesOf (page : UInt64) (a : Address) (length : ByteCount) :
    Except PageError (Address × UInt64) :=
  if a = 0 ∨ length = 0 then .error .emptyRequest
  else
    match Span.ofLength a length with
    | .error e => .error (.invalidRange e)
    | .ok s =>
      let canonical := Page.base page a
      .ok (canonical, UInt64.ofNat (Word.divUp (s.stop - canonical).toNat page.toNat))

/-- Maps the pages of `length` bytes a second time and gives the second address of the first byte.
`remap` asks the operating system, whose state is threaded through. -/
def shadow {σ : Type} (m : Monitor) (remap : Page.Request → σ → Except Errno Address × σ) (os : σ)
    (a : Address) (length : ByteCount) : Except PageFailure Address × Monitor × σ :=
  match pagesOf m.pageSize a length with
  | .error e => (.error (.unmet e), m, os)
  | .ok (canonical, pages) =>
    match Page.request m.pageSize .remap canonical pages with
    | .error e => (.error e, m, os)
    | .ok request =>
      let (reply, os) := remap request os
      match Page.answer .remap request reply with
      | .error e => (.error e, m, os)
      | .ok base =>
        let shadows := ⟨canonical, base, pages⟩ :: m.shadows.filter fun s => s.base ≠ base
        ((Word.sum base (a - canonical)).mapError .overflow, { m with shadows }, os)

/-- Revokes the second view on whose first page an address lies. A view that cannot be protected is
forgotten all the same. -/
def unshadow (m : Monitor) (protect : Page.Request → Except Errno Unit) (a : Address) :
    Except PageFailure (Option Shadow) × Monitor :=
  match m.shadows.find? fun s => s.base == Page.base m.pageSize a with
  | none => (.ok none, m)
  | some s =>
    let m := { m with shadows := m.shadows.filter fun t => t.base ≠ s.base }
    match Page.request m.pageSize .protect s.base s.pages with
    | .error e => (.error e, m)
    | .ok request =>
      match Page.answer .protect request (protect request) with
      | .error e => (.error e, m)
      | .ok () => (.ok (some s), m)

/-- The first address of a byte, if a second view shows it at some address. -/
def Shadow.canonicalOf (page : UInt64) (s : Shadow) (a : Address) :
    Except Word.Overflow (Option Address) := do
  let length ← Word.product s.pages page
  match Span.ofLength s.base length with
  | .error _ => return none
  | .ok span =>
    if span.contains a then return some (← Word.sum s.canonical (a - s.base)) else return none

/-- The first address of a byte that is shown at some address. -/
def canonicalOf (m : Monitor) (a : Address) : Except Word.Overflow (Option Address) :=
  m.shadows.findSomeM? fun s => Shadow.canonicalOf m.pageSize s a

end MemorySentry.Monitor
