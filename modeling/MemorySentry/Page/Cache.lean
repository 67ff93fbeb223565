import MemorySentry.Page.Request

/-!
# Cached pages

Pages are taken from the operating system in runs and never given back: released runs are cached and
handed out again before new ones are mapped. Single pages are mapped in batches.

Addresses and numbers of bytes that need more than 64 bits stop an operation in the middle
(`PageFailure.overflow`). What was done until then stays done.
-/

namespace MemorySentry

/-- Consecutive pages. -/
structure PageRun where
  /-- The first address. -/
  start : Address
  /-- The number of pages. -/
  pages : UInt64
deriving DecidableEq

/-- The pages that wait to be handed out, and what has become of pages so far. The counters go on
from zero when they pass 64 bits. -/
structure PageCache where
  /-- The number of bytes of a page. -/
  pageSize : UInt64
  /-- The runs that wait, in the order in which they are considered. -/
  free : List PageRun := []
  /-- The number of pages mapped. -/
  mapped : UInt64 := 0
  /-- The number of pages handed out from the cache. -/
  reused : UInt64 := 0
  /-- The number of pages released. -/
  released : UInt64 := 0
deriving DecidableEq

namespace PageCache

/-- A cache without pages, for pages of so many bytes. -/
def start (page : UInt64) : PageCache where
  pageSize := page

/-- The number of pages mapped at once when one page is needed. -/
def batchPages : UInt64 := 8

/-- The number of pages that wait. -/
def cached (c : PageCache) : Except Word.Overflow UInt64 :=
  c.free.foldlM (fun n r => Word.sum n r.pages) 0

/-- What a cache tells of itself. -/
structure Stats where
  mapped : UInt64
  reused : UInt64
  released : UInt64
  cached : UInt64
deriving DecidableEq

/-- The counters of a cache with the number of pages that wait. -/
def stats (c : PageCache) : Except Word.Overflow Stats :=
  c.cached.map fun cached => ⟨c.mapped, c.reused, c.released, cached⟩

/-- The number of pages to map when `n` are needed. -/
def batch (n : UInt64) : UInt64 :=
  if n = 1 then batchPages else n

/-- What is left of a run after its first `n` pages. -/
def rest (page : UInt64) (r : PageRun) (n : UInt64) : Except Word.Overflow (List PageRun) :=
  if n < r.pages then do
    let bytes ← Word.product n page
    let start ← Word.sum r.start bytes
    return [⟨start, r.pages - n⟩]
  else return []

/-- The list with the element at position `i` replaced by the last one. -/
def swapRemove (l : List PageRun) (i : Nat) : List PageRun :=
  match l.getLast? with
  | some r => (l.set i r).dropLast
  | none => l

/-- The first `n` pages of the first run that has as many. The last run moves to the place of that
run, and what is left of it goes to the end. -/
def take? (c : PageCache) (n : UInt64) : Option (Except Word.Overflow Address × PageCache) :=
  match c.free.findIdx? fun r => n ≤ r.pages with
  | none => none
  | some i =>
    (c.free[i]?).map fun r =>
      let free := swapRemove c.free i
      match rest c.pageSize r n with
      | .error o => (.error o, { c with free })
      | .ok left => (.ok r.start, { c with free := free ++ left, reused := c.reused + n })

/-- Hands out `n` pages. If no cached run has as many, `map` asks the operating system, whose state
is threaded through, for memory of some number of bytes. -/
def acquire {σ : Type} (c : PageCache) (map : ByteCount → σ → Except Errno Address × σ) (os : σ)
    (n : UInt64) : Except PageFailure Address × PageCache × σ :=
  if n = 0 then (.error (.unmet .emptyRequest), c, os)
  else
    match c.take? n with
    | some (r, c) => (r.mapError .overflow, c, os)
    | none =>
      let pages := batch n
      match Word.mul? pages c.pageSize with
      | none => (.error (.unmet (.exhausted pages.toNat .outOfMemory)), c, os)
      | some bytes =>
        match map bytes os with
        | (.error errno, os) => (.error (.unmet (.exhausted pages.toNat errno)), c, os)
        | (.ok a, os) =>
          let c := { c with mapped := c.mapped + pages }
          match rest c.pageSize ⟨a, pages⟩ n with
          | .error o => (.error (.overflow o), c, os)
          | .ok left => (.ok a, { c with free := c.free ++ left }, os)

/-- Takes back `n` pages. No pages, and pages at the null address, are none. -/
def release (c : PageCache) (a : Address) (n : UInt64) : PageCache :=
  if a = 0 ∨ n = 0 then c
  else { c with free := c.free ++ [⟨a, n⟩], released := c.released + n }

end PageCache

end MemorySentry
