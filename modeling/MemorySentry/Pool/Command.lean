import MemorySentry.Pool.Linear

/-!
# Operations on pools as data

A `Command` is one operation on a pool with its arguments, and an `Answer` is what it returns. Runs
of commands are what statements about all uses of a pool speak of; a `Pool` and a `LinearPool` can
be given the same run.
-/

namespace MemorySentry.Pool

/-- An operation on a pool. -/
inductive Command where
  | register (s : Span) (kind : ObjectKind) (site : Option Site)
  | registerBytes (a : Address) (size : ByteCount) (kind : ObjectKind) (site : Option Site)
  | free (a : Address) (site : Option Site)
  | endScope (a : Address)
  | move (new old : Address) (size : ByteCount) (kind : ObjectKind) (site : Option Site)
  | checkAccess (a : Address) (length : ByteCount) (mode : CheckMode)
  | checkAlignment (a : Address) (elementSize : ByteCount)
  | checkArithmetic (source dest : Address) (mode : CheckMode)
  | objectAt (a : Address)
  | retainedAt (a : Address)
  | objects
  | stats
  | reset
deriving DecidableEq

/-- What an operation on a pool returns. -/
inductive Answer where
  /-- The operation returns nothing. -/
  | done
  /-- What a registration did; nothing if there was nothing to register. -/
  | registration (r : Option Registration)
  /-- An object, if there is one. -/
  | object (o : Option Object)
  /-- The freed object, or the violation of a free. -/
  | freed (r : Except Violation (Option Object))
  /-- What a move registered, or the violation of its free. -/
  | moved (r : Except Violation (Option Registration))
  /-- The verdict of a check, or its violation. -/
  | verdict (r : Except Violation Verdict)
  /-- The outcome of an alignment check. -/
  | aligned (r : Except Violation Unit)
  /-- All live objects. -/
  | objects (os : List Object)
  /-- The sizes of the pool. -/
  | stats (s : Stats)

/-- Whether an operation only asks and checks. -/
def Command.isReading : Command → Bool
  | .checkAccess .. | .checkAlignment .. | .checkArithmetic .. | .objectAt _ | .retainedAt _
  | .objects | .stats => true
  | _ => false

/-- Carries out one operation on a pool. -/
def perform (p : Pool) (numbers : Numbering) : Command → Answer × Pool × Numbering
  | .register s kind site =>
    let (r, p, numbers) := p.register numbers s kind site
    (.registration (some r), p, numbers)
  | .registerBytes a size kind site =>
    let (r, p, numbers) := p.registerBytes numbers a size kind site
    (.registration r, p, numbers)
  | .free a site =>
    let (r, p, numbers) := p.free numbers a site
    (.freed r, p, numbers)
  | .endScope a =>
    let (o, p) := p.endScope a
    (.object o, p, numbers)
  | .move new old size kind site =>
    let (r, p, numbers) := p.move numbers new old size kind site
    (.moved r, p, numbers)
  | .checkAccess a length mode =>
    let (r, p) := p.checkAccess a length mode
    (.verdict r, p, numbers)
  | .checkAlignment a elementSize =>
    let (r, p) := p.checkAlignment a elementSize
    (.aligned r, p, numbers)
  | .checkArithmetic source dest mode =>
    let (r, p) := p.checkArithmetic source dest mode
    (.verdict r, p, numbers)
  | .objectAt a =>
    let (o, p) := p.objectAt a
    (.object o, p, numbers)
  | .retainedAt a =>
    let (o, p) := p.findRetained a
    (.object o, p, numbers)
  | .objects => (.objects p.objects, p, numbers)
  | .stats => (.stats p.stats, p, numbers)
  | .reset => (.done, p.reset, numbers)

/-- Carries out a run of operations and collects the answers. -/
def performAll (p : Pool) (numbers : Numbering) : List Command → List Answer × Pool × Numbering
  | [] => ([], p, numbers)
  | c :: rest =>
    let (answer, p, numbers) := p.perform numbers c
    let (answers, p, numbers) := performAll p numbers rest
    (answer :: answers, p, numbers)

end MemorySentry.Pool

namespace MemorySentry.LinearPool

open Pool (Command Answer)

/-- Carries out one operation on a linear pool. It counts no hits. -/
def perform (p : LinearPool) (numbers : Numbering) : Command → Answer × LinearPool × Numbering
  | .register s kind site =>
    let (r, p, numbers) := p.register numbers s kind site
    (.registration (some r), p, numbers)
  | .registerBytes a size kind site =>
    let (r, p, numbers) := p.registerBytes numbers a size kind site
    (.registration r, p, numbers)
  | .free a site =>
    let (r, p, numbers) := p.free numbers a site
    (.freed r, p, numbers)
  | .endScope a =>
    let (o, p) := p.endScope a
    (.object o, p, numbers)
  | .move new old size kind site =>
    let (r, p, numbers) := p.move numbers new old size kind site
    (.moved r, p, numbers)
  | .checkAccess a length mode => (.verdict (p.checkAccess a length mode), p, numbers)
  | .checkAlignment a elementSize => (.aligned (p.checkAlignment a elementSize), p, numbers)
  | .checkArithmetic source dest mode => (.verdict (p.checkArithmetic source dest mode), p, numbers)
  | .objectAt a => (.object (p.objectAt a), p, numbers)
  | .retainedAt a => (.object (p.retainedAt a), p, numbers)
  | .objects => (.objects p.live, p, numbers)
  | .stats => (.stats ⟨p.live.length, p.retained.length, 0⟩, p, numbers)
  | .reset => (.done, { p with live := [], retained := [] }, numbers)

/-- Carries out a run of operations and collects the answers. -/
def performAll (p : LinearPool) (numbers : Numbering) :
    List Command → List Answer × LinearPool × Numbering
  | [] => ([], p, numbers)
  | c :: rest =>
    let (answer, p, numbers) := p.perform numbers c
    let (answers, p, numbers) := performAll p numbers rest
    (answer :: answers, p, numbers)

end MemorySentry.LinearPool
