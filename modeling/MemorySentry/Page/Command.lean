import MemorySentry.Page.Cache

/-!
# Requests to page caches as data

A `Command` asks for pages or gives pages back, and an `Answer` is what the cache says to that. A
run is a list of commands, and the operating system is threaded through it.
-/

namespace MemorySentry.PageCache

/-- What is asked of a cache. -/
inductive Command where
  | acquire (n : UInt64)
  | release (a : Address) (n : UInt64)

/-- What a cache returns. -/
inductive Answer where
  /-- The address of the pages that are handed out. -/
  | acquired (r : Except PageFailure Address)
  /-- Nothing is returned. -/
  | done

variable {σ : Type} (map : ByteCount → σ → Except Errno Address × σ)

/-- Carries out one command. -/
def perform (c : PageCache) (os : σ) : Command → Answer × PageCache × σ
  | .acquire n =>
    let (r, c, os) := c.acquire map os n
    (.acquired r, c, os)
  | .release a n => (.done, c.release a n, os)

/-- Carries out a run of commands and collects the answers. -/
def performAll (c : PageCache) (os : σ) : List Command → List Answer × PageCache × σ
  | [] => ([], c, os)
  | command :: rest =>
    let (answer, c, os) := c.perform map os command
    let (answers, c, os) := performAll c os rest
    (answer :: answers, c, os)

end MemorySentry.PageCache
