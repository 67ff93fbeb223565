import MemorySentry.Span

/-!
# Requests for pages

Memory for bookkeeping and second views of memory come from the operating system in whole pages. How
many bytes a page has is up to the operating system. A `PageError` says why a request was not met; a
`PageFailure` may also be that a number did not fit in a word, of which the caller learns nothing.
-/

namespace MemorySentry

/-- The number by which the operating system explains a refusal. -/
abbrev Errno := Nat

/-- Out of memory, or memory that is not mapped. -/
def Errno.outOfMemory : Errno := 12

/-- Why a request for pages was not met. -/
inductive PageError where
  /-- No pages were asked for. -/
  | emptyRequest
  /-- The memory named is no span. -/
  | invalidRange (e : Span.Error)
  /-- There is no memory for that many pages. -/
  | exhausted (pages : Nat) (errno : Errno)
  /-- The operating system refused to act on pages. -/
  | refused (action : String) (a : Address) (errno : Errno)
deriving DecidableEq

/-- The wording of a request that was not met. -/
def PageError.message : PageError → String
  | .emptyRequest => "page request of zero pages"
  | .invalidRange e => "invalid page range: " ++ e.message
  | .exhausted pages errno =>
    "os refused " ++ toString pages ++ " pages (errno " ++ toString errno ++ ")"
  | .refused action a errno =>
    action ++ " failed at " ++ Word.hex a.toNat ++ " (errno " ++ toString errno ++ ")"

/-- How an operation on pages ends if not with a result. -/
inductive PageFailure where
  /-- The request was not met, which the caller is told. -/
  | unmet (e : PageError)
  /-- A number needs more than 64 bits. The operation stops there, and so does the program unless
  its caller is prepared for that. -/
  | overflow (o : Word.Overflow)
deriving DecidableEq

namespace Page

/-- The number of bytes of a page where the operating system does not say. -/
def usualSize : UInt64 := 4096

/-- The number of bytes of a page, given what the operating system says, which is not positive if it
does not know. -/
def size (told : Int64) : UInt64 :=
  if 0 < told then told.toUInt64 else usualSize

/-- The first address of the page of an address, for pages of so many bytes. -/
def base (page : UInt64) (a : Address) : Address :=
  a &&& ~~~(page - 1)

/-- What is done to pages as a whole. -/
inductive Action where
  /-- All access to them is revoked. -/
  | protect
  /-- They can be read and written again. -/
  | unprotect
  /-- They become visible at other addresses as well. -/
  | remap
deriving DecidableEq

/-- The name of an action in messages. -/
def Action.name : Action → String
  | .protect => "protect"
  | .unprotect => "unprotect"
  | .remap => "remap"

/-- What the operating system is asked to do with memory. -/
structure Request where
  /-- The first address. -/
  start : Address
  /-- The number of bytes. -/
  bytes : ByteCount
deriving DecidableEq

/-- The request for an action on `n` pages. Protection is asked for from the start of a page on; a
remapping is asked for at the address as it is. Their number of bytes has to fit in a word. -/
def request (page : UInt64) (action : Action) (a : Address) (n : UInt64) :
    Except PageFailure Request :=
  if n = 0 then .error (.unmet .emptyRequest)
  else
    match Word.product n page with
    | .error o => .error (.overflow o)
    | .ok bytes => .ok ⟨if action = .remap then a else base page a, bytes⟩

/-- The outcome of an action on pages, given the answer of the operating system. -/
def answer {α : Type} (action : Action) (r : Request) (reply : Except Errno α) :
    Except PageFailure α :=
  match reply with
  | .ok a => .ok a
  | .error errno => .error (.unmet (.refused action.name r.start errno))

end Page

end MemorySentry
