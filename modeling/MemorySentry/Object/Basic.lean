import MemorySentry.Span

/-!
# Tracked objects

An `Object` is what is known about one span of the program's memory: how it came to be, when and
where it was allocated, and, once it has been freed, when and where that happened. An object is live
as long as it has no release.
-/

namespace MemorySentry

/-- How an object came to be tracked. -/
inductive ObjectKind where
  | global
  | stack
  | heap
  /-- A copy of an argument passed by value. -/
  | byValue
  /-- Memory from an allocator that the program announced itself. -/
  | custom
  /-- Memory that the program did not allocate, such as its arguments and its environment. -/
  | external
deriving DecidableEq

namespace ObjectKind

/-- All kinds. -/
def all : List ObjectKind := [.global, .stack, .heap, .byValue, .custom, .external]

/-- Whether objects of the kind may be handed to a deallocator. -/
def isHeap : ObjectKind → Bool
  | .heap | .custom => true
  | _ => false

/-- Whether an object of the kind is widened when another such object overlaps it. Linker-merged
constants and frames that are entered again register the same memory twice; objects of the other
kinds are replaced. -/
def merges : ObjectKind → Bool
  | .global | .stack | .external => true
  | _ => false

/-- The word for the kind in alerts and in traces. -/
def name : ObjectKind → String
  | .global => "global"
  | .stack => "stack"
  | .heap => "heap"
  | .byValue => "byval"
  | .custom => "custom"
  | .external => "external"

/-- The word for the kind in JSON records. -/
def jsonName : ObjectKind → String
  | .byValue => "by_val"
  | k => k.name

/-- The kind that a word in alerts and traces means. -/
def ofName? (s : String) : Option ObjectKind :=
  all.find? fun k => k.name == s

end ObjectKind

/-- Where the program allocates, frees or uses memory. -/
structure Site where
  /-- A number that the instrumentation chose for the place. -/
  tag : UInt32
  /-- The program counter, or 0 if it is not known. -/
  pc : Address := 0
  /-- The source file, if it is known. -/
  source : Option String := none
  /-- The line in the source file. -/
  line : UInt32 := 0
deriving DecidableEq

/-- The source position of a site; `UNKNOWN` stands for a file that is not known. -/
def Site.position (site : Option Site) : String :=
  match site with
  | none => "UNKNOWN:0"
  | some s => s.source.getD "UNKNOWN" ++ ":" ++ toString s.line.toNat

/-- When and where an object was freed. -/
structure Release where
  /-- The sequence number of the free. -/
  id : Nat
  /-- The place of the free. -/
  site : Option Site
deriving DecidableEq

/-- A tracked object. -/
structure Object where
  /-- The memory of the object. -/
  span : Span
  /-- How the object came to be. -/
  kind : ObjectKind
  /-- The sequence number of the allocation. -/
  allocId : Nat
  /-- The place of the allocation. -/
  allocSite : Option Site
  /-- The free of the object; none while it is live. -/
  release : Option Release := none
deriving DecidableEq

namespace Object

/-- Whether the object has not been freed. -/
def isLive (o : Object) : Bool :=
  o.release.isNone

/-- The sequence number of the free, 0 while the object is live. -/
def freeId (o : Object) : Nat :=
  (o.release.map Release.id).getD 0

/-- The place of the free, if the object has been freed and the place is known. -/
def freeSite (o : Object) : Option Site :=
  o.release.bind Release.site

/-- The object after a free. -/
def retire (o : Object) (id : Nat) (site : Option Site) : Object :=
  { o with release := some ⟨id, site⟩ }

end Object

end MemorySentry
