import MemorySentry.Span

/-!
# The slots of a span map

The nodes of a span map live in numbered slots, and the links between nodes are slot numbers. A
vacant slot holds the number of the next vacant one, so that all vacant slots form a list through
the slots themselves. A slot number at or above the high-water mark has not been handed out since
the arena was last cleared, whatever the slot still holds.

Every access names a slot, and an access to a slot that holds no node is a `Fault` instead of a
made-up node. The operations of the map are built from these accesses, so "the map never faults" is
a statement about all of them.
-/

namespace MemorySentry.SpanMap

/-- The number of a slot. A program has 32-bit slot numbers, of which the last one stands for no
slot, and ends when it runs out of them: its slots are these as long as it needs no more than
`2 ^ 32 - 1`. -/
abbrev SlotId := Nat

/-- A link to another slot, or to none. -/
abbrev Link := Option SlotId

/-- A stored span with its value and the links to its two subtrees. -/
structure Node (α : Type) where
  /-- The span that is the node's key. -/
  span : Span
  /-- The value stored for the span. -/
  value : α
  /-- The subtree of lower spans. -/
  left : Link
  /-- The subtree of higher spans. -/
  right : Link

/-- What a slot holds. -/
inductive Slot (α : Type) where
  /-- No node, but the next vacant slot. -/
  | vacant (next : Link)
  /-- A node. -/
  | occupied (node : Node α)

/-- An access that the slots cannot carry out. -/
inductive Fault where
  /-- The slot was not handed out since the last clearing. -/
  | outOfRange (slot : SlotId)
  /-- The slot holds no node. -/
  | vacant (slot : SlotId)
  /-- The list of vacant slots leads to a slot that holds a node. -/
  | occupiedFree (slot : SlotId)
  /-- A walk along the links met more nodes than there are slots. -/
  | endless
deriving DecidableEq

/-- Numbered slots for the nodes of a span map. -/
structure Arena (α : Type) where
  /-- All slots ever used, whether handed out at present or not. -/
  slots : Array (Slot α) := #[]
  /-- The number of slots handed out since the last clearing; slots from here on are unused. -/
  highWater : Nat := 0
  /-- The first vacant slot below the high-water mark. -/
  firstFree : Link := none
  /-- The number of nodes. -/
  count : Nat := 0

namespace Arena

variable {α : Type}

/-- The content of a slot that was handed out. -/
def slot (arena : Arena α) (i : SlotId) : Except Fault (Slot α) :=
  if i < arena.highWater then
    match arena.slots[i]? with
    | some content => .ok content
    | none => .error (.outOfRange i)
  else
    .error (.outOfRange i)

/-- The node in a slot. -/
def node (arena : Arena α) (i : SlotId) : Except Fault (Node α) := do
  match ← arena.slot i with
  | .occupied n => return n
  | .vacant _ => .error (.vacant i)

/-- Replaces the content of a slot, or adds the slot at the end. -/
def write (arena : Arena α) (i : SlotId) (content : Slot α) : Arena α :=
  if i < arena.slots.size then
    { arena with slots := arena.slots.setIfInBounds i content }
  else
    { arena with slots := arena.slots.push content }

/-- Changes the node in a slot. -/
def modify (arena : Arena α) (i : SlotId) (f : Node α → Node α) : Except Fault (Arena α) := do
  let n ← arena.node i
  return arena.write i (.occupied (f n))

/-- Replaces the left link of a node. -/
def setLeft (arena : Arena α) (i : SlotId) (link : Link) : Except Fault (Arena α) :=
  arena.modify i fun n => { n with left := link }

/-- Replaces the right link of a node. -/
def setRight (arena : Arena α) (i : SlotId) (link : Link) : Except Fault (Arena α) :=
  arena.modify i fun n => { n with right := link }

/-- Stores a node in the first vacant slot, or in the one at the high-water mark if none is
vacant. -/
def store (arena : Arena α) (n : Node α) : Except Fault (Arena α × SlotId) :=
  match arena.firstFree with
  | some i => do
    match ← arena.slot i with
    | .vacant next =>
      return ({ arena.write i (.occupied n) with firstFree := next, count := arena.count + 1 }, i)
    | .occupied _ => .error (.occupiedFree i)
  | none =>
    let i := arena.highWater
    .ok ({ arena.write i (.occupied n) with highWater := i + 1, count := arena.count + 1 }, i)

/-- Takes the node out of a slot, which becomes the first vacant one. -/
def release (arena : Arena α) (i : SlotId) : Except Fault (Arena α) := do
  let _ ← arena.node i
  return { arena.write i (.vacant arena.firstFree) with
    firstFree := some i, count := arena.count - 1 }

/-- Forgets all nodes. The slots keep what they hold, above the high-water mark. -/
def clear (arena : Arena α) : Arena α :=
  { arena with highWater := 0, firstFree := none, count := 0 }

end Arena

end MemorySentry.SpanMap
