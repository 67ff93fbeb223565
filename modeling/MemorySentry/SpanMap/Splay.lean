import MemorySentry.SpanMap.Arena

/-!
# Splaying

Brings the span that covers an address, or a neighbour of the address, to the root of a search tree
whose nodes are linked through the slots of an arena. The tree is taken apart on the way down:
nodes above the address are hung onto an upper tree and nodes below it onto a lower one, and both
become the subtrees of the node at which the walk ends. Two steps in one direction are joined by a
rotation first, which keeps the tree shallow over a run of operations.
-/

namespace MemorySentry.SpanMap

/-- The two trees that grow while a tree is taken apart. The next node is hung onto a tail; until
then the link of a tail on its inner side is out of date. -/
structure Split where
  /-- The root of the tree of lower nodes. -/
  lowerRoot : Link := none
  /-- The highest of the lower nodes. -/
  lowerTail : Link := none
  /-- The root of the tree of upper nodes. -/
  upperRoot : Link := none
  /-- The lowest of the upper nodes. -/
  upperTail : Link := none

namespace Arena

variable {α : Type}

/-- The side of the node in slot `i` on which an address lies. -/
def side (arena : Arena α) (i : SlotId) (a : Address) : Except Fault Span.Side := do
  return (← arena.node i).span.side a

/-- Puts the left child of `top` into its place, with `top` as its right child. -/
def rotateRight (arena : Arena α) (top child : SlotId) : Except Fault (Arena α) := do
  let inner := (← arena.node child).right
  let arena ← arena.setLeft top inner
  arena.setRight child (some top)

/-- Puts the right child of `top` into its place, with `top` as its left child. -/
def rotateLeft (arena : Arena α) (top child : SlotId) : Except Fault (Arena α) := do
  let inner := (← arena.node child).left
  let arena ← arena.setRight top inner
  arena.setLeft child (some top)

/-- Hangs `top` with all above it onto the upper tree. -/
def hangUpper (arena : Arena α) (split : Split) (top : SlotId) :
    Except Fault (Arena α × Split) :=
  match split.upperTail with
  | none => .ok (arena, { split with upperRoot := some top, upperTail := some top })
  | some tail => do
    let arena ← arena.setLeft tail (some top)
    return (arena, { split with upperTail := some top })

/-- Hangs `top` with all below it onto the lower tree. -/
def hangLower (arena : Arena α) (split : Split) (top : SlotId) :
    Except Fault (Arena α × Split) :=
  match split.lowerTail with
  | none => .ok (arena, { split with lowerRoot := some top, lowerTail := some top })
  | some tail => do
    let arena ← arena.setRight tail (some top)
    return (arena, { split with lowerTail := some top })

/-- Takes the tree at `top` apart around an address, down to the node that covers the address or
has no child on its side. The first argument bounds the number of steps. -/
def descend (a : Address) : Nat → Arena α → Split → SlotId → Except Fault (Arena α × Split × SlotId)
  | 0, _, _, _ => .error .endless
  | steps + 1, arena, split, top => do
    let n ← arena.node top
    match n.span.side a with
    | .within => return (arena, split, top)
    | .below =>
      let some child := n.left | return (arena, split, top)
      if (← arena.side child a) = .below then
        -- two steps to the left: the child comes up and takes the root with it
        let arena ← arena.rotateRight top child
        let some next := (← arena.node child).left | return (arena, split, child)
        let (arena, split) ← arena.hangUpper split child
        descend a steps arena split next
      else
        let (arena, split) ← arena.hangUpper split top
        descend a steps arena split child
    | .above =>
      let some child := n.right | return (arena, split, top)
      if (← arena.side child a) = .above then
        -- two steps to the right
        let arena ← arena.rotateLeft top child
        let some next := (← arena.node child).right | return (arena, split, child)
        let (arena, split) ← arena.hangLower split child
        descend a steps arena split next
      else
        let (arena, split) ← arena.hangLower split top
        descend a steps arena split child

/-- Makes the lower and the upper tree the subtrees of `top`. What `top` still holds on either side
is hung onto the tail of that side. -/
def assemble (arena : Arena α) (split : Split) (top : SlotId) : Except Fault (Arena α) := do
  let arena ← match split.lowerTail with
    | none => pure arena
    | some tail => do
      let arena ← arena.setRight tail (← arena.node top).left
      arena.setLeft top split.lowerRoot
  match split.upperTail with
  | none => return arena
  | some tail => do
    let arena ← arena.setLeft tail (← arena.node top).right
    arena.setRight top split.upperRoot

/-- Splays the tree at a link around an address: the new root covers the address if any node of the
tree does, and otherwise no node lies between it and the address. -/
def splay (arena : Arena α) (root : Link) (a : Address) : Except Fault (Arena α × Link) :=
  match root with
  | none => .ok (arena, none)
  | some top => do
    let (arena, split, top) ← descend a (arena.highWater + 1) arena {} top
    let arena ← arena.assemble split top
    return (arena, some top)

/-- The lowest node of a tree, found along left links. -/
def lowest (arena : Arena α) : Nat → SlotId → Except Fault SlotId
  | 0, _ => .error .endless
  | steps + 1, i => do
    match (← arena.node i).left with
    | none => return i
    | some j => arena.lowest steps j

/-- The nodes from a link down along left links, lowest first, in front of those that wait. -/
def leftSpine (arena : Arena α) : Nat → Link → List SlotId → Except Fault (List SlotId)
  | _, none, waiting => .ok waiting
  | 0, some _, _ => .error .endless
  | steps + 1, some i, waiting => do
    arena.leftSpine steps (← arena.node i).left (i :: waiting)

/-- The spans and values of the waiting nodes, each followed by those of its right subtree. -/
def walk (arena : Arena α) : Nat → List SlotId → Except Fault (List (Span × α))
  | _, [] => .ok []
  | 0, _ :: _ => .error .endless
  | steps + 1, i :: waiting => do
    let n ← arena.node i
    let waiting ← arena.leftSpine (arena.highWater + 1) n.right waiting
    return (n.span, n.value) :: (← arena.walk steps waiting)

/-- The spans and values of a tree in the order of its links, without splaying. -/
def inorder (arena : Arena α) (root : Link) : Except Fault (List (Span × α)) := do
  arena.walk (arena.highWater + 1) (← arena.leftSpine (arena.highWater + 1) root [])

end Arena

end MemorySentry.SpanMap
