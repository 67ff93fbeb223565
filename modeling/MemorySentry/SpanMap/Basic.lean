import MemorySentry.SpanMap.Splay

/-!
# Maps from disjoint spans to values

A `SpanMap` stores disjoint spans with a value each and finds the one that covers an address. Every
look-up splays the tree, so it returns the map as well as the answer; no answer depends on the shape
of the tree.

Each operation exists twice. The ones that end in `Raw` say what happens slot by slot and may end in
a `Fault`; the plain ones answer in any case, and leave a map alone whose links are broken. No
sequence of operations from the empty map breaks them.
-/

namespace MemorySentry

/-- Disjoint spans with a value each. -/
structure SpanMap (α : Type) where
  /-- The slots of the nodes. -/
  arena : SpanMap.Arena α := {}
  /-- The root of the tree. -/
  root : SpanMap.Link := none

namespace SpanMap

/-- Why a span map refuses an operation. -/
inductive Error where
  /-- The span shares addresses with a stored one. -/
  | overlap (requested existing : Span)
  /-- No stored span covers the address. -/
  | notFound (a : Address)
  /-- The address lies inside a stored span, after its first byte. -/
  | notBase (a : Address) (existing : Span)
  /-- Another span than the stored one was named. -/
  | mismatch (requested existing : Span)
  /-- The links of the map are broken. -/
  | broken (fault : Fault)
deriving DecidableEq

/-- The wording of a refused operation. -/
def Error.message : Error → String
  | .overlap requested existing =>
    "range " ++ requested.render ++ " overlaps registered range " ++ existing.render
  | .notFound a => "no range covers " ++ Word.hex a.toNat
  | .notBase a existing =>
    Word.hex a.toNat ++ " is interior to " ++ existing.render ++ ", not its base"
  | .mismatch requested existing =>
    "range " ++ requested.render ++ " does not match registered range " ++ existing.render
  | .broken _ => "broken links"

variable {α : Type}

/-- The map without spans. -/
def empty : SpanMap α := {}

/-- The number of stored spans. -/
def size (m : SpanMap α) : Nat :=
  m.arena.count

/-- Whether no span is stored. -/
def isEmpty (m : SpanMap α) : Bool :=
  m.root.isNone

/-- The map splayed around an address, and its root node if it has one. -/
def splayRaw (m : SpanMap α) (a : Address) : Except Fault (Option (Node α) × SpanMap α) := do
  let (arena, root) ← m.arena.splay m.root a
  match root with
  | none => return (none, ⟨arena, none⟩)
  | some top => return (some (← arena.node top), ⟨arena, some top⟩)

/-- The stored span that covers an address. -/
def lookupRaw (m : SpanMap α) (a : Address) : Except Fault (Option (Span × α) × SpanMap α) := do
  let (root, m) ← m.splayRaw a
  match root with
  | none => return (none, m)
  | some n => return (if n.span.contains a then some (n.span, n.value) else none, m)

/-- The lowest stored span that shares an address with `s`. Without a span that covers the first
byte of `s`, only the lowest one after that byte can. -/
def firstOverlappingRaw (m : SpanMap α) (s : Span) :
    Except Fault (Option (Span × α) × SpanMap α) := do
  let (root, m) ← m.splayRaw s.start
  let some n := root | return (none, m)
  if n.span.contains s.start then
    return (some (n.span, n.value), m)
  let next ← if s.start < n.span.start then pure (some n) else
    match n.right with
    | none => pure none
    | some r => do
      let i ← m.arena.lowest (m.arena.highWater + 1) r
      pure (some (← m.arena.node i))
  match next with
  | none => return (none, m)
  | some n => return (if n.span.overlaps s then some (n.span, n.value) else none, m)

/-- Stores a span that shares no address with a stored one. The search for such a span leaves a
neighbour at the root, which the new node splits. -/
def insertRaw (m : SpanMap α) (s : Span) (v : α) :
    Except Fault (Except Error Unit × SpanMap α) := do
  let (hit, m) ← m.firstOverlappingRaw s
  if let some (existing, _) := hit then
    return (.error (.overlap s existing), m)
  match m.root with
  | none =>
    let (arena, i) ← m.arena.store ⟨s, v, none, none⟩
    return (.ok (), ⟨arena, some i⟩)
  | some top =>
    let (arena, i) ← m.arena.store ⟨s, v, none, none⟩
    let n ← arena.node top
    if s.start < n.span.start then
      let arena ← arena.setLeft i n.left
      let arena ← arena.setRight i (some top)
      let arena ← arena.setLeft top none
      return (.ok (), ⟨arena, some i⟩)
    else
      let arena ← arena.setRight i n.right
      let arena ← arena.setLeft i (some top)
      let arena ← arena.setRight top none
      return (.ok (), ⟨arena, some i⟩)

/-- Takes the root out of the tree. The highest node of the left subtree, brought up by a splay
around the first byte of the root, takes its place. -/
def removeRootRaw (m : SpanMap α) (top : SlotId) : Except Fault ((Span × α) × SpanMap α) := do
  let n ← m.arena.node top
  match n.left with
  | none =>
    let arena ← m.arena.release top
    return ((n.span, n.value), ⟨arena, n.right⟩)
  | some left =>
    let (arena, root) ← m.arena.splay (some left) n.span.start
    let arena ← match root with
      | none => pure arena
      | some i => arena.setRight i n.right
    let arena ← arena.release top
    return ((n.span, n.value), ⟨arena, root⟩)

/-- Takes out the stored span at the root if `wanted` names it; `wanted` says why not otherwise. -/
def removeCoveringRaw (m : SpanMap α) (a : Address) (wanted : Span → Option Error) :
    Except Fault (Except Error (Span × α) × SpanMap α) := do
  let (root, m) ← m.splayRaw a
  match root, m.root with
  | some n, some top =>
    if n.span.contains a then
      match wanted n.span with
      | some e => return (.error e, m)
      | none =>
        let (removed, m) ← m.removeRootRaw top
        return (.ok removed, m)
    else
      return (.error (.notFound a), m)
  | _, _ => return (.error (.notFound a), m)

/-- Takes out exactly the span `s`. -/
def removeRaw (m : SpanMap α) (s : Span) : Except Fault (Except Error (Span × α) × SpanMap α) :=
  m.removeCoveringRaw s.start fun existing =>
    if existing = s then none else some (.mismatch s existing)

/-- Takes out the span whose first byte is `base`. -/
def removeAtRaw (m : SpanMap α) (base : Address) :
    Except Fault (Except Error (Span × α) × SpanMap α) :=
  m.removeCoveringRaw base fun existing =>
    if existing.start = base then none else some (.notBase base existing)

/-- The stored span that covers an address, with its value. -/
def lookup (m : SpanMap α) (a : Address) : Option (Span × α) × SpanMap α :=
  match m.lookupRaw a with
  | .ok answer => answer
  | .error _ => (none, m)

/-- The lowest stored span that shares an address with `s`, with its value. -/
def firstOverlapping (m : SpanMap α) (s : Span) : Option (Span × α) × SpanMap α :=
  match m.firstOverlappingRaw s with
  | .ok answer => answer
  | .error _ => (none, m)

/-- Stores a span with its value, unless it shares an address with a stored span. -/
def insert (m : SpanMap α) (s : Span) (v : α) : Except Error Unit × SpanMap α :=
  match m.insertRaw s v with
  | .ok answer => answer
  | .error fault => (.error (.broken fault), m)

/-- Takes out exactly the span `s` and gives its value. -/
def remove (m : SpanMap α) (s : Span) : Except Error α × SpanMap α :=
  match m.removeRaw s with
  | .ok (removed, m) => (removed.map Prod.snd, m)
  | .error fault => (.error (.broken fault), m)

/-- Takes out the span whose first byte is `base`. -/
def removeAt (m : SpanMap α) (base : Address) : Except Error (Span × α) × SpanMap α :=
  match m.removeAtRaw base with
  | .ok answer => answer
  | .error fault => (.error (.broken fault), m)

/-- Forgets all spans. -/
def clear (m : SpanMap α) : SpanMap α :=
  ⟨m.arena.clear, none⟩

/-- The stored spans with their values, in the order of addresses. -/
def toList (m : SpanMap α) : List (Span × α) :=
  match m.arena.inorder m.root with
  | .ok entries => entries
  | .error _ => []

end SpanMap

end MemorySentry
