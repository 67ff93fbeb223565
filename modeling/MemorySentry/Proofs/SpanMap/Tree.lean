import MemorySentry.Proofs.Span
import MemorySentry.SpanMap.Splay
import Mathlib.Data.List.Lattice
import Mathlib.Data.List.Nodup
import Mathlib.Data.List.Perm.Subperm

/-!
# The trees in an arena

The links of an arena are related once to a plain binary tree, and all else is said of the tree.
`arena.Holds t` says that the nodes of `t` lie in their slots, linked as in `t`. An operation on
links is described by what it makes of the tree and by the slots that it touches; a tree in other
slots stays as it is (`Arena.Holds.relink`).

The order of the nodes is the sequence `Tree.inorder`. An operation that keeps this sequence keeps
the content of the tree, whatever it does to its shape.
-/

namespace MemorySentry.SpanMap

/-- A search tree with the slot, the span and the value of each node. -/
inductive Tree (α : Type) where
  /-- The tree without nodes. -/
  | leaf
  /-- A node between the tree of lower spans and the tree of higher spans. -/
  | node (left : Tree α) (slot : SlotId) (span : Span) (value : α) (right : Tree α)

namespace Tree

variable {α : Type}

/-- The link to the root. -/
def root : Tree α → Link
  | leaf => none
  | node _ i _ _ _ => some i

/-- The root node as an arena stores it. -/
def top : Tree α → Option (Node α)
  | leaf => none
  | node l _ s v r => some ⟨s, v, l.root, r.root⟩

/-- The nodes from the lowest to the highest. -/
def inorder : Tree α → List (SlotId × Span × α)
  | leaf => []
  | node l i s v r => l.inorder ++ (i, s, v) :: r.inorder

/-- The slots of the nodes. -/
def slots (t : Tree α) : List SlotId :=
  t.inorder.map Prod.fst

/-- The spans with their values, from the lowest to the highest. -/
def entries (t : Tree α) : List (Span × α) :=
  t.inorder.map Prod.snd

@[simp]
theorem root_leaf : (leaf : Tree α).root = none := rfl

@[simp]
theorem root_node {l r : Tree α} {i : SlotId} {s : Span} {v : α} :
    (node l i s v r).root = some i := rfl

@[simp]
theorem inorder_leaf : (leaf : Tree α).inorder = [] := rfl

@[simp]
theorem inorder_node {l r : Tree α} {i : SlotId} {s : Span} {v : α} :
    (node l i s v r).inorder = l.inorder ++ (i, s, v) :: r.inorder := rfl

@[simp]
theorem slots_leaf : (leaf : Tree α).slots = [] := rfl

@[simp]
theorem slots_node {l r : Tree α} {i : SlotId} {s : Span} {v : α} :
    (node l i s v r).slots = l.slots ++ i :: r.slots := by
  simp [slots]

@[simp]
theorem entries_leaf : (leaf : Tree α).entries = [] := rfl

@[simp]
theorem entries_node {l r : Tree α} {i : SlotId} {s : Span} {v : α} :
    (node l i s v r).entries = l.entries ++ (s, v) :: r.entries := by
  simp [entries]

/-- A tree has as many slots as nodes. -/
@[simp]
theorem length_slots (t : Tree α) : t.slots.length = t.inorder.length := by
  simp [slots]

/-- It has as many entries. -/
@[simp]
theorem length_entries (t : Tree α) : t.entries.length = t.inorder.length := by
  simp [entries]

/-- Trees with the same nodes in order have the same slots. -/
theorem slots_eq_of_inorder_eq {t t' : Tree α} (h : t'.inorder = t.inorder) :
    t'.slots = t.slots := by
  rw [slots, slots, h]

/-- They have the same entries. -/
theorem entries_eq_of_inorder_eq {t t' : Tree α} (h : t'.inorder = t.inorder) :
    t'.entries = t.entries := by
  rw [entries, entries, h]

end Tree

/-- A computation that goes on after a step that succeeded. -/
theorem ok_bind {ε β γ : Type} (x : β) (f : β → Except ε γ) : (Except.ok x >>= f) = f x := rfl

theorem disjoint_pair {slots : List SlotId} {i j : SlotId} (hi : i ∉ slots) (hj : j ∉ slots) :
    slots.Disjoint [i, j] :=
  List.disjoint_cons_right.mpr ⟨hi, List.disjoint_singleton.mpr hj⟩

namespace Arena

variable {α : Type}

/-! ### Reading and writing slots -/

/-- A slot can be read exactly if it was handed out. -/
theorem slot_eq_ok_iff {arena : Arena α} {i : SlotId} {content : Slot α} :
    arena.slot i = .ok content ↔ i < arena.highWater ∧ arena.slots[i]? = some content := by
  unfold slot
  split
  next hi => cases h : arena.slots[i]? <;> simp [hi]
  next hi => simp [hi]

/-- It has a node exactly if it is occupied by that. -/
theorem node_eq_ok_iff {arena : Arena α} {i : SlotId} {n : Node α} :
    arena.node i = .ok n ↔ arena.slot i = .ok (.occupied n) := by
  unfold node
  rcases h : arena.slot i with e | (next | m) <;> simp [bind, Except.bind, pure, Except.pure]

/-- A slot with a node is below the high-water mark. -/
theorem lt_highWater_of_node {arena : Arena α} {i : SlotId} {n : Node α}
    (h : arena.node i = .ok n) : i < arena.highWater :=
  (slot_eq_ok_iff.mp (node_eq_ok_iff.mp h)).1

/-- What is written in a slot is read from it. -/
theorem slot_write_self {arena : Arena α} {i : SlotId} {old content : Slot α}
    (h : arena.slot i = .ok old) : (arena.write i content).slot i = .ok content := by
  obtain ⟨hi, hold⟩ := slot_eq_ok_iff.mp h
  have hsize : i < arena.slots.size := (Array.getElem?_eq_some_iff.mp hold).1
  rw [slot_eq_ok_iff]
  simp [write, hsize, hi]

/-- Other slots stay as they are. -/
theorem slot_write_of_ne {arena : Arena α} {i j : SlotId} {old content : Slot α}
    (h : arena.slot i = .ok old) (hij : j ≠ i) :
    (arena.write i content).slot j = arena.slot j := by
  obtain ⟨-, hold⟩ := slot_eq_ok_iff.mp h
  have hsize : i < arena.slots.size := (Array.getElem?_eq_some_iff.mp hold).1
  simp [write, hsize, slot, Array.getElem?_setIfInBounds_ne (Ne.symm hij)]

/-- `arena'` differs from `arena` at most in what the slots `touched` hold. -/
structure Relinks (arena : Arena α) (touched : List SlotId) (arena' : Arena α) : Prop where
  /-- No slot is handed out. -/
  highWater : arena'.highWater = arena.highWater
  /-- The list of vacant slots begins where it did. -/
  firstFree : arena'.firstFree = arena.firstFree
  /-- The number of nodes is the same. -/
  count : arena'.count = arena.count
  /-- No slot is added. -/
  size : arena'.slots.size = arena.slots.size
  /-- All other slots hold what they held. -/
  slot : ∀ j, j ∉ touched → arena'.slot j = arena.slot j

namespace Relinks

variable {arena arena' arena'' : Arena α} {touched touched' : List SlotId}

/-- An arena is relinked from itself, whatever may be touched. -/
theorem refl (arena : Arena α) (touched : List SlotId) : arena.Relinks touched arena :=
  ⟨rfl, rfl, rfl, rfl, fun _ _ => rfl⟩

/-- Relinking is done step after step. -/
theorem trans (h : arena.Relinks touched arena') (h' : arena'.Relinks touched arena'') :
    arena.Relinks touched arena'' where
  highWater := h'.highWater.trans h.highWater
  firstFree := h'.firstFree.trans h.firstFree
  count := h'.count.trans h.count
  size := h'.size.trans h.size
  slot j hj := (h'.slot j hj).trans (h.slot j hj)

/-- More slots may be touched. -/
theorem mono (h : arena.Relinks touched arena') (hsub : touched ⊆ touched') :
    arena.Relinks touched' arena' :=
  { h with slot := fun j hj => h.slot j fun hmem => hj (hsub hmem) }

/-- A node in another slot is still there. -/
theorem node {i : SlotId} {n : Node α} (h : arena.Relinks touched arena') (hi : i ∉ touched)
    (hn : arena.node i = .ok n) : arena'.node i = .ok n := by
  rw [node_eq_ok_iff] at hn ⊢
  rw [h.slot i hi, hn]

end Relinks

/-- Changing a node changes that node and nothing else. -/
theorem modify_eq_ok {arena : Arena α} {i : SlotId} {n : Node α} (hn : arena.node i = .ok n)
    (f : Node α → Node α) :
    ∃ arena', arena.modify i f = .ok arena' ∧ arena'.node i = .ok (f n) ∧
      arena.Relinks [i] arena' := by
  have hslot := node_eq_ok_iff.mp hn
  have hsize : i < arena.slots.size :=
    (Array.getElem?_eq_some_iff.mp (slot_eq_ok_iff.mp hslot).2).1
  refine ⟨arena.write i (.occupied (f n)), ?_, ?_, ?_⟩
  · rw [modify, hn]
    rfl
  · exact node_eq_ok_iff.mpr (slot_write_self hslot)
  · constructor
    case slot =>
      intro j hj
      exact slot_write_of_ne hslot (by simpa using hj)
    all_goals simp [write, hsize]

/-! ### Trees in slots -/

/-- The nodes of a tree lie in their slots, linked as in the tree. -/
def Holds (arena : Arena α) : Tree α → Prop
  | .leaf => True
  | .node l i s v r =>
    arena.node i = .ok ⟨s, v, l.root, r.root⟩ ∧ arena.Holds l ∧ arena.Holds r

namespace Holds

variable {arena arena' : Arena α} {t : Tree α}

/-- A tree whose slots hold what they held stays as it is. -/
theorem congr (h : arena.Holds t) (hslot : ∀ i ∈ t.slots, arena'.slot i = arena.slot i) :
    arena'.Holds t := by
  induction t with
  | leaf => trivial
  | node l i s v r ihl ihr =>
    -- the node of the root is read from its slot, and the subtrees lie in slots of the tree
    obtain ⟨hnode, hl, hr⟩ := h
    refine ⟨?_, ihl hl fun j hj => hslot j (by simp [hj]),
      ihr hr fun j hj => hslot j (by simp [hj])⟩
    rw [node_eq_ok_iff] at hnode ⊢
    rw [hslot i (by simp), hnode]

/-- A tree of which no slot is touched stays as it is. -/
theorem relink {touched : List SlotId} (h : arena.Holds t) (hlink : arena.Relinks touched arena')
    (hdisj : t.slots.Disjoint touched) : arena'.Holds t :=
  h.congr fun i hi => hlink.slot i fun hmem => hdisj hi hmem

/-- The slots of a tree have been handed out. -/
theorem lt_highWater (h : arena.Holds t) : ∀ i ∈ t.slots, i < arena.highWater := by
  induction t with
  | leaf => simp
  | node l i s v r ihl ihr =>
    obtain ⟨hnode, hl, hr⟩ := h
    intro j hj
    rw [Tree.slots_node, List.mem_append, List.mem_cons] at hj
    rcases hj with hj | rfl | hj
    · exact ihl hl j hj
    · exact lt_highWater_of_node hnode
    · exact ihr hr j hj

/-- A tree has no more nodes than slots were handed out. This is what bounds every walk along
links. -/
theorem length_le_highWater (h : arena.Holds t) (hnodup : t.slots.Nodup) :
    t.inorder.length ≤ arena.highWater := by
  have hsub : t.slots ⊆ List.range arena.highWater := fun i hi =>
    List.mem_range.mpr (h.lt_highWater i hi)
  simpa using (hnodup.subperm hsub).length_le

end Holds

end Arena

end MemorySentry.SpanMap
