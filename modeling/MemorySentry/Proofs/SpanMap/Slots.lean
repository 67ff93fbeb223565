import MemorySentry.Proofs.SpanMap.HighWater
import MemorySentry.Proofs.SpanMap.Neighbour
import Mathlib.Data.Set.Card

/-!
# Where the slots of a span map are

Tree and list of vacant slots lie in the same slots and are relinked by the same operations.
`Allots` says that they share them out: every slot that was handed out is reached by one way, either
along the links of the tree or along the list, and the former are the ones that hold a node. Then no
link that is followed leads to a slot without a node, and no walk along links goes round in a
circle.

`performAll_slots` says this of the map after every run, together with how far the high-water mark
has moved.
-/

namespace MemorySentry.SpanMap

variable {α : Type}

namespace Arena

/-- A slot was handed out and holds a node. -/
def Occupied (arena : Arena α) (i : SlotId) : Prop :=
  i < arena.highWater ∧ ∃ n, arena.slots[i]? = some (.occupied n)

/-- A slot was handed out and holds no node. -/
def Vacant (arena : Arena α) (i : SlotId) : Prop :=
  i < arena.highWater ∧ ∃ next, arena.slots[i]? = some (.vacant next)

/-- The slots that left and right links lead to from a link, each as often as there are ways to it.
There are such slots only if no way is endless and each ends at a node. -/
inductive Reaches (arena : Arena α) : Link → List SlotId → Prop
  | none : arena.Reaches none []
  | node {i : SlotId} {n : Node α} {left right : List SlotId} (hnode : arena.node i = .ok n)
      (hleft : arena.Reaches n.left left) (hright : arena.Reaches n.right right) :
      arena.Reaches (some i) (left ++ i :: right)

variable {arena : Arena α} {i : SlotId}

/-- A slot is occupied if it has a node. -/
theorem occupied_iff : arena.Occupied i ↔ ∃ n, arena.node i = .ok n := by
  simp only [Occupied, node_eq_ok_iff, slot_eq_ok_iff, exists_and_left]

/-- A slot is vacant if it has none, but was handed out. -/
theorem vacant_iff : arena.Vacant i ↔ ∃ next, arena.slot i = .ok (.vacant next) := by
  simp only [Vacant, slot_eq_ok_iff, exists_and_left]

/-- No slot is both. -/
theorem Occupied.not_vacant (h : arena.Occupied i) : ¬ arena.Vacant i := by
  rintro ⟨-, next, hvacant⟩
  obtain ⟨-, n, hoccupied⟩ := h
  rw [hvacant] at hoccupied
  cases hoccupied

namespace Holds

variable {t : Tree α}

/-- The links of a tree lead to its slots and to no others. -/
theorem reaches (h : arena.Holds t) : arena.Reaches t.root t.slots := by
  induction t with
  | leaf => exact .none
  | node l i s v r ihl ihr =>
    obtain ⟨hnode, hl, hr⟩ := h
    rw [Tree.slots_node]
    exact .node hnode (ihl hl) (ihr hr)

/-- Every node of a tree is the root of a part of it. -/
theorem exists_subtree (h : arena.Holds t) (hi : i ∈ t.slots) :
    ∃ t', t'.root = some i ∧ arena.Holds t' ∧ t'.slots.Sublist t.slots := by
  induction t with
  | leaf => cases hi
  | node l j s v r ihl ihr =>
    rw [Tree.slots_node, List.mem_append, List.mem_cons] at hi
    rw [Tree.slots_node]
    rcases hi with hi | rfl | hi
    · obtain ⟨t', hroot, hholds, hsub⟩ := ihl h.2.1 hi
      exact ⟨t', hroot, hholds, hsub.trans (List.sublist_append_left _ _)⟩
    · exact ⟨.node l i s v r, rfl, h, by rw [Tree.slots_node]⟩
    · obtain ⟨t', hroot, hholds, hsub⟩ := ihr h.2.2 hi
      exact ⟨t', hroot, hholds,
        hsub.trans ((List.sublist_cons_self _ _).trans (List.sublist_append_right _ _))⟩

/-- The slots of a tree are occupied. -/
theorem occupied (h : arena.Holds t) (hi : i ∈ t.slots) : arena.Occupied i := by
  obtain ⟨⟨_, s, v⟩, hmem, rfl⟩ := List.mem_map.mp hi
  obtain ⟨_, _, hnode⟩ := h.node_of_mem hmem
  exact occupied_iff.mpr ⟨_, hnode⟩

end Holds

/-- The slots in the chain of vacant ones are vacant. -/
theorem Chain.vacant {link : Link} {vacant : List SlotId} (h : arena.Chain link vacant)
    (hi : i ∈ vacant) : arena.Vacant i := by
  induction vacant generalizing link with
  | nil => cases hi
  | cons j rest ih =>
    obtain ⟨-, next, hvacant, hrest⟩ := h
    rcases List.mem_cons.mp hi with rfl | hi
    · exact vacant_iff.mpr ⟨next, hvacant⟩
    · exact ih hrest hi

end Arena

/-- How a map shares out the slots that it has handed out: `reached` are those of the tree, and
`vacant` are those that wait to be used again. -/
structure Allots (m : SpanMap α) (reached vacant : List SlotId) : Prop where
  /-- Left and right links lead from the root to the former. -/
  reaches : m.arena.Reaches m.root reached
  /-- Only one way leads to each of them. -/
  nodup_reached : reached.Nodup
  /-- They are the slots that hold a node. -/
  mem_reached : ∀ i, i ∈ reached ↔ m.arena.Occupied i
  /-- The list of vacant slots goes through the latter and ends. -/
  chain : m.arena.Chain m.arena.firstFree vacant
  /-- It comes to each of them once. -/
  nodup_vacant : vacant.Nodup
  /-- They are the slots that hold no node. -/
  mem_vacant : ∀ i, i ∈ vacant ↔ m.arena.Vacant i
  /-- No slot that was handed out is lost. -/
  lt_highWater_iff : ∀ i, i < m.arena.highWater ↔ i ∈ reached ∨ i ∈ vacant
  /-- The slots that hold a node are counted. -/
  size : m.size = {i | m.arena.Occupied i}.ncard

namespace Shaped

variable {m : SpanMap α} {t : Tree α}

/-- The tree and the list of vacant slots share out the slots. -/
theorem allots (h : m.Shaped t) : ∃ vacant, m.Allots t.slots vacant := by
  obtain ⟨vacant, haccounts⟩ := h.accounts
  have hhanded (i : SlotId) : i < m.arena.highWater ↔ i ∈ t.slots ∨ i ∈ vacant := by
    rw [← List.mem_range, ← haccounts.partition.mem_iff, List.mem_append]
  -- a slot that was handed out is on one side or the other, and what it holds says on which
  have hoccupied (i : SlotId) : i ∈ t.slots ↔ m.arena.Occupied i := by
    refine ⟨h.holds.occupied, fun hi => ?_⟩
    exact ((hhanded i).mp hi.1).resolve_right fun hmem =>
      hi.not_vacant (haccounts.chain.vacant hmem)
  have hvacant (i : SlotId) : i ∈ vacant ↔ m.arena.Vacant i := by
    refine ⟨haccounts.chain.vacant, fun hi => ?_⟩
    exact ((hhanded i).mp hi.1).resolve_left fun hmem => (h.holds.occupied hmem).not_vacant hi
  have hcount : m.size = {i | m.arena.Occupied i}.ncard := by
    have hset : {i | m.arena.Occupied i} = (t.slots.toFinset : Set SlotId) := by
      ext i
      rw [List.coe_toFinset]
      exact (hoccupied i).symm
    rw [hset, Set.ncard_coe_finset, List.toFinset_card_of_nodup h.nodup]
    exact haccounts.count
  exact ⟨vacant, h.root ▸ h.holds.reaches, h.nodup, hoccupied, haccounts.chain,
    (List.nodup_append'.mp haccounts.nodup).2.1, hvacant, hhanded, hcount⟩

/-- The walks along links from any node end. -/
theorem walks_end (h : m.Shaped t) {i : SlotId} (hi : i ∈ t.slots) :
    (∃ j, m.arena.lowest (m.arena.highWater + 1) i = .ok j) ∧
      ∃ entries, m.arena.inorder (some i) = .ok entries := by
  -- the node is the root of a part of the tree, and no walk is longer than there are nodes in it
  obtain ⟨t', hroot, hholds, hsub⟩ := h.holds.exists_subtree hi
  have hnodup : t'.slots.Nodup := h.nodup.sublist hsub
  obtain ⟨j, -, hlowest, -⟩ := Arena.lowest_eq_ok hholds hroot (m.arena.highWater + 1)
    (Nat.le_succ_of_le (hholds.length_le_highWater hnodup))
  exact ⟨⟨j, hlowest⟩, _, hroot ▸ Arena.inorder_eq_ok hholds hnodup⟩

end Shaped

/-- After every run from the empty map, the links of the tree and the list of vacant slots share out
the slots that were handed out, and the high-water mark is the largest number of spans that were
stored at once since the map was last cleared. So no operation meets a fault, the walks along the
links from any node end, and no slot has the number 2 ^ 32 - 1 as long as fewer spans than this are
stored. -/
theorem performAll_slots (cs : List (Command α)) :
    let m := ((empty : SpanMap α).performAll cs).2
    (∃ reached vacant, m.Allots reached vacant) ∧
      IsGreatest (storedSinceClear cs) m.arena.highWater ∧
      (∀ c : Command α, c.Faultless m) ∧
      (∀ i, m.arena.Occupied i →
        (∃ j, m.arena.lowest (m.arena.highWater + 1) i = .ok j) ∧
          ∃ entries, m.arena.inorder (some i) = .ok entries) ∧
      ((∀ n ∈ storedSinceClear cs, n < 2 ^ 32 - 1) → m.arena.highWater < 2 ^ 32 - 1) := by
  intro m
  have hrep := (performAll_represents (represents_empty (α := α)) cs).2
  obtain ⟨t, hshaped, -⟩ := id hrep
  obtain ⟨vacant, hallots⟩ := hshaped.allots
  have hgreatest := isGreatest_highWater cs
  refine ⟨⟨t.slots, vacant, hallots⟩, hgreatest, hrep.faultless, fun i hi => ?_, fun hfew => ?_⟩
  · exact hshaped.walks_end ((hallots.mem_reached i).mpr hi)
  · exact hfew _ hgreatest.1

end MemorySentry.SpanMap
