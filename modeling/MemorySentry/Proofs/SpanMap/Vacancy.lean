import MemorySentry.Proofs.SpanMap.Tree
import Mathlib.Data.List.Range

/-!
# Used and vacant slots

Every slot that was handed out either holds a node or is on the list of vacant slots, and the arena
counts the former: `arena.Accounts used vacant`. Storing moves a slot from the vacant ones to the
used ones, or takes the slot at the high-water mark when none is vacant; releasing moves it back.
Changing links does neither.
-/

namespace MemorySentry.SpanMap.Arena

variable {α : Type}

/-- The vacant slots that are reached from a link. -/
def Chain (arena : Arena α) : Link → List SlotId → Prop
  | link, [] => link = none
  | link, i :: rest => link = some i ∧ ∃ next, arena.slot i = .ok (.vacant next) ∧
      arena.Chain next rest

/-- Slots that were not touched form the chain that they formed. -/
theorem Chain.congr {arena arena' : Arena α} {link : Link} {vacant : List SlotId}
    (h : arena.Chain link vacant) (hslot : ∀ i ∈ vacant, arena'.slot i = arena.slot i) :
    arena'.Chain link vacant := by
  induction vacant generalizing link with
  | nil => exact h
  | cons i rest ih =>
    obtain ⟨hlink, next, hvacant, hrest⟩ := h
    refine ⟨hlink, next, ?_, ih hrest fun j hj => hslot j (by simp [hj])⟩
    rw [hslot i (by simp), hvacant]

/-- The slots that were handed out are the used and the vacant ones. -/
structure Accounts (arena : Arena α) (used vacant : List SlotId) : Prop where
  /-- The vacant slots form the list of vacant slots. -/
  chain : arena.Chain arena.firstFree vacant
  /-- Each slot that was handed out is used or vacant, once. -/
  partition : (used ++ vacant).Perm (List.range arena.highWater)
  /-- The nodes are counted. -/
  count : arena.count = used.length
  /-- The slots that were handed out exist. -/
  room : arena.highWater ≤ arena.slots.size

namespace Accounts

variable {arena arena' : Arena α} {used vacant : List SlotId}

/-- No slot is accounted for twice. -/
theorem nodup (h : arena.Accounts used vacant) : (used ++ vacant).Nodup :=
  h.partition.nodup_iff.mpr List.nodup_range

/-- No slot is used twice. -/
theorem nodup_used (h : arena.Accounts used vacant) : used.Nodup :=
  (List.nodup_append'.mp h.nodup).1

/-- No slot is both used and vacant. -/
theorem disjoint (h : arena.Accounts used vacant) : used.Disjoint vacant :=
  (List.nodup_append'.mp h.nodup).2.2

/-- The order of the used slots does not matter. -/
theorem perm {used' : List SlotId} (h : arena.Accounts used vacant) (hperm : used'.Perm used) :
    arena.Accounts used' vacant :=
  { h with
    partition := (hperm.append_right vacant).trans h.partition
    count := h.count.trans hperm.length_eq.symm }

/-- Changing the nodes in used slots keeps the account. -/
theorem relink (h : arena.Accounts used vacant) {touched : List SlotId}
    (hlink : arena.Relinks touched arena') (hsub : touched ⊆ used) :
    arena'.Accounts used vacant where
  chain := by
    rw [hlink.firstFree]
    exact h.chain.congr fun i hi => hlink.slot i fun hmem => h.disjoint (hsub hmem) hi
  partition := by rw [hlink.highWater]; exact h.partition
  count := hlink.count.trans h.count
  room := by rw [hlink.highWater, hlink.size]; exact h.room

/-- An arena from which nothing was handed out since it was cleared. -/
theorem clear (arena : Arena α) : arena.clear.Accounts [] [] :=
  ⟨rfl, by simp [Arena.clear], rfl, Nat.zero_le _⟩

end Accounts

/-- Writing the slot at the high-water mark changes no slot below it. -/
theorem getElem?_write_highWater {arena : Arena α} (hroom : arena.highWater ≤ arena.slots.size)
    (content : Slot α) {j : SlotId} (hj : j ≤ arena.highWater) :
    (arena.write arena.highWater content).slots[j]? =
      if j = arena.highWater then some content else arena.slots[j]? := by
  unfold write
  by_cases hsize : arena.highWater < arena.slots.size
  · simp only [hsize, if_true]
    by_cases heq : j = arena.highWater
    · subst heq
      simp [hsize]
    · simp [heq, Array.getElem?_setIfInBounds_ne (Ne.symm heq)]
  · -- all slots have been handed out, so the write adds one
    have hlast : arena.highWater = arena.slots.size := by omega
    rw [if_neg hsize]
    simp only [Array.getElem?_push, hlast]

/-- Storing succeeds and uses one slot more, which was vacant or not handed out before. Used slots
hold what they held. -/
theorem store_eq_ok {arena : Arena α} {used vacant : List SlotId}
    (h : arena.Accounts used vacant) (n : Node α) :
    ∃ arena' i, arena.store n = .ok (arena', i) ∧ arena'.node i = .ok n ∧
      (∀ j ∈ used, arena'.slot j = arena.slot j) ∧ arena'.Accounts (i :: used) vacant.tail := by
  have hchain := h.chain
  rcases vacant with _ | ⟨i, rest⟩
  · -- no slot is vacant: the next one is handed out
    have hfree : arena.firstFree = none := hchain
    have hwrite {j : SlotId} (hj : j ≤ arena.highWater) :=
      getElem?_write_highWater h.room (.occupied n) hj
    refine ⟨_, arena.highWater, by rw [store, hfree], ?_, ?_, ?_⟩
    · rw [node_eq_ok_iff, slot_eq_ok_iff]
      exact ⟨Nat.lt_succ_self _, by rw [hwrite (Nat.le_refl _), if_pos rfl]⟩
    · intro j hj
      have hlt : j < arena.highWater :=
        List.mem_range.mp (h.partition.subset (List.mem_append_left [] hj))
      simp only [slot, hlt, Nat.lt_succ_of_lt hlt, if_true, hwrite (Nat.le_of_lt hlt),
        Nat.ne_of_lt hlt, if_false]
    · -- the slot joins the used ones, and the high-water mark moves over it
      have hpart := h.partition
      rw [List.append_nil] at hpart
      refine ⟨?_, ?_, ?_, ?_⟩
      · exact (by unfold write; split <;> exact hfree :
          (arena.write arena.highWater (.occupied n)).firstFree = none)
      · rw [List.tail_nil, List.append_nil, List.range_succ]
        exact (hpart.cons _).trans (List.perm_append_singleton _ _).symm
      · simp only [List.length_cons, h.count]
      · have hroom := h.room
        by_cases hsize : arena.highWater < arena.slots.size
        · rw [write, if_pos hsize]
          simp only [Array.size_setIfInBounds]
          omega
        · rw [write, if_neg hsize]
          simp only [Array.size_push]
          omega
  · -- the first vacant slot is used, and the chain goes on behind it
    obtain ⟨hfree, next, hvacant, hrest⟩ := hchain
    have hnodup := h.nodup
    rw [List.nodup_append'] at hnodup
    obtain ⟨-, hnoduprest, hdisj⟩ := hnodup
    have hi : i ∉ rest := (List.nodup_cons.mp hnoduprest).1
    have hused : i ∉ used := fun hmem => hdisj hmem (by simp)
    refine ⟨_, i, by rw [store, hfree]; simp only [hvacant, ok_bind]; rfl, ?_, ?_, ?_⟩
    · exact node_eq_ok_iff.mpr (slot_write_self hvacant)
    · intro j hj
      exact slot_write_of_ne hvacant fun heq => hused (heq ▸ hj)
    · have hsize : i < arena.slots.size :=
        (Array.getElem?_eq_some_iff.mp (slot_eq_ok_iff.mp hvacant).2).1
      refine ⟨?_, ?_, ?_, ?_⟩
      · exact hrest.congr fun j hj => slot_write_of_ne hvacant fun heq => hi (heq ▸ hj)
      · simp only [write, hsize, if_true, List.tail_cons]
        exact List.perm_middle.symm.trans h.partition
      · simp only [List.length_cons, h.count]
      · simpa only [write, hsize, if_true, Array.size_setIfInBounds] using h.room

/-- Releasing a used slot succeeds and makes it the first vacant one. All other slots hold what they
held. -/
theorem release_eq_ok {arena : Arena α} {i : SlotId} {used vacant : List SlotId} {n : Node α}
    (h : arena.Accounts (i :: used) vacant) (hnode : arena.node i = .ok n) :
    ∃ arena', arena.release i = .ok arena' ∧ (∀ j ∈ used, arena'.slot j = arena.slot j) ∧
      arena'.Accounts used (i :: vacant) := by
  have hslot := node_eq_ok_iff.mp hnode
  have hsize : i < arena.slots.size :=
    (Array.getElem?_eq_some_iff.mp (slot_eq_ok_iff.mp hslot).2).1
  have hused : i ∉ used := (List.nodup_cons.mp h.nodup_used).1
  have hvacant : i ∉ vacant := h.disjoint (by simp)
  refine ⟨_, by rw [release, hnode, ok_bind]; rfl, ?_, ?_, ?_, ?_, ?_⟩
  · intro j hj
    exact slot_write_of_ne hslot fun heq => hused (heq ▸ hj)
  · -- the released slot points to what was the first vacant one
    refine ⟨rfl, arena.firstFree, slot_write_self hslot, ?_⟩
    exact h.chain.congr fun j hj => slot_write_of_ne hslot fun heq => hvacant (heq ▸ hj)
  · simp only [write, hsize, if_true]
    exact List.perm_middle.trans h.partition
  · simp only [h.count, List.length_cons, Nat.add_sub_cancel]
  · simpa only [write, hsize, if_true, Array.size_setIfInBounds] using h.room

end MemorySentry.SpanMap.Arena
