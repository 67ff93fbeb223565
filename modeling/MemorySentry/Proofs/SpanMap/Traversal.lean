import MemorySentry.Proofs.SpanMap.Wing

/-!
# Walking along the links of a tree

Two walks leave the tree as it is. The lowest node is found along left links (`lowest_eq_ok`). The
walk in order keeps a stack of nodes whose left subtrees it has passed: such a node and its right
subtree make a `Frame`, and what is still to be listed is the upper wing of the waiting frames
(`inorder_eq_ok`).
-/

namespace MemorySentry.SpanMap.Arena

variable {α : Type} {arena : Arena α}

/-- Following left links leads to the first node of the tree. -/
theorem lowest_eq_ok {t : Tree α} {top : SlotId} (h : arena.Holds t) (htop : t.root = some top)
    (steps : Nat) (hsteps : t.inorder.length ≤ steps) :
    ∃ i n, arena.lowest steps top = .ok i ∧ arena.node i = .ok n ∧
      t.entries.head? = some (n.span, n.value) := by
  -- only the left subtree is entered, so the right one has no induction hypothesis
  induction t generalizing top steps with
  | leaf => cases htop
  | node l i s v r ihl =>
    obtain ⟨hnode, hl, -⟩ := h
    obtain rfl : i = top := by simpa using htop
    obtain ⟨steps, rfl⟩ : ∃ k, steps = k + 1 :=
      Nat.exists_eq_add_one.mpr (by simp at hsteps; omega)
    rw [lowest, hnode, ok_bind]
    cases l with
    | leaf => exact ⟨i, _, rfl, hnode, rfl⟩
    | node l' j s' v' r' =>
      obtain ⟨k, n, hlowest, hk, hhead⟩ := ihl hl rfl steps (by simp at hsteps ⊢; omega)
      refine ⟨k, n, hlowest, hk, ?_⟩
      rw [Tree.entries_node, List.head?_append, hhead]
      rfl

/-- The nodes of the frames lie in their slots with their right subtrees. Their left links are of no
use any more. -/
def Waits (arena : Arena α) (fs : List (Frame α)) : Prop :=
  ∀ f ∈ fs, (∃ passed, arena.node f.slot = .ok (Wing.upper.nodeOf f passed)) ∧
    arena.Holds f.outer

/-- The left spine of a tree, put in front of the waiting nodes, lists the tree first. -/
theorem leftSpine_eq_ok {t : Tree α} {waiting : List (Frame α)} (h : arena.Holds t)
    (hwaits : arena.Waits waiting) (steps : Nat) (hsteps : t.inorder.length ≤ steps) :
    ∃ fs, arena.leftSpine steps t.root (waiting.map Frame.slot) = .ok (fs.map Frame.slot) ∧
      arena.Waits fs ∧ Wing.upper.nodes fs = t.inorder ++ Wing.upper.nodes waiting := by
  induction t generalizing waiting steps with
  | leaf => exact ⟨waiting, by cases steps <;> rfl, hwaits, rfl⟩
  | node l i s v r ihl =>
    obtain ⟨hnode, hl, hr⟩ := h
    obtain ⟨steps, rfl⟩ : ∃ k, steps = k + 1 :=
      Nat.exists_eq_add_one.mpr (by simp at hsteps; omega)
    -- the root waits while its left subtree is listed, with its right subtree still to come
    have hwaits' : arena.Waits (⟨i, s, v, r⟩ :: waiting) := by
      intro f hf
      rcases List.mem_cons.mp hf with rfl | hf
      · exact ⟨⟨l.root, hnode⟩, hr⟩
      · exact hwaits f hf
    obtain ⟨fs, hspine, hfs, hnodes⟩ := ihl hl hwaits' steps (by simp at hsteps; omega)
    refine ⟨fs, ?_, hfs, ?_⟩
    · rw [Tree.root_node, leftSpine, hnode, ok_bind]
      exact hspine
    · rw [hnodes, Tree.inorder_node]
      simp [Wing.nodes]

/-- The walk lists each waiting node and its right subtree. -/
theorem walk_eq_ok {fs : List (Frame α)} (hwaits : arena.Waits fs) (steps : Nat)
    (hsteps : (Wing.upper.nodes fs).length ≤ steps) (hhigh : steps ≤ arena.highWater + 1) :
    arena.walk steps (fs.map Frame.slot) = .ok ((Wing.upper.nodes fs).map Prod.snd) := by
  induction steps generalizing fs with
  | zero =>
    cases fs with
    | nil => rfl
    | cons f rest => simp [Wing.nodes] at hsteps
  | succ steps ih =>
    cases fs with
    | nil => rfl
    | cons f rest =>
      obtain ⟨⟨passed, hnode⟩, houter⟩ := hwaits f (by simp)
      simp only [Wing.nodes, List.cons_append, List.length_cons, List.length_append] at hsteps
      -- after the node itself, the left spine of its right subtree waits in front of the others
      obtain ⟨fs', hspine, hwaits', hnodes⟩ := leftSpine_eq_ok houter
        (fun g hg => hwaits g (List.mem_cons_of_mem f hg)) (arena.highWater + 1) (by omega)
      have hrest := ih hwaits' (by rw [hnodes, List.length_append]; omega) (by omega)
      rw [hnodes] at hrest
      simp only [List.map_cons, walk, hnode, ok_bind, Wing.nodeOf, hspine, hrest]
      rfl

/-- The walk from the root lists the tree in its order. -/
theorem inorder_eq_ok {t : Tree α} (h : arena.Holds t) (hnodup : t.slots.Nodup) :
    arena.inorder t.root = .ok t.entries := by
  have hsteps : t.inorder.length ≤ arena.highWater + 1 :=
    Nat.le_succ_of_le (h.length_le_highWater hnodup)
  have hnone : arena.Waits [] := fun f hf => absurd hf List.not_mem_nil
  obtain ⟨fs, hspine, hwaits, hnodes⟩ := leftSpine_eq_ok h hnone _ hsteps
  rw [Wing.nodes, List.append_nil] at hnodes
  rw [inorder, ← List.map_nil, hspine, ok_bind,
    walk_eq_ok hwaits _ (by rw [hnodes]; exact hsteps) (Nat.le_refl _), hnodes]
  rfl

end MemorySentry.SpanMap.Arena
