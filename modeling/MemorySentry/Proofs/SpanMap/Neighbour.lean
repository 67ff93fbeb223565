import MemorySentry.Proofs.SpanMap.Operations

/-!
# The node that splaying brings to the root

A tree whose spans ascend has every node in a slot of its own, so splaying it around an address
always succeeds. The node that comes to the root is `Nearest` to the address: it covers the address
if a node does, and otherwise no node lies between the two.
-/

namespace MemorySentry.SpanMap

variable {α : Type}

namespace Arena

variable {arena : Arena α} {t : Tree α}

/-- A node of a tree lies in its slot with its span and its value. -/
theorem Holds.node_of_mem (h : arena.Holds t) {i : SlotId} {s : Span} {v : α}
    (hmem : (i, s, v) ∈ t.inorder) : ∃ l r, arena.node i = .ok ⟨s, v, l, r⟩ := by
  induction t with
  | leaf => cases hmem
  | node l j sj vj r ihl ihr =>
    obtain ⟨hnode, hl, hr⟩ := h
    rw [Tree.inorder_node, List.mem_append, List.mem_cons] at hmem
    rcases hmem with hmem | heq | hmem
    · exact ihl hl hmem
    · cases heq
      exact ⟨_, _, hnode⟩
    · exact ihr hr hmem

/-- Nodes whose spans ascend lie in different slots. -/
theorem Holds.nodup_slots (h : arena.Holds t) (hasc : Ascending t.entries) : t.slots.Nodup := by
  rw [Ascending, Tree.entries, List.pairwise_map] at hasc
  rw [Tree.slots, List.Nodup, List.pairwise_map]
  refine hasc.imp_of_mem fun {x y} hx hy hbefore hslot => ?_
  -- a slot holds one span only
  obtain ⟨_, _, hnode⟩ := h.node_of_mem hx
  obtain ⟨_, _, hnode'⟩ := h.node_of_mem hy
  rw [hslot, hnode', Except.ok.injEq, Node.mk.injEq] at hnode
  rw [hnode.1] at hbefore
  exact hbefore.irrefl

end Arena

/-- A span is nearest to an address: it covers the address if an entry does, and otherwise it is the
highest one below the address or the lowest one above. -/
structure Nearest (a : Address) (entries : List (Span × α)) (s : Span) : Prop where
  /-- It covers the address if an entry does. -/
  covers : (∃ e ∈ entries, e.1.contains a = true) → s.contains a = true
  /-- If none does, no entry lies between it and the address. -/
  neighbour : (∀ e ∈ entries, e.1.contains a = false) →
    (s.stop ≤ a ∧ ∀ e ∈ entries, e.1.stop ≤ a → e.1.stop ≤ s.stop) ∨
      (a < s.start ∧ ∀ e ∈ entries, a < e.1.start → s.start ≤ e.1.start)

namespace Arena

variable {a : Address} {l r : Tree α} {i : SlotId} {s : Span} {v : α}

/-- The root after a splay is nearest to the address. -/
theorem nearest_of_splayedAt (h : SplayedAt a (.node l i s v r))
    (hasc : Ascending (Tree.node l i s v r).entries) :
    Nearest a (Tree.node l i s v r).entries s := by
  obtain ⟨hleft, hright⟩ := h
  rw [Tree.entries_node, Ascending.append_iff, Ascending.cons_iff] at hasc
  obtain ⟨-, ⟨habove, -⟩, hbelow⟩ := hasc
  have hs := s.start_lt_stop
  constructor
  · rintro ⟨e, he, hcontains⟩
    obtain ⟨hstart, hstop⟩ := Span.contains_iff.mp hcontains
    rw [Tree.entries_node, List.mem_append, List.mem_cons] at he
    rcases he with he | rfl | he
    · exact absurd hstop (UInt64.not_lt.mpr (hleft e he))
    · exact hcontains
    · exact absurd hstart (UInt64.not_le.mpr (hright e he))
  · intro hnone
    have hroot : ¬ (s.start ≤ a ∧ a < s.stop) := by
      rw [← Span.contains_iff, hnone (s, v) (by simp)]
      exact Bool.false_ne_true
    rcases UInt64.lt_or_le a s.start with hlt | hle
    · -- the root lies above the address, and all nodes left of it below
      refine .inr ⟨hlt, fun e he hlow => ?_⟩
      rw [Tree.entries_node, List.mem_append, List.mem_cons] at he
      rcases he with he | rfl | he
      · exact absurd (UInt64.lt_trans hlow e.1.start_lt_stop) (UInt64.not_lt.mpr (hleft e he))
      · exact UInt64.le_refl _
      · exact UInt64.le_of_lt (habove e he).start_lt
    · have hstop : s.stop ≤ a := UInt64.not_lt.mp fun hlt => hroot ⟨hle, hlt⟩
      refine .inl ⟨hstop, fun e he hhigh => ?_⟩
      rw [Tree.entries_node, List.mem_append, List.mem_cons] at he
      rcases he with he | rfl | he
      · exact UInt64.le_trans (hbelow e he (s, v) (by simp)) (UInt64.le_of_lt hs)
      · exact UInt64.le_refl _
      · exact absurd (UInt64.lt_of_lt_of_le e.1.start_lt_stop hhigh)
          (UInt64.not_lt.mpr (UInt64.le_of_lt (hright e he)))

/-- If the whole tree lies above the address, its lowest node has come to the root. -/
theorem SplayedAt.left_eq_leaf (h : SplayedAt a (.node l i s v r))
    (habove : ∀ e ∈ (Tree.node l i s v r).entries, a < e.1.start) : l = .leaf := by
  cases l with
  | leaf => rfl
  | node ll j sj vj lr =>
    -- a node left of the root would lie below the address
    have hstart : a < sj.start := habove (sj, vj) (by simp)
    have hstop : sj.stop ≤ a := h.1 (sj, vj) (by simp)
    exact absurd (UInt64.lt_of_lt_of_le (UInt64.lt_trans hstart sj.start_lt_stop) hstop)
      (UInt64.lt_irrefl a)

/-- Splaying only relinks: every node keeps its slot, its span and its value. -/
theorem Holds.node_of_relinks {arena arena' : Arena α} {t t' : Tree α} (h : arena.Holds t)
    (h' : arena'.Holds t') (hinorder : t'.inorder = t.inorder)
    (hlink : arena.Relinks t.slots arena')
    {j : SlotId} {n : Node α} (hn : arena.node j = .ok n) :
    ∃ n', arena'.node j = .ok n' ∧ n'.span = n.span ∧ n'.value = n.value := by
  by_cases hj : j ∈ t.slots
  · obtain ⟨⟨_, sj, vj⟩, hmem, rfl⟩ := List.mem_map.mp hj
    obtain ⟨_, _, hnode⟩ := h.node_of_mem hmem
    obtain ⟨_, _, hnode'⟩ := h'.node_of_mem (hinorder ▸ hmem)
    rw [hnode] at hn
    cases hn
    exact ⟨_, hnode', rfl, rfl⟩
  · exact ⟨n, hlink.node hj hn, rfl, rfl⟩

/-- Splaying a search tree around an address comes to an end and touches nothing but the links of
its nodes, which stay in their order. The new root is the node that is nearest to the address. If
the whole tree lies on one side of the address, the root has no child on the other side. -/
theorem splay_nearest {arena : Arena α} {t : Tree α} (hholds : arena.Holds t)
    (hasc : Ascending t.entries) (a : Address) :
    ∃ arena' t', arena.splay t.root a = .ok (arena', t'.root) ∧ arena'.Holds t' ∧
      t'.inorder = t.inorder ∧ arena.Relinks t.slots arena' ∧
      (∀ j n, arena.node j = .ok n →
        ∃ n', arena'.node j = .ok n' ∧ n'.span = n.span ∧ n'.value = n.value) ∧
      ∀ top n, t'.root = some top → arena'.node top = .ok n →
        Nearest a t.entries n.span ∧
        ((∀ e ∈ t.entries, e.1.stop ≤ a) → n.right = none) ∧
        ((∀ e ∈ t.entries, a < e.1.start) → n.left = none) := by
  obtain ⟨arena', t', hsplay, hholds', hinorder, hlink, hsplayed⟩ :=
    splay_eq_ok a hholds (hholds.nodup_slots hasc)
  refine ⟨arena', t', hsplay, hholds', hinorder, hlink,
    fun j n hn => hholds.node_of_relinks hholds' hinorder hlink hn, fun top n htop hn => ?_⟩
  specialize hsplayed hasc
  rw [← Tree.entries_eq_of_inorder_eq hinorder] at hasc ⊢
  cases t' with
  | leaf => cases htop
  | node l i s v r =>
    -- what lies in the slot of the root is the root of the new tree
    obtain ⟨hroot, -⟩ := hholds'
    cases htop
    cases hroot.symm.trans hn
    refine ⟨nearest_of_splayedAt hsplayed hasc, fun hbelow => ?_, fun habove => ?_⟩
    · rw [hsplayed.right_eq_leaf hbelow]
      rfl
    · rw [hsplayed.left_eq_leaf habove]
      rfl

/-- Three nodes in a row, each of them the right child of the one before. -/
def row : Tree Unit :=
  .node .leaf 0 ⟨16, 32, by decide⟩ ()
    (.node .leaf 1 ⟨32, 48, by decide⟩ () (.node .leaf 2 ⟨64, 80, by decide⟩ () .leaf))

/-- The row in the first three slots. -/
def rowArena : Arena Unit where
  slots := #[.occupied ⟨⟨16, 32, by decide⟩, (), none, some 1⟩,
    .occupied ⟨⟨32, 48, by decide⟩, (), none, some 2⟩,
    .occupied ⟨⟨64, 80, by decide⟩, (), none, none⟩]
  highWater := 3
  count := 3

/-- In a row that is splayed around an address between its last two nodes, the last one comes up. -/
theorem splay_nearest_row :
    rowArena.Holds row ∧ Ascending row.entries ∧
      ∃ arena' n, rowArena.splay row.root 56 = .ok (arena', some 2) ∧ arena'.node 2 = .ok n ∧
        Nearest 56 row.entries n.span := by
  have hholds : rowArena.Holds row := ⟨rfl, trivial, rfl, trivial, rfl, trivial, trivial⟩
  have hasc : Ascending row.entries := by
    unfold Ascending
    decide
  obtain ⟨arena', t', hsplay, hholds', -, -, -, hnearest⟩ := splay_nearest hholds hasc 56
  have htop : (rowArena.splay row.root 56).map Prod.snd = .ok (some 2) := rfl
  rw [hsplay] at htop
  have hroot : t'.root = some 2 := Except.ok.inj htop
  cases t' with
  | leaf => cases hroot
  | node l i s v r =>
    cases hroot
    exact ⟨hholds, hasc, arena', _, hsplay, hholds'.1, (hnearest _ _ rfl hholds'.1).1⟩

end Arena

end MemorySentry.SpanMap
