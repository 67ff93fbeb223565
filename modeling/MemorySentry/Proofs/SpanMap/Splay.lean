import MemorySentry.Proofs.SpanMap.Descent

/-!
# Splaying rearranges the links of a tree

- `join_eq_ok`, `assemble_eq_ok`: the assembly makes one tree of the wings and the tree between
  them, with all nodes in their order;
- `SplayedAt`: all that is left of the new root lies below the address, all that is right of it
  above;
- `splay_eq_ok`: splaying succeeds, keeps the sequence of the nodes and touches no other slot.
-/

namespace MemorySentry.SpanMap

namespace Arena

variable {α : Type}

/-! ### The assembly -/

/-- Makes one of the trees that grew a subtree of `top`, after what `top` still holds on that side
is hung onto its tail. -/
def join (arena : Arena α) (w : Wing) (split : Split) (top : SlotId) : Except Fault (Arena α) :=
  match split.tail w with
  | none => .ok arena
  | some tail => do
    let n ← arena.node top
    let arena ← arena.setInner w tail (w.outer n)
    arena.setOuter w top (split.root w)

/-- The assembly joins the lower tree and then the upper tree. -/
theorem assemble_eq (arena : Arena α) (split : Split) (top : SlotId) :
    arena.assemble split top = (do
      let arena ← arena.join .lower split top
      arena.join .upper split top) := by
  unfold assemble join
  rcases hl : split.lowerTail with _ | i <;> rcases hu : split.upperTail with _ | j <;>
    simp [Split.tail, Split.root, Wing.outer, hl, hu, setInner, setOuter, bind_assoc, ok_bind, pure,
        Except.pure]

/-- Joining a wing succeeds and makes it, closed by the outer subtree of the root, the new outer
subtree of the root. -/
theorem join_eq_ok {a : Address} {start arena : Arena α} {nodes : List (SlotId × Span × α)}
    {split : Split} {ws : Wings α} {w : Wing} {f : Frame α} {t : Tree α}
    (hnodup : (nodes.map Prod.fst).Nodup) (h : Unravels a start nodes arena ws (w.graft f t))
    (hroot : split.root w = (ws.frames w).getLast?.map Frame.slot)
    (htail : split.tail w = (ws.frames w).head?.map Frame.slot) :
    ∃ arena', arena.join w split f.slot = .ok arena' ∧
      Unravels a start nodes arena' (ws.set w [])
        (w.graft { f with outer := w.close (ws.frames w) f.outer } t) := by
  obtain ⟨hnode, hholdsf, hholdst⟩ := holds_graft_iff.mp h.tree
  have hinorder := (Wings.inorder_close ws w f t).trans h.inorder
  have hframes := ws.frames_set_nil w
  have hsides := h.sides_set_nil w
  rcases hfs : ws.frames w with _ | ⟨k, rest⟩
  · -- a wing without frames is joined already
    refine ⟨arena, by simp [join, htail, hfs], ?_⟩
    rw [hfs] at hinorder
    refine ⟨hinorder, h.relinks, h.tree, ?_, hsides⟩
    intro w'
    rcases hframes w' with hnil | ⟨-, heq⟩
    · rw [hnil]
      exact ⟨none, trivial⟩
    · rw [heq]
      exact h.wing w'
  · obtain ⟨stale, hwing⟩ := h.wing w
    rw [hfs] at hwing
    obtain ⟨hnodek, hholdsk, hrest⟩ := hwing
    obtain ⟨hmem, htree, hself, hfar, hother⟩ := h.tail_apart hnodup hfs
    have htreenodup := nodup_slots_graft_iff.mp (h.nodup_tree hnodup)
    rw [mem_slots_graft, not_or, not_or] at htree
    -- the tail `k` takes over the outer subtree of the root, and the root takes over the wing
    obtain ⟨arena₁, hset₁, hnode₁, hlink₁⟩ := setInner_eq_ok hnodek f.outer.root
    have hnodef₁ := hlink₁.node (by simpa using Ne.symm htree.1) hnode
    obtain ⟨arena₂, hset₂, hnode₂, hlink₂⟩ :=
      setOuter_eq_ok hnodef₁ (w.close (ws.frames w) f.outer)
    have hlink : arena.Relinks [k.slot, f.slot] arena₂ :=
      (hlink₁.mono (by simp)).trans (hlink₂.mono (by simp))
    have hfwing := h.root_apart hnodup
    have hfrest : f.slot ∉ k.outer.slots ∧ f.slot ∉ (w.nodes rest).map Prod.fst := by
      have hfw := hfwing w
      rw [hfs] at hfw
      cases w <;> simp [Wing.nodes, Tree.slots] at hfw ⊢ <;> tauto
    -- now that the link of the tail is up to date, the wing is a tree
    have hclose : arena₂.Holds (w.close (ws.frames w) f.outer) := by
      refine HoldsWing.close ?_ (hholdsf.relink hlink (disjoint_pair htree.2.1 htreenodup.1))
      rw [hfs]
      exact ⟨hlink₂.node (by simpa using htree.1) hnode₁,
        hholdsk.relink hlink (disjoint_pair hself hfrest.1),
        hrest.relink hlink (disjoint_pair hfar hfrest.2)⟩
    refine ⟨arena₂, ?_, ?_⟩
    · have hrootw : split.root w = (w.close (ws.frames w) f.outer).root := by
        rw [Wing.root_close, hroot, hfs, List.getLast?_cons]
        rfl
      rw [join, htail, hfs]
      simp only [List.head?_cons, Option.map_some, hnode, ok_bind, Wing.outer_nodeOf, hset₁, hrootw,
        hset₂]
    rw [hfs] at hinorder
    refine ⟨hinorder, h.relinks.trans (hlink.mono ?_), ?_, ?_, hsides⟩
    · intro i hi
      simp only [List.mem_cons, List.not_mem_nil, or_false] at hi
      rcases hi with rfl | rfl
      · exact hmem
      · exact h.slots_subset (mem_slots_graft.mpr (Or.inl rfl))
    · rw [← hfs]
      exact holds_graft_iff.mpr
        ⟨hnode₂, hclose, hholdst.relink hlink (disjoint_pair htree.2.2 htreenodup.2.1)⟩
    · intro w'
      rcases hframes w' with hnil | ⟨hw, heq⟩
      · rw [hnil]
        exact ⟨none, trivial⟩
      · rw [heq]
        obtain ⟨stale', hwing'⟩ := h.wing w'
        exact ⟨stale', hwing'.relink hlink (disjoint_pair (hother w' hw) (hfwing w'))⟩

/-- The tree with the nodes of both wings as the subtrees of its root. -/
def assembled (ws : Wings α) : Tree α → Tree α
  | .leaf => .leaf
  | .node l i s v r =>
    .node (Wing.lower.close ws.lower l) i s v (Wing.upper.close ws.upper r)

/-- The assembly succeeds and gives one tree with all the nodes in their order. -/
theorem assemble_eq_ok {a : Address} {start arena : Arena α} {nodes : List (SlotId × Span × α)}
    {split : Split} {ws : Wings α} {t : Tree α} {top : SlotId}
    (hnodup : (nodes.map Prod.fst).Nodup) (h : Unravels a start nodes arena ws t)
    (hsplit : split.Names ws) (htop : t.root = some top) :
    ∃ arena', arena.assemble split top = .ok arena' ∧
      Unravels a start nodes arena' {} (assembled ws t) := by
  cases t with
  | leaf => cases htop
  | node l i s v r =>
    obtain rfl : i = top := by simpa using htop
    obtain ⟨arena₁, hjoin₁, h₁⟩ := join_eq_ok (w := .lower) (f := ⟨i, s, v, l⟩) (t := r)
      hnodup h (hsplit .lower).1 (hsplit .lower).2
    obtain ⟨arena₂, hjoin₂, h₂⟩ := join_eq_ok (w := .upper) (f := ⟨i, s, v, r⟩)
      (t := Wing.lower.close ws.lower l) hnodup h₁ (hsplit .upper).1 (hsplit .upper).2
    refine ⟨arena₂, ?_, h₂⟩
    rw [assemble_eq, hjoin₁, ok_bind, hjoin₂]

/-! ### The splayed tree -/

/-- All spans left of the root lie below the address, and all spans right of it above. Only the root
can cover the address, and if it does not, it is a neighbour of the address. -/
def SplayedAt (a : Address) : Tree α → Prop
  | .leaf => True
  | .node l _ _ _ r => (∀ e ∈ l.entries, e.1.stop ≤ a) ∧ ∀ e ∈ r.entries, a < e.1.start

/-- Where a descent ends, the assembled tree is splayed. -/
theorem splayedAt_assembled {a : Address} {start arena : Arena α}
    {nodes : List (SlotId × Span × α)} {ws : Wings α} {t : Tree α}
    (hasc : Ascending (nodes.map Prod.snd)) (h : Unravels a start nodes arena ws t)
    (hstopped : Stopped a t) : SplayedAt a (assembled ws t) := by
  cases t with
  | leaf => cases hstopped
  | node l i s v r =>
    obtain ⟨hbelow, habove⟩ := hstopped
    rw [← h.inorder] at hasc
    simp only [Wings.inorder, Tree.inorder_node, List.map_append, List.map_cons,
      Ascending.append_iff, Ascending.cons_iff] at hasc
    obtain ⟨⟨hlower, ⟨-, ⟨hright, -⟩, hleft⟩, -⟩, hupper, -⟩ := hasc
    constructor
    · intro e he
      rw [Tree.entries, Wing.inorder_close_lower, List.map_append, List.mem_append] at he
      rcases he with he | he
      · exact Wing.stop_le_of_mem_lower hlower (h.sides .lower) e he
      · -- what the root has on its left is there only if the address is not below the root
        have hs : e.1.stop ≤ s.start := hleft e he (s, v) (by simp)
        rcases hside : s.side a with _ | _ | _
        · rw [hbelow hside] at he
          cases he
        · exact UInt64.le_trans hs (Span.contains_iff.mp (Span.side_eq_within_iff.mp hside)).1
        · exact UInt64.le_trans hs (UInt64.le_trans (UInt64.le_of_lt s.start_lt_stop)
            (Span.side_eq_above_iff.mp hside))
    · intro e he
      rw [Tree.entries, Wing.inorder_close_upper, List.map_append, List.mem_append] at he
      rcases he with he | he
      · -- and likewise on its right only if the address is not above the root
        have hs : s.stop ≤ e.1.start := hright e he
        rcases hside : s.side a with _ | _ | _
        · exact UInt64.lt_of_lt_of_le (UInt64.lt_trans (Span.side_eq_below_iff.mp hside)
            s.start_lt_stop) hs
        · exact UInt64.lt_of_lt_of_le
            (Span.contains_iff.mp (Span.side_eq_within_iff.mp hside)).2 hs
        · rw [habove hside] at he
          cases he
      · exact Wing.lt_start_of_mem_upper hupper (h.sides .upper) e he

/-- Splaying succeeds. It keeps the sequence of the nodes, touches no slot of another node, and
brings the node that covers the address, or a neighbour of the address, to the root. -/
theorem splay_eq_ok {arena : Arena α} {t : Tree α} (a : Address) (hholds : arena.Holds t)
    (hnodup : t.slots.Nodup) :
    ∃ arena' t', arena.splay t.root a = .ok (arena', t'.root) ∧ arena'.Holds t' ∧
      t'.inorder = t.inorder ∧ arena.Relinks t.slots arena' ∧
      (Ascending t.entries → SplayedAt a t') := by
  rcases htop : t.root with _ | top
  · cases t with
    | leaf => exact ⟨arena, .leaf, rfl, trivial, rfl, .refl arena _, fun _ => trivial⟩
    | node => cases htop
  · have hstart : Unravels a arena t.inorder arena {} t := by
      refine ⟨by simp [Wings.inorder, Wing.nodes], .refl arena _, hholds, ?_, ?_⟩
      · intro w
        cases w <;> exact ⟨none, trivial⟩
      · intro w f hf
        cases w <;> cases hf
    have hsplit : (({} : Split).Names ({} : Wings α)) := by
      intro w
      cases w <;> exact ⟨rfl, rfl⟩
    -- the bound on the number of steps is never reached, since every node has a slot of its own
    have hsteps : t.inorder.length ≤ arena.highWater + 1 :=
      Nat.le_succ_of_le (hholds.length_le_highWater hnodup)
    obtain ⟨arena₁, split₁, top₁, ws₁, t₁, hdescend, h₁, hsplit₁, htop₁, hstopped⟩ :=
      descend_ends hnodup (arena.highWater + 1) hstart hsplit htop hsteps
    obtain ⟨arena₂, hassemble, h₂⟩ := assemble_eq_ok hnodup h₁ hsplit₁ htop₁
    have hinorder : (assembled ws₁ t₁).inorder = t.inorder := by
      simpa [Wings.inorder, Wing.nodes] using h₂.inorder
    refine ⟨arena₂, assembled ws₁ t₁, ?_, h₂.tree, hinorder, h₂.relinks, ?_⟩
    · have hroot : (assembled ws₁ t₁).root = some top₁ := by
        cases t₁ with
        | leaf => cases htop₁
        | node => exact htop₁
      rw [splay, hdescend, hroot]
      simp only [ok_bind, hassemble]
      rfl
    · intro hasc
      exact splayedAt_assembled hasc h₁ hstopped

end Arena

end MemorySentry.SpanMap
