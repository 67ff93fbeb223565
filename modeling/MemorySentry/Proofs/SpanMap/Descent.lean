import MemorySentry.Proofs.SpanMap.Wing

/-!
# The descent of a splay

What a descent keeps is `Unravels`: wings and tree lie in the arena, and read from left to right
they are the nodes of the tree at the start. Rotating and hanging keep it (`rotate_eq_ok`,
`hang_eq_ok`), and a descent, which does nothing else, ends after at most as many steps as the tree
has nodes (`descend_ends`).
-/

namespace MemorySentry.SpanMap

namespace Arena

variable {α : Type}

/-- Replaces the link on the inner side of a node. -/
def setInner (arena : Arena α) : Wing → SlotId → Link → Except Fault (Arena α)
  | .lower => arena.setRight
  | .upper => arena.setLeft

/-- Replaces the link on the outer side of a node. -/
def setOuter (arena : Arena α) : Wing → SlotId → Link → Except Fault (Arena α)
  | .lower => arena.setLeft
  | .upper => arena.setRight

/-- Rotates the root down to the outer side of its inner child. -/
def rotate (arena : Arena α) : Wing → SlotId → SlotId → Except Fault (Arena α)
  | .lower => arena.rotateLeft
  | .upper => arena.rotateRight

/-- Hangs the root onto one of the trees that grow. -/
def hang (arena : Arena α) : Wing → Split → SlotId → Except Fault (Arena α × Split)
  | .lower => arena.hangLower
  | .upper => arena.hangUpper

/-- The inner link of a frame can be replaced, which touches its slot alone. -/
theorem setInner_eq_ok {arena : Arena α} {w : Wing} {f : Frame α} {link : Link}
    (hnode : arena.node f.slot = .ok (w.nodeOf f link)) (link' : Link) :
    ∃ arena', arena.setInner w f.slot link' = .ok arena' ∧
      arena'.node f.slot = .ok (w.nodeOf f link') ∧ arena.Relinks [f.slot] arena' := by
  cases w <;> exact modify_eq_ok hnode _

/-- So can the outer one, by the root of a tree. -/
theorem setOuter_eq_ok {arena : Arena α} {w : Wing} {f : Frame α} {link : Link}
    (hnode : arena.node f.slot = .ok (w.nodeOf f link)) (t : Tree α) :
    ∃ arena', arena.setOuter w f.slot t.root = .ok arena' ∧
      arena'.node f.slot = .ok (w.nodeOf { f with outer := t } link) ∧
      arena.Relinks [f.slot] arena' := by
  cases w <;> exact modify_eq_ok hnode _

/-! ### What a descent keeps -/

/-- The frames of a wing lie in their slots, linked as in the wing, and the frame hung last has the
given link on its inner side. -/
def HoldsWing (arena : Arena α) (w : Wing) : Link → List (Frame α) → Prop
  | _, [] => True
  | link, f :: rest =>
    arena.node f.slot = .ok (w.nodeOf f link) ∧ arena.Holds f.outer ∧
      arena.HoldsWing w (some f.slot) rest

/-- An arena holds a tree that is grafted on a frame if it holds the parts and the frame leads to
them. -/
theorem holds_graft_iff {arena : Arena α} {w : Wing} {f : Frame α} {t : Tree α} :
    arena.Holds (w.graft f t) ↔
      arena.node f.slot = .ok (w.nodeOf f t.root) ∧ arena.Holds f.outer ∧ arena.Holds t := by
  cases w with
  | lower => rfl
  | upper => exact and_congr_right fun _ => and_comm

/-- A node may exchange its inner subtree for a tree that lies elsewhere. -/
theorem setInner_graft_eq_ok {arena : Arena α} {w : Wing} {f : Frame α} {t t' : Tree α}
    (h : arena.Holds (w.graft f t)) (ht' : arena.Holds t') (hself : f.slot ∉ f.outer.slots)
    (hout : f.slot ∉ t'.slots) :
    ∃ arena', arena.setInner w f.slot t'.root = .ok arena' ∧ arena'.Holds (w.graft f t') ∧
      arena.Relinks [f.slot] arena' := by
  obtain ⟨hnode, houter, -⟩ := holds_graft_iff.mp h
  obtain ⟨arena', hset, hnode', hlink⟩ := setInner_eq_ok hnode t'.root
  refine ⟨arena', hset, holds_graft_iff.mpr ⟨hnode', ?_, ?_⟩, hlink⟩
  · exact houter.relink hlink (List.disjoint_singleton.mpr hself)
  · exact ht'.relink hlink (List.disjoint_singleton.mpr hout)

/-- A wing whose open link leads to a tree is closed by that tree. -/
theorem HoldsWing.close {arena : Arena α} {w : Wing} {fs : List (Frame α)} {t : Tree α}
    (hwing : arena.HoldsWing w t.root fs) (ht : arena.Holds t) : arena.Holds (w.close fs t) := by
  induction fs generalizing t with
  | nil => exact ht
  | cons f rest ih =>
    obtain ⟨hnode, houter, hrest⟩ := hwing
    refine ih ?_ (holds_graft_iff.mpr ⟨hnode, houter, ht⟩)
    rwa [Wing.root_graft]

/-- A wing of which no slot is touched stays as it is. -/
theorem HoldsWing.relink {arena arena' : Arena α} {w : Wing} {link : Link} {fs : List (Frame α)}
    {touched : List SlotId} (h : arena.HoldsWing w link fs) (hlink : arena.Relinks touched arena')
    (hdisj : ((w.nodes fs).map Prod.fst).Disjoint touched) : arena'.HoldsWing w link fs := by
  induction fs generalizing link with
  | nil => trivial
  | cons f rest ih =>
    obtain ⟨hnode, houter, hrest⟩ := h
    have hparts : f.slot ∉ touched ∧ f.outer.slots.Disjoint touched ∧
        ((w.nodes rest).map Prod.fst).Disjoint touched := by
      cases w <;> simp [Wing.nodes, List.disjoint_append_left, List.disjoint_cons_left,
        Tree.slots] at hdisj ⊢ <;> tauto
    exact ⟨hlink.node hparts.1 hnode, houter.relink hlink hparts.2.1, ih hrest hparts.2.2⟩

/-- What a descent around `a` keeps, from the arena `start` and the sequence `nodes` on: the wings
and the tree at hand lie in the arena, hold the nodes in their order, and the address lies between
the wings. -/
structure Unravels (a : Address) (start : Arena α) (nodes : List (SlotId × Span × α))
    (arena : Arena α) (ws : Wings α) (t : Tree α) : Prop where
  /-- The sequence of the nodes is that of the start. -/
  inorder : ws.inorder t.inorder = nodes
  /-- Only slots of these nodes are touched. -/
  relinks : start.Relinks (nodes.map Prod.fst) arena
  /-- The tree at hand lies in its slots. -/
  tree : arena.Holds t
  /-- Each wing lies in its slots, but for the link that is out of date. -/
  wing : ∀ w, ∃ stale, arena.HoldsWing w stale (ws.frames w)
  /-- The nodes of each wing lie on its side of the address. -/
  sides : ∀ w, ∀ f ∈ ws.frames w, f.span.side a = w.side

/-- The slots of the grafted tree are those of its parts. -/
theorem mem_slots_graft {w : Wing} {f : Frame α} {t : Tree α} {i : SlotId} :
    i ∈ (w.graft f t).slots ↔ i = f.slot ∨ i ∈ f.outer.slots ∨ i ∈ t.slots := by
  cases w <;> simp [Wing.graft] <;> tauto

/-- No slot comes twice in it if none does in the parts and these have none in common. -/
theorem nodup_slots_graft_iff {w : Wing} {f : Frame α} {t : Tree α} :
    (w.graft f t).slots.Nodup ↔
      f.slot ∉ f.outer.slots ∧ f.slot ∉ t.slots ∧ f.outer.slots.Disjoint t.slots ∧
        f.outer.slots.Nodup ∧ t.slots.Nodup := by
  cases w with
  | lower =>
    simp only [Wing.graft, Tree.slots_node, List.nodup_append', List.nodup_cons,
      List.disjoint_cons_right]
    tauto
  | upper =>
    have hcomm : f.outer.slots.Disjoint t.slots ↔ t.slots.Disjoint f.outer.slots :=
      List.disjoint_comm
    simp only [Wing.graft, Tree.slots_node, List.nodup_append', List.nodup_cons,
      List.disjoint_cons_right]
    tauto

namespace Unravels

variable {a : Address} {start arena : Arena α} {nodes : List (SlotId × Span × α)} {ws : Wings α}
  {t : Tree α}

/-- The tree at hand has distinct slots. -/
theorem nodup_tree (h : Unravels a start nodes arena ws t) (hnodup : (nodes.map Prod.fst).Nodup) :
    t.slots.Nodup := by
  rw [← h.inorder] at hnodup
  simp only [Wings.inorder, List.map_append, List.nodup_append'] at hnodup
  exact hnodup.1.2.1

/-- The slots of a wing are distinct. -/
theorem nodup_wing (h : Unravels a start nodes arena ws t) (hnodup : (nodes.map Prod.fst).Nodup)
    (w : Wing) : ((w.nodes (ws.frames w)).map Prod.fst).Nodup := by
  rw [← h.inorder] at hnodup
  simp only [Wings.inorder, List.map_append, List.nodup_append'] at hnodup
  cases w with
  | lower => exact hnodup.1.1
  | upper => exact hnodup.2.1

/-- A wing has no slot of the tree at hand. -/
theorem disjoint_tree (h : Unravels a start nodes arena ws t)
    (hnodup : (nodes.map Prod.fst).Nodup) (w : Wing) :
    ((w.nodes (ws.frames w)).map Prod.fst).Disjoint t.slots := by
  rw [← h.inorder] at hnodup
  simp only [Wings.inorder, List.map_append, List.nodup_append', List.disjoint_append_left]
    at hnodup
  cases w with
  | lower => exact hnodup.1.2.2
  | upper => exact List.Disjoint.symm hnodup.2.2.2

/-- The two wings have no slot in common. -/
theorem disjoint_wing (h : Unravels a start nodes arena ws t)
    (hnodup : (nodes.map Prod.fst).Nodup) {w w' : Wing} (hne : w ≠ w') :
    ((w.nodes (ws.frames w)).map Prod.fst).Disjoint ((w'.nodes (ws.frames w')).map Prod.fst) := by
  rw [← h.inorder] at hnodup
  simp only [Wings.inorder, List.map_append, List.nodup_append', List.disjoint_append_left]
    at hnodup
  cases w <;> cases w'
  · exact absurd rfl hne
  · exact hnodup.2.2.1
  · exact List.Disjoint.symm hnodup.2.2.1
  · exact absurd rfl hne

/-- The slots of the tree at hand are slots of the nodes. -/
theorem slots_subset (h : Unravels a start nodes arena ws t) : t.slots ⊆ nodes.map Prod.fst := by
  rw [← h.inorder]
  intro i hi
  simp only [Wings.inorder, List.map_append, List.mem_append]
  exact Or.inl (Or.inr hi)

/-- The slots of a wing are slots of the nodes. -/
theorem wing_subset (h : Unravels a start nodes arena ws t) (w : Wing) :
    (w.nodes (ws.frames w)).map Prod.fst ⊆ nodes.map Prod.fst := by
  rw [← h.inorder]
  intro i hi
  simp only [Wings.inorder, List.map_append, List.mem_append]
  cases w with
  | lower => exact Or.inl (Or.inl hi)
  | upper => exact Or.inr hi

/-- The slot of the frame hung last is a slot of the nodes and is used nowhere else. -/
theorem tail_apart (h : Unravels a start nodes arena ws t) (hnodup : (nodes.map Prod.fst).Nodup)
    {w : Wing} {k : Frame α} {rest : List (Frame α)} (hfs : ws.frames w = k :: rest) :
    k.slot ∈ nodes.map Prod.fst ∧ k.slot ∉ t.slots ∧ k.slot ∉ k.outer.slots ∧
      k.slot ∉ (w.nodes rest).map Prod.fst ∧
      ∀ w', w' ≠ w → k.slot ∉ (w'.nodes (ws.frames w')).map Prod.fst := by
  have hmem : k.slot ∈ (w.nodes (ws.frames w)).map Prod.fst := by
    cases w <;> simp [hfs, Wing.nodes]
  have hself : k.slot ∉ k.outer.slots ∧ k.slot ∉ (w.nodes rest).map Prod.fst := by
    have hnodupw := h.nodup_wing hnodup w
    rw [hfs] at hnodupw
    cases w <;> simp [Wing.nodes, List.nodup_append', Tree.slots] at hnodupw ⊢ <;> tauto
  exact ⟨h.wing_subset w hmem, fun hk => h.disjoint_tree hnodup w hmem hk, hself.1, hself.2,
    fun w' hw hk => h.disjoint_wing hnodup (Ne.symm hw) hmem hk⟩

/-- The slot of the root is in no wing. -/
theorem root_apart {w : Wing} {f : Frame α} (h : Unravels a start nodes arena ws (w.graft f t))
    (hnodup : (nodes.map Prod.fst).Nodup) (w' : Wing) :
    f.slot ∉ (w'.nodes (ws.frames w')).map Prod.fst := by
  intro hmem
  exact h.disjoint_tree hnodup w' hmem (mem_slots_graft.mpr (Or.inl rfl))

/-- A node may be hung onto the wing whose side it has. -/
theorem sides_push (h : Unravels a start nodes arena ws t) {w : Wing} {f : Frame α}
    (hside : f.span.side a = w.side) :
    ∀ w', ∀ g ∈ (ws.set w (f :: ws.frames w)).frames w', g.span.side a = w'.side := by
  intro w' g hg
  by_cases hw : w' = w
  · subst hw
    rw [Wings.frames_set_self, List.mem_cons] at hg
    rcases hg with rfl | hg
    · exact hside
    · exact h.sides w' g hg
  · rw [Wings.frames_set_of_ne ws hw] at hg
    exact h.sides w' g hg

/-- The frames of a wing that is put away are not asked for their sides any more. -/
theorem sides_set_nil (h : Unravels a start nodes arena ws t) (w : Wing) :
    ∀ w', ∀ g ∈ (ws.set w []).frames w', g.span.side a = w'.side := by
  intro w' g hg
  rcases ws.frames_set_nil w w' with hnil | ⟨-, heq⟩
  · rw [hnil] at hg
    cases hg
  · rw [heq] at hg
    exact h.sides w' g hg

end Unravels

/-- The rotation in terms of the sides of the wing. -/
theorem rotate_eq {arena : Arena α} {w : Wing} {g : Frame α} {link : Link}
    (hg : arena.node g.slot = .ok (w.nodeOf g link)) (top : SlotId) :
    arena.rotate w top g.slot = (do
      let arena ← arena.setInner w top g.outer.root
      arena.setOuter w g.slot (some top)) := by
  cases w <;> simp [rotate, rotateLeft, rotateRight, hg, ok_bind, Wing.nodeOf, setInner, setOuter]

/-- A rotation succeeds and keeps what the descent keeps. -/
theorem rotate_eq_ok {a : Address} {start arena : Arena α} {nodes : List (SlotId × Span × α)}
    {ws : Wings α} {w : Wing} {f g : Frame α} {t : Tree α}
    (hnodup : (nodes.map Prod.fst).Nodup)
    (h : Unravels a start nodes arena ws (w.graft f (w.graft g t))) :
    ∃ arena', arena.rotate w f.slot g.slot = .ok arena' ∧
      Unravels a start nodes arena' ws (w.graft { g with outer := w.graft f g.outer } t) := by
  -- the two nodes that change are distinct, and neither is in a subtree
  have htree := h.nodup_tree hnodup
  rw [nodup_slots_graft_iff, nodup_slots_graft_iff] at htree
  obtain ⟨hf, hfg, hfout, -, hg, hgt, -, -, -⟩ := htree
  rw [mem_slots_graft, not_or, not_or] at hfg
  have hgf : g.slot ∉ f.outer.slots := fun hmem =>
    hfout hmem (mem_slots_graft.mpr (Or.inl rfl))
  obtain ⟨hnodef, hholdsf, hrest⟩ := holds_graft_iff.mp h.tree
  obtain ⟨hnodeg, hholdsg, hholdst⟩ := holds_graft_iff.mp hrest
  -- first the root takes over the outer subtree of its child, then the child the root
  obtain ⟨arena₁, hset₁, hnode₁, hlink₁⟩ := setInner_eq_ok hnodef g.outer.root
  have hnodeg₁ := hlink₁.node (by simpa using Ne.symm hfg.1) hnodeg
  obtain ⟨arena₂, hset₂, hnode₂, hlink₂⟩ := setOuter_eq_ok hnodeg₁ (w.graft f g.outer)
  rw [Wing.root_graft] at hset₂
  have hlink : arena.Relinks [f.slot, g.slot] arena₂ :=
    (hlink₁.mono (by simp)).trans (hlink₂.mono (by simp))
  have hsub : [f.slot, g.slot] ⊆ (w.graft f (w.graft g t)).slots := by
    intro i hi
    simp only [mem_slots_graft]
    simp only [List.mem_cons, List.not_mem_nil, or_false] at hi
    tauto
  refine ⟨arena₂, ?_, ?_⟩
  · rw [rotate_eq hnodeg, hset₁, ok_bind, hset₂]
  refine ⟨?_, ?_, ?_, ?_, h.sides⟩
  · rw [Wings.inorder_rotate, h.inorder]
  · exact h.relinks.trans (hlink.mono (List.Subset.trans hsub h.slots_subset))
  · refine holds_graft_iff.mpr ⟨hnode₂, holds_graft_iff.mpr ⟨?_, ?_, ?_⟩, ?_⟩
    · exact hlink₂.node (by simpa using hfg.1) hnode₁
    · exact hholdsf.relink hlink (disjoint_pair hf hgf)
    · exact hholdsg.relink hlink (disjoint_pair hfg.2.1 hg)
    · exact hholdst.relink hlink (disjoint_pair hfg.2.2 hgt)
  · intro w'
    obtain ⟨stale, hwing⟩ := h.wing w'
    exact ⟨stale,
      hwing.relink hlink (List.disjoint_of_subset_right hsub (h.disjoint_tree hnodup w'))⟩

/-- Hanging a node in terms of the sides of the wing. -/
theorem hang_eq (arena : Arena α) (w : Wing) (split : Split) (top : SlotId) :
    arena.hang w split top = (do
      let arena ← match split.tail w with
        | none => .ok arena
        | some tail => arena.setInner w tail (some top)
      return (arena, split.push w top)) := by
  cases w with
  | lower =>
    rcases h : split.lowerTail with _ | i <;>
      simp [hang, hangLower, Split.tail, Split.push, h, setInner, ok_bind, pure, Except.pure]
  | upper =>
    rcases h : split.upperTail with _ | i <;>
      simp [hang, hangUpper, Split.tail, Split.push, h, setInner, ok_bind, pure, Except.pure]

/-- Hanging the root onto its wing succeeds and keeps what the descent keeps. -/
theorem hang_eq_ok {a : Address} {start arena : Arena α} {nodes : List (SlotId × Span × α)}
    {split : Split} {ws : Wings α} {w : Wing} {f : Frame α} {t : Tree α}
    (hnodup : (nodes.map Prod.fst).Nodup) (h : Unravels a start nodes arena ws (w.graft f t))
    (hsplit : split.Names ws) (hside : f.span.side a = w.side) :
    ∃ arena', arena.hang w split f.slot = .ok (arena', split.push w f.slot) ∧
      Unravels a start nodes arena' (ws.set w (f :: ws.frames w)) t := by
  obtain ⟨hnode, hholdsf, hholdst⟩ := holds_graft_iff.mp h.tree
  have hinorder := (Wings.inorder_push ws w f t).trans h.inorder
  have hsides := h.sides_push hside
  have htail := (hsplit w).2
  obtain ⟨stale, hwing⟩ := h.wing w
  rw [hang_eq, htail]
  rcases hfs : ws.frames w with _ | ⟨k, rest⟩
  · -- the first frame of a wing is only recorded in the split, and no link changes
    refine ⟨arena, rfl, ?_⟩
    rw [← hfs]
    refine ⟨hinorder, h.relinks, hholdst, ?_, hsides⟩
    intro w'
    by_cases hw : w' = w
    · subst hw
      rw [Wings.frames_set_self, hfs]
      exact ⟨t.root, hnode, hholdsf, trivial⟩
    · rw [Wings.frames_set_of_ne ws hw]
      exact h.wing w'
  · -- otherwise the inner link of the tail `k`, which is out of date, is set to the new frame, and
    -- `k` is used nowhere but at its place in the wing
    rw [hfs] at hwing
    obtain ⟨hnodek, hholdsk, hrest⟩ := hwing
    obtain ⟨arena', hset, hnode', hlink⟩ := setInner_eq_ok hnodek (some f.slot)
    obtain ⟨hmem, htree, hself, hfar, hother⟩ := h.tail_apart hnodup hfs
    rw [mem_slots_graft, not_or, not_or] at htree
    refine ⟨arena', ?_, ?_⟩
    · simp only [List.head?_cons, Option.map_some, hset, ok_bind]
      rfl
    rw [← hfs]
    refine ⟨hinorder, ?_, ?_, ?_, hsides⟩
    · exact h.relinks.trans (hlink.mono (by simpa using hmem))
    · exact hholdst.relink hlink (by simpa using htree.2.2)
    · intro w'
      by_cases hw : w' = w
      · subst hw
        rw [Wings.frames_set_self, hfs]
        refine ⟨t.root, ?_, ?_, hnode', ?_, ?_⟩
        · exact hlink.node (by simpa using Ne.symm htree.1) hnode
        · exact hholdsf.relink hlink (by simpa using htree.2.1)
        · exact hholdsk.relink hlink (by simpa using hself)
        · exact hrest.relink hlink (by simpa using hfar)
      · obtain ⟨stale', hwing'⟩ := h.wing w'
        rw [Wings.frames_set_of_ne ws hw]
        exact ⟨stale', hwing'.relink hlink (by simpa using hother w' hw)⟩

/-! ### The descent -/

/-- What a descent does at `top` when the address lies on the inner side of the nodes of a wing;
the last argument is the link of `top` to that side. -/
def descendToward (a : Address) (steps : Nat) (arena : Arena α) (split : Split) (w : Wing)
    (top : SlotId) : Link → Except Fault (Arena α × Split × SlotId)
  | none => .ok (arena, split, top)
  | some child => do
    if (← arena.side child a) = w.side then
      let arena ← arena.rotate w top child
      let some next := w.inner (← arena.node child) | return (arena, split, child)
      let (arena, split) ← arena.hang w split child
      descend a steps arena split next
    else
      let (arena, split) ← arena.hang w split top
      descend a steps arena split child

/-- Both branches of a descent are the same step, towards the upper and towards the lower wing. -/
theorem descend_graft {a : Address} {steps : Nat} {arena : Arena α} {split : Split} {w : Wing}
    {f : Frame α} {link : Link} (hnode : arena.node f.slot = .ok (w.nodeOf f link))
    (hside : f.span.side a = w.side) :
    descend a (steps + 1) arena split f.slot =
      descendToward a steps arena split w f.slot link := by
  rw [descend, hnode, ok_bind]
  cases w <;> cases link <;> simp only [Wing.nodeOf, hside, Wing.side] <;> rfl

/-- A tree at which a descent around `a` ends: the root covers the address, or it has no subtree on
the side on which the address lies. -/
def Stopped (a : Address) : Tree α → Prop
  | .leaf => False
  | .node l _ s _ r => (s.side a = .below → l = .leaf) ∧ (s.side a = .above → r = .leaf)

/-- The descent stops at a frame with nothing inside. -/
theorem stopped_graft_leaf {a : Address} {w : Wing} {f : Frame α} (hside : f.span.side a = w.side) :
    Stopped a (w.graft f .leaf) := by
  cases w <;> simp_all [Stopped, Wing.graft, Wing.side]

/-- The side on which an address lies of a frame can be read off its slot. -/
theorem side_eq_ok {arena : Arena α} {w : Wing} {g : Frame α} {link : Link} (a : Address)
    (hnode : arena.node g.slot = .ok (w.nodeOf g link)) :
    arena.side g.slot a = .ok (g.span.side a) := by
  rw [side, hnode]
  cases w <;> rfl

/-- The descent has ended: wings and tree are those of the start, taken apart, the split names the
wings, and the tree is one at which a descent ends. -/
def Ends (a : Address) (start : Arena α) (nodes : List (SlotId × Span × α))
    (result : Except Fault (Arena α × Split × SlotId)) : Prop :=
  ∃ arena split top ws t, result = .ok (arena, split, top) ∧
    Unravels a start nodes arena ws t ∧ split.Names ws ∧ t.root = some top ∧ Stopped a t

section

variable {a : Address} {start arena : Arena α} {nodes : List (SlotId × Span × α)} {split : Split}
  {ws : Wings α}

/-- Descents of `steps` steps end that start from a tree with no more nodes. -/
def DescentsEnd (a : Address) (start : Arena α) (nodes : List (SlotId × Span × α))
    (steps : Nat) : Prop :=
  ∀ {arena : Arena α} {split : Split} {ws : Wings α} {t : Tree α} {top : SlotId},
    Unravels a start nodes arena ws t → split.Names ws → t.root = some top →
      t.inorder.length ≤ steps → Ends a start nodes (descend a steps arena split top)

/-- A step of a descent takes at least one node out of the tree at hand. -/
theorem descendToward_ends {w : Wing} {f : Frame α} {c : Tree α} {steps : Nat}
    (hnodup : (nodes.map Prod.fst).Nodup) (ih : DescentsEnd a start nodes steps)
    (h : Unravels a start nodes arena ws (w.graft f c)) (hsplit : split.Names ws)
    (hside : f.span.side a = w.side) (hsteps : (w.graft f c).inorder.length ≤ steps + 1) :
    Ends a start nodes (descendToward a steps arena split w f.slot c.root) := by
  obtain ⟨-, -, hc⟩ := holds_graft_iff.mp h.tree
  rcases hroot : c.root with _ | child
  · -- without a child on that side the root is where the descent ends
    cases c with
    | leaf =>
      exact ⟨arena, split, f.slot, ws, w.graft f .leaf, rfl, h, hsplit, by simp,
        stopped_graft_leaf hside⟩
    | node => cases hroot
  obtain ⟨g, c', rfl, rfl⟩ := Wing.exists_graft w hroot
  have hnodeg := (holds_graft_iff.mp hc).1
  simp only [descendToward, side_eq_ok a hnodeg, ok_bind]
  -- the nodes that go into the wings are not counted any more, so one step less is enough
  have hsize : (w.graft f (w.graft g c')).inorder.length =
      c'.inorder.length + f.outer.inorder.length + g.outer.inorder.length + 2 := by
    cases w <;> simp [Wing.graft] <;> omega
  have hsize' : (w.graft g c').inorder.length =
      c'.inorder.length + g.outer.inorder.length + 1 := by
    cases w <;> simp [Wing.graft] <;> omega
  by_cases hsideg : g.span.side a = w.side
  · -- two steps in one direction: rotate, and then hang the child with the root below it
    obtain ⟨arena₁, hrotate, h₁⟩ := rotate_eq_ok hnodup h
    have hnode₁ := (holds_graft_iff.mp h₁.tree).1
    simp only [hsideg, if_true, hrotate, ok_bind, hnode₁, Wing.inner_nodeOf]
    rcases hroot' : c'.root with _ | next
    · cases c' with
      | leaf =>
        exact ⟨arena₁, split, g.slot, ws, _, rfl, h₁, hsplit, by simp,
          stopped_graft_leaf hsideg⟩
      | node => cases hroot'
    · obtain ⟨arena₂, hhang, h₂⟩ := hang_eq_ok hnodup h₁ hsplit hsideg
      simp only [hhang, ok_bind]
      have hsplit₂ := hsplit.push w { g with outer := w.graft f g.outer }
      have hsteps₂ : c'.inorder.length ≤ steps := by omega
      exact ih h₂ hsplit₂ hroot' hsteps₂
  · -- the address lies between the root and its child, or in the child: hang the root alone
    obtain ⟨arena₁, hhang, h₁⟩ := hang_eq_ok hnodup h hsplit hside
    simp only [hsideg, if_false, hhang, ok_bind]
    have hsteps₁ : (w.graft g c').inorder.length ≤ steps := by omega
    exact ih h₁ (hsplit.push w f) hroot hsteps₁

/-- A descent with as many steps as the tree has nodes ends, and keeps what every step keeps. -/
theorem descend_ends (hnodup : (nodes.map Prod.fst).Nodup) (steps : Nat) :
    DescentsEnd a start nodes steps := by
  induction steps with
  | zero =>
    intro arena split ws t top h hsplit htop hsteps
    cases t with
    | leaf => cases htop
    | node l i s v r => simp at hsteps
  | succ steps ih =>
    intro arena split ws t top h hsplit htop hsteps
    -- towards either wing the step is the same, so the two sides share `descendToward_ends`
    have htoward : ∀ (w : Wing) (f : Frame α) (c : Tree α), t = w.graft f c →
        f.span.side a = w.side → Ends a start nodes (descend a (steps + 1) arena split top) := by
      rintro w f c rfl hside
      have hnode := (holds_graft_iff.mp h.tree).1
      obtain rfl : f.slot = top := by simpa using htop
      rw [descend_graft hnode hside]
      exact descendToward_ends hnodup ih h hsplit hside hsteps
    cases t with
    | leaf => cases htop
    | node l i s v r =>
      rcases hs : s.side a with _ | _ | _
      · exact htoward .upper ⟨i, s, v, r⟩ l rfl hs
      · obtain rfl : i = top := by simpa using htop
        refine ⟨arena, split, i, ws, .node l i s v r, ?_, h, hsplit, rfl, by simp [Stopped, hs]⟩
        rw [descend, h.tree.1, ok_bind]
        simp only [hs]
        rfl
      · exact htoward .lower ⟨i, s, v, l⟩ r rfl hs

end

end Arena

end MemorySentry.SpanMap
