import MemorySentry.Proofs.SpanMap.Sorted
import MemorySentry.Proofs.SpanMap.Tree

/-!
# The wings of a tree that is taken apart

A descent takes a tree apart into a lower wing, the tree at hand and an upper wing. Each wing is a
list of frames, the one hung last in front: a frame is a node with the subtree on its outer side,
and its link on the inner side is out of date until the next frame is hung onto it.

The two sides are mirror images, so everything is said of a `Wing`. Hanging, rotating and closing
keep the sequence of all nodes (`Wings.inorder_push`, `Wings.inorder_rotate`,
`Wings.inorder_close`), so that no later proof needs an argument about rotations.
-/

namespace MemorySentry.SpanMap

/-- One of the two trees that grow while a tree is taken apart. -/
inductive Wing where
  /-- The tree of nodes below the address. -/
  | lower
  /-- The tree of nodes above the address. -/
  | upper
deriving DecidableEq

/-- A node of a wing with the subtree on its outer side. -/
structure Frame (α : Type) where
  /-- The slot of the node. -/
  slot : SlotId
  /-- The span of the node. -/
  span : Span
  /-- The value of the node. -/
  value : α
  /-- The subtree on the outer side. -/
  outer : Tree α

namespace Wing

variable {α : Type}

/-- The side of its nodes on which the address lies. -/
def side : Wing → Span.Side
  | lower => .above
  | upper => .below

/-- The link of a node to the subtree that is nearer to the address. -/
def inner : Wing → Node α → Link
  | lower, n => n.right
  | upper, n => n.left

/-- The link of a node to the subtree that is farther from the address. -/
def outer : Wing → Node α → Link
  | lower, n => n.left
  | upper, n => n.right

/-- The node of a frame with a link on its inner side. -/
def nodeOf : Wing → Frame α → Link → Node α
  | lower, f, link => ⟨f.span, f.value, f.outer.root, link⟩
  | upper, f, link => ⟨f.span, f.value, link, f.outer.root⟩

/-- The tree with the node of a frame at its root and a tree on the inner side. -/
def graft : Wing → Frame α → Tree α → Tree α
  | lower, f, t => .node f.outer f.slot f.span f.value t
  | upper, f, t => .node t f.slot f.span f.value f.outer

/-- The tree that a wing becomes with a tree hung onto its last frame. -/
def close (w : Wing) : List (Frame α) → Tree α → Tree α
  | [], t => t
  | f :: rest, t => w.close rest (w.graft f t)

/-- The nodes of a wing, from the lowest to the highest. -/
def nodes : Wing → List (Frame α) → List (SlotId × Span × α)
  | _, [] => []
  | lower, f :: rest => lower.nodes rest ++ (f.outer.inorder ++ [(f.slot, f.span, f.value)])
  | upper, f :: rest => (f.slot, f.span, f.value) :: f.outer.inorder ++ upper.nodes rest

/-- The inner link of a frame is the one that it is given. -/
@[simp]
theorem inner_nodeOf (w : Wing) (f : Frame α) (link : Link) : w.inner (w.nodeOf f link) = link := by
  cases w <;> rfl

/-- The outer one leads to its tree. -/
@[simp]
theorem outer_nodeOf (w : Wing) (f : Frame α) (link : Link) :
    w.outer (w.nodeOf f link) = f.outer.root := by
  cases w <;> rfl

@[simp]
theorem root_graft (w : Wing) (f : Frame α) (t : Tree α) : (w.graft f t).root = some f.slot := by
  cases w <;> rfl

/-- A tree with a node is a graft, on either side. -/
theorem exists_graft (w : Wing) {t : Tree α} {i : SlotId} (h : t.root = some i) :
    ∃ f c, t = w.graft f c ∧ f.slot = i := by
  cases t with
  | leaf => cases h
  | node l j s v r =>
    cases w with
    | lower => exact ⟨⟨j, s, v, l⟩, r, rfl, by simpa using h⟩
    | upper => exact ⟨⟨j, s, v, r⟩, l, rfl, by simpa using h⟩

/-- The root of a closed wing is the frame hung first. -/
theorem root_close (w : Wing) (fs : List (Frame α)) (t : Tree α) :
    (w.close fs t).root = (fs.getLast?.map Frame.slot).or t.root := by
  induction fs generalizing t with
  | nil => simp [close]
  | cons f rest ih =>
    rw [close, ih, root_graft, List.getLast?_cons]
    cases rest.getLast? <;> simp

/-- A closed lower wing has its nodes before those of what it is closed with. -/
theorem inorder_close_lower (fs : List (Frame α)) (t : Tree α) :
    (lower.close fs t).inorder = lower.nodes fs ++ t.inorder := by
  induction fs generalizing t with
  | nil => simp [close, nodes]
  | cons f rest ih => simp [close, ih, nodes, graft]

/-- A closed upper wing has them after. -/
theorem inorder_close_upper (fs : List (Frame α)) (t : Tree α) :
    (upper.close fs t).inorder = t.inorder ++ upper.nodes fs := by
  induction fs generalizing t with
  | nil => simp [close, nodes]
  | cons f rest ih => simp [close, ih, nodes, graft]

/-- A lower wing lies below the address as soon as its frames do: what hangs on their outer side is
lower still. -/
theorem stop_le_of_mem_lower {a : Address} {fs : List (Frame α)}
    (hasc : Ascending ((lower.nodes fs).map Prod.snd))
    (hsides : ∀ f ∈ fs, f.span.side a = lower.side) :
    ∀ e ∈ (lower.nodes fs).map Prod.snd, e.1.stop ≤ a := by
  induction fs with
  | nil => simp [nodes]
  | cons f rest ih =>
    simp only [nodes, List.map_append, List.map_cons, List.map_nil, Ascending.append_iff] at hasc
    have hf : f.span.stop ≤ a := Span.side_eq_above_iff.mp (hsides f (by simp))
    have hrest := ih hasc.1 fun g hg => hsides g (by simp [hg])
    intro e he
    simp only [nodes, List.map_append, List.map_cons, List.map_nil, List.mem_append,
      List.mem_singleton] at he
    rcases he with he | he | rfl
    · exact hrest e he
    · -- the subtree on the outer side ends before the node of the frame starts
      have hbefore : e.1.Before f.span := hasc.2.1.2.2 e he (f.span, f.value) (by simp)
      exact UInt64.le_trans hbefore (UInt64.le_trans (UInt64.le_of_lt f.span.start_lt_stop) hf)
    · exact hf

/-- An upper wing lies above the address as soon as its frames do. -/
theorem lt_start_of_mem_upper {a : Address} {fs : List (Frame α)}
    (hasc : Ascending ((upper.nodes fs).map Prod.snd))
    (hsides : ∀ f ∈ fs, f.span.side a = upper.side) :
    ∀ e ∈ (upper.nodes fs).map Prod.snd, a < e.1.start := by
  induction fs with
  | nil => simp [nodes]
  | cons f rest ih =>
    simp only [nodes, List.map_append, List.map_cons, List.cons_append, Ascending.cons_iff,
      Ascending.append_iff] at hasc
    have hf : a < f.span.start := Span.side_eq_below_iff.mp (hsides f (by simp))
    have hrest := ih hasc.2.2.1 fun g hg => hsides g (by simp [hg])
    intro e he
    simp only [nodes, List.map_append, List.map_cons, List.cons_append, List.mem_cons,
      List.mem_append] at he
    rcases he with rfl | he | he
    · exact hf
    · have hbefore : f.span.Before e.1 := hasc.1 e (by simp [he])
      exact UInt64.lt_trans hf hbefore.start_lt
    · exact hrest e he

end Wing

/-- The two wings of a tree that is taken apart, each with the frame hung last in front. -/
structure Wings (α : Type) where
  /-- The frames of nodes below the address. -/
  lower : List (Frame α) := []
  /-- The frames of nodes above the address. -/
  upper : List (Frame α) := []

namespace Wings

variable {α : Type}

/-- The frames of one wing. -/
def frames (ws : Wings α) : Wing → List (Frame α)
  | .lower => ws.lower
  | .upper => ws.upper

/-- The wings with other frames in one of them. -/
def set (ws : Wings α) (w : Wing) (fs : List (Frame α)) : Wings α :=
  match w with
  | .lower => { ws with lower := fs }
  | .upper => { ws with upper := fs }

/-- The nodes of both wings with those between them, from the lowest to the highest. -/
def inorder (ws : Wings α) (mid : List (SlotId × Span × α)) : List (SlotId × Span × α) :=
  Wing.lower.nodes ws.lower ++ mid ++ Wing.upper.nodes ws.upper

@[simp]
theorem frames_set_self (ws : Wings α) (w : Wing) (fs : List (Frame α)) :
    (ws.set w fs).frames w = fs := by
  cases w <;> rfl

theorem frames_set_of_ne (ws : Wings α) {w w' : Wing} (h : w' ≠ w) (fs : List (Frame α)) :
    (ws.set w fs).frames w' = ws.frames w' := by
  cases w <;> cases w' <;> first | rfl | exact absurd rfl h

/-- A wing that is put away has no frames, and the other one stays. -/
theorem frames_set_nil (ws : Wings α) (w w' : Wing) :
    (ws.set w []).frames w' = [] ∨ w' ≠ w ∧ (ws.set w []).frames w' = ws.frames w' := by
  by_cases hw : w' = w
  · subst hw
    exact Or.inl (ws.frames_set_self w' [])
  · exact Or.inr ⟨hw, ws.frames_set_of_ne hw []⟩

/-- Hanging the root of a tree onto a wing keeps the sequence of the nodes. -/
theorem inorder_push (ws : Wings α) (w : Wing) (f : Frame α) (t : Tree α) :
    (ws.set w (f :: ws.frames w)).inorder t.inorder = ws.inorder (w.graft f t).inorder := by
  cases w <;> simp [inorder, set, frames, Wing.nodes, Wing.graft]

/-- Rotating the root down to the outer side of its child keeps the sequence of the nodes. -/
theorem inorder_rotate (ws : Wings α) (w : Wing) (f g : Frame α) (t : Tree α) :
    ws.inorder (w.graft { g with outer := w.graft f g.outer } t).inorder =
      ws.inorder (w.graft f (w.graft g t)).inorder := by
  cases w <;> simp [inorder, Wing.graft]

/-- Closing a wing over the outer subtree of the root keeps the sequence of the nodes. -/
theorem inorder_close (ws : Wings α) (w : Wing) (f : Frame α) (t : Tree α) :
    (ws.set w []).inorder
        (w.graft { f with outer := w.close (ws.frames w) f.outer } t).inorder =
      ws.inorder (w.graft f t).inorder := by
  cases w <;>
    simp [inorder, set, frames, Wing.graft, Wing.nodes, Wing.inorder_close_lower,
      Wing.inorder_close_upper]

end Wings

/-! ### Wings and the links of a split -/

/-- The root of one of the trees that grow. -/
def Split.root (split : Split) : Wing → Link
  | .lower => split.lowerRoot
  | .upper => split.upperRoot

/-- The node of one of the trees that grow onto which the next one is hung. -/
def Split.tail (split : Split) : Wing → Link
  | .lower => split.lowerTail
  | .upper => split.upperTail

/-- The split after a node was hung onto one of the trees. -/
def Split.push (split : Split) (w : Wing) (top : SlotId) : Split :=
  match w, split.tail w with
  | .lower, none => { split with lowerRoot := some top, lowerTail := some top }
  | .lower, some _ => { split with lowerTail := some top }
  | .upper, none => { split with upperRoot := some top, upperTail := some top }
  | .upper, some _ => { split with upperTail := some top }

/-- The split names the first and the last frame of each wing. -/
def Split.Names {α : Type} (split : Split) (ws : Wings α) : Prop :=
  ∀ w, split.root w = (ws.frames w).getLast?.map Frame.slot ∧
    split.tail w = (ws.frames w).head?.map Frame.slot

/-- The split names the wings still after a frame is put on one of them. -/
theorem Split.Names.push {α : Type} {split : Split} {ws : Wings α} (h : split.Names ws) (w : Wing)
    (f : Frame α) : (split.push w f.slot).Names (ws.set w (f :: ws.frames w)) := by
  obtain ⟨hroot, htail⟩ := h w
  intro w'
  by_cases hw : w' = w
  · -- the new frame becomes the tail, and the root as well if the wing had no frame
    subst hw
    rw [Wings.frames_set_self, List.getLast?_cons, List.head?_cons]
    rcases hfs : ws.frames w' with _ | ⟨k, rest⟩ <;> rw [hfs] at hroot htail <;>
      cases w' <;> simp_all [Split.push, root, tail, List.getLast?_cons]
  · rw [Wings.frames_set_of_ne ws hw]
    rw [← (h w').1, ← (h w').2]
    cases w <;> cases w' <;> first | exact absurd rfl hw | skip
    all_goals
      unfold Split.push
      split <;> simp_all [root, tail]

end MemorySentry.SpanMap
