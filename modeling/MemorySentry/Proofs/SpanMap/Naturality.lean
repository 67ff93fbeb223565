import MemorySentry.SpanMap.Basic

/-!
# Maps with other values

No operation on a span map looks at the values that it stores. So it makes no difference whether the
values are replaced before an operation or after it: each operation commutes with `SpanMap.map`, and
this slot by slot, in the shape of the tree and in its faults.

The laws go up from accesses to slots (`Arena.node_map`, `Arena.modify_map`) over splaying
(`Arena.splay_map`) to the operations of the map (`lookup_map` to `toList_map`).
-/

namespace MemorySentry.SpanMap

variable {α β : Type} (f : α → β)

/-- The node with its value replaced. -/
def Node.map (n : Node α) : Node β :=
  ⟨n.span, f n.value, n.left, n.right⟩

@[simp]
theorem Node.map_span (n : Node α) : (n.map f).span = n.span := rfl

@[simp]
theorem Node.map_value (n : Node α) : (n.map f).value = f n.value := rfl

@[simp]
theorem Node.map_left (n : Node α) : (n.map f).left = n.left := rfl

@[simp]
theorem Node.map_right (n : Node α) : (n.map f).right = n.right := rfl

/-- The slot with the value of its node replaced. -/
def Slot.map : Slot α → Slot β
  | .vacant next => .vacant next
  | .occupied n => .occupied (n.map f)

/-- The arena with the values of all nodes replaced. -/
def Arena.map (arena : Arena α) : Arena β where
  slots := arena.slots.map (Slot.map f)
  highWater := arena.highWater
  firstFree := arena.firstFree
  count := arena.count

/-- The map with all its values replaced. -/
def map (m : SpanMap α) : SpanMap β :=
  ⟨m.arena.map f, m.root⟩

theorem map_empty : (empty : SpanMap α).map f = empty := by
  simp only [map, empty, Arena.map, Array.map_empty]

namespace Arena

variable (arena : Arena α)

@[simp]
theorem map_highWater : (arena.map f).highWater = arena.highWater := rfl

@[simp]
theorem map_firstFree : (arena.map f).firstFree = arena.firstFree := rfl

/-! ### Accesses to slots -/

/-- A slot holds the image of what it held. -/
theorem slot_map (i : SlotId) : (arena.map f).slot i = Slot.map f <$> arena.slot i := by
  unfold slot
  simp only [map, Array.getElem?_map]
  split
  · cases arena.slots[i]? <;> rfl
  · rfl

/-- Its node is the image of the node. -/
theorem node_map (i : SlotId) : (arena.map f).node i = Node.map f <$> arena.node i := by
  unfold node
  rw [slot_map, bind_map_left, map_bind]
  refine bind_congr fun content => ?_
  cases content <;> rfl

/-- To write an image is to take the image after writing. -/
theorem write_map (i : SlotId) (content : Slot α) :
    (arena.map f).write i (content.map f) = (arena.write i content).map f := by
  unfold write
  simp only [map, Array.size_map]
  split
  · simp only [Array.map_setIfInBounds]
  · simp only [Array.map_push]

/-- A change of a node that agrees with another one on images carries over. -/
theorem modify_map (i : SlotId) {g : Node α → Node α} {g' : Node β → Node β}
    (hg : ∀ n, g' (n.map f) = (g n).map f) :
    (arena.map f).modify i g' = map f <$> arena.modify i g := by
  unfold modify
  rw [node_map, bind_map_left, map_bind]
  refine bind_congr fun n => ?_
  rw [hg, map_pure]
  exact congrArg pure (arena.write_map f i (.occupied (g n)))

/-- Links are set in the image as they are before. -/
theorem setLeft_map (i : SlotId) (link : Link) :
    (arena.map f).setLeft i link = map f <$> arena.setLeft i link :=
  arena.modify_map f i fun _ => rfl

/-- So it is on the right. -/
theorem setRight_map (i : SlotId) (link : Link) :
    (arena.map f).setRight i link = map f <$> arena.setRight i link :=
  arena.modify_map f i fun _ => rfl

/-- The image of a node is stored in the same slot. -/
theorem store_map (n : Node α) :
    (arena.map f).store (n.map f) = Prod.map (map f) id <$> arena.store n := by
  unfold store
  rw [map_firstFree]
  cases arena.firstFree with
  | none =>
    have hwrite := arena.write_map f arena.highWater (.occupied n)
    simp only [Slot.map] at hwrite
    simp only [map_highWater, hwrite]
    rfl
  | some i =>
    simp only
    rw [slot_map, bind_map_left, map_bind]
    refine bind_congr fun content => ?_
    cases content with
    | occupied _ => rfl
    | vacant next =>
      have hwrite := arena.write_map f i (.occupied n)
      simp only [Slot.map] at hwrite
      simp only [Slot.map, hwrite]
      rfl

/-- The same slot is released. -/
theorem release_map (i : SlotId) : (arena.map f).release i = map f <$> arena.release i := by
  unfold release
  rw [node_map, bind_map_left, map_bind]
  refine bind_congr fun n => ?_
  have hwrite := arena.write_map f i (.vacant arena.firstFree)
  simp only [Slot.map] at hwrite
  simp only [map_firstFree, hwrite]
  rfl

/-! ### Splaying -/

/-- The side of an address does not depend on values. -/
theorem side_map (i : SlotId) (a : Address) : (arena.map f).side i a = arena.side i a := by
  unfold side
  rw [node_map, bind_map_left]
  rfl

/-- Nor does a rotation. -/
theorem rotateRight_map (top child : SlotId) :
    (arena.map f).rotateRight top child = map f <$> arena.rotateRight top child := by
  simp only [rotateRight, node_map, setLeft_map, setRight_map, bind_map_left, map_bind,
    Node.map_right]

/-- Nor does one the other way. -/
theorem rotateLeft_map (top child : SlotId) :
    (arena.map f).rotateLeft top child = map f <$> arena.rotateLeft top child := by
  simp only [rotateLeft, node_map, setLeft_map, setRight_map, bind_map_left, map_bind,
    Node.map_left]

/-- Nor does it, what is hung into the upper wing. -/
theorem hangUpper_map (split : Split) (top : SlotId) :
    (arena.map f).hangUpper split top = Prod.map (map f) id <$> arena.hangUpper split top := by
  unfold hangUpper
  cases split.upperTail with
  | none => rfl
  | some tail => simp only [setLeft_map, bind_map_left, map_bind, map_pure, Prod.map_apply, id]

/-- Nor what is hung into the lower one. -/
theorem hangLower_map (split : Split) (top : SlotId) :
    (arena.map f).hangLower split top = Prod.map (map f) id <$> arena.hangLower split top := by
  unfold hangLower
  cases split.lowerTail with
  | none => rfl
  | some tail => simp only [setRight_map, bind_map_left, map_bind, map_pure, Prod.map_apply, id]

/-- A descent takes the same way. -/
theorem descend_map (a : Address) (steps : Nat) (split : Split) (top : SlotId) :
    descend a steps (arena.map f) split top =
      Prod.map (map f) id <$> descend a steps arena split top := by
  -- Both descents take the same turns, since these depend on spans and links alone. So the
  -- induction is on the steps that are left, with whatever arena and split they have come to.
  induction steps generalizing arena split top with
  | zero => rfl
  | succ steps ih =>
    unfold descend
    rw [node_map, bind_map_left, map_bind]
    refine bind_congr fun n => ?_
    rw [Node.map_span]
    cases n.span.side a with
    | within => rfl
    | below =>
      rw [Node.map_left]
      cases n.left with
      | none => rfl
      | some child =>
        simp only [side_map, map_bind]
        refine bind_congr fun side => ?_
        split
        -- two steps on the same side are taken at once, after a rotation
        · simp only [rotateRight_map, node_map, bind_map_left, map_bind, Node.map_left]
          refine bind_congr fun arena => bind_congr fun n => ?_
          cases n.left with
          | none => rfl
          | some next =>
            simp only [hangUpper_map, bind_map_left, map_bind, Prod.map_fst, Prod.map_snd, id, ih]
        · simp only [hangUpper_map, bind_map_left, map_bind, Prod.map_fst, Prod.map_snd, id, ih]
    | above =>
      rw [Node.map_right]
      cases n.right with
      | none => rfl
      | some child =>
        simp only [side_map, map_bind]
        refine bind_congr fun side => ?_
        split
        · simp only [rotateLeft_map, node_map, bind_map_left, map_bind, Node.map_right]
          refine bind_congr fun arena => bind_congr fun n => ?_
          cases n.right with
          | none => rfl
          | some next =>
            simp only [hangLower_map, bind_map_left, map_bind, Prod.map_fst, Prod.map_snd, id, ih]
        · simp only [hangLower_map, bind_map_left, map_bind, Prod.map_fst, Prod.map_snd, id, ih]

/-- The wings are put together alike. -/
theorem assemble_map (split : Split) (top : SlotId) :
    (arena.map f).assemble split top = map f <$> arena.assemble split top := by
  unfold assemble
  cases split.lowerTail <;> cases split.upperTail <;>
    simp only [node_map, setLeft_map, setRight_map, bind_map_left, map_bind, map_pure, pure_bind,
      Node.map_left, Node.map_right]

/-- So a splay brings the same slot to the root. -/
theorem splay_map (root : Link) (a : Address) :
    (arena.map f).splay root a = Prod.map (map f) id <$> arena.splay root a := by
  unfold splay
  cases root with
  | none => rfl
  | some top =>
    simp only [descend_map, assemble_map, bind_map_left, map_bind, map_pure, map_highWater,
      Prod.map_fst, Prod.map_snd, Prod.map_apply, id]

/-! ### Walks -/

/-- The lowest node is in the same slot. -/
theorem lowest_map (steps : Nat) (i : SlotId) :
    (arena.map f).lowest steps i = arena.lowest steps i := by
  induction steps generalizing i with
  | zero => rfl
  | succ steps ih => simp only [lowest, node_map, bind_map_left, Node.map_left, ih]

/-- The way to it leads through the same slots. -/
theorem leftSpine_map (steps : Nat) (link : Link) (waiting : List SlotId) :
    (arena.map f).leftSpine steps link waiting = arena.leftSpine steps link waiting := by
  induction steps generalizing link waiting with
  | zero => cases link <;> rfl
  | succ steps ih =>
    cases link with
    | none => rfl
    | some i => simp only [leftSpine, node_map, bind_map_left, Node.map_left, ih]

/-- A walk meets the images of the entries. -/
theorem walk_map (steps : Nat) (waiting : List SlotId) :
    (arena.map f).walk steps waiting =
      List.map (Prod.map id f) <$> arena.walk steps waiting := by
  induction steps generalizing waiting with
  | zero => cases waiting <;> rfl
  | succ steps ih =>
    cases waiting with
    | nil => rfl
    | cons i waiting =>
      simp only [walk, node_map, leftSpine_map, bind_map_left, map_bind, map_pure, map_highWater,
        Node.map_right, Node.map_span, Node.map_value, List.map_cons, Prod.map_apply, id, ih]

/-- So the entries in order are the images of the entries. -/
theorem inorder_map (root : Link) :
    (arena.map f).inorder root = List.map (Prod.map id f) <$> arena.inorder root := by
  simp only [inorder, leftSpine_map, walk_map, map_bind, map_highWater]

end Arena

/-! ### Operations, slot by slot -/

section

variable (m : SpanMap α)

/-- A splay of the map gives the image of the node. -/
theorem splayRaw_map (a : Address) :
    (m.map f).splayRaw a = Prod.map (Option.map (Node.map f)) (map f) <$> m.splayRaw a := by
  unfold splayRaw
  simp only [map, Arena.splay_map, bind_map_left, map_bind, Prod.map_fst, Prod.map_snd, id]
  refine bind_congr fun splayed => ?_
  cases splayed.2 with
  | none => rfl
  | some top => simp only [Arena.node_map, bind_map_left, map_bind, map_pure]; rfl

/-- A look-up finds the image of the entry. -/
theorem lookupRaw_map (a : Address) :
    (m.map f).lookupRaw a =
      Prod.map (Option.map (Prod.map id f)) (map f) <$> m.lookupRaw a := by
  unfold lookupRaw
  simp only [splayRaw_map, bind_map_left, map_bind, Prod.map_fst, Prod.map_snd]
  refine bind_congr fun splayed => ?_
  cases splayed.1 with
  | none => rfl
  | some n =>
    simp only [Option.map_some, Node.map_value, map_pure]
    rw [Node.map_span]
    split <;> rfl

/-- The first overlapping entry is the image of the first one. -/
theorem firstOverlappingRaw_map (s : Span) :
    (m.map f).firstOverlappingRaw s =
      Prod.map (Option.map (Prod.map id f)) (map f) <$> m.firstOverlappingRaw s := by
  unfold firstOverlappingRaw
  simp only [splayRaw_map, bind_map_left, map_bind, Prod.map_fst, Prod.map_snd]
  refine bind_congr fun splayed => ?_
  rcases splayed with ⟨_ | n, m⟩
  · rfl
  simp only [Option.map_some, Node.map_value, Node.map_right]
  rw [Node.map_span]
  split
  · rfl
  -- whichever node comes next, its span decides
  have hnext : ∀ n' : Node α,
      (pure (if (n'.map f).span.overlaps s then some ((n'.map f).span, (n'.map f).value) else none,
          m.map f) : Except Fault (Option (Span × β) × SpanMap β)) =
        Prod.map (Option.map (Prod.map id f)) (map f) <$>
          pure (if n'.span.overlaps s then some (n'.span, n'.value) else none, m) := by
    intro n'
    rw [Node.map_span]
    split <;> rfl
  split
  · exact hnext n
  · cases n.right with
    | none => rfl
    | some r =>
      simp only [map, Arena.lowest_map, Arena.node_map, Arena.map_highWater, bind_map_left,
        map_bind, pure_bind]
      exact bind_congr fun i => bind_congr fun n' => hnext n'

/-- The image of a value is inserted as the value is. -/
theorem insertRaw_map (s : Span) (v : α) :
    (m.map f).insertRaw s (f v) = Prod.map id (map f) <$> m.insertRaw s v := by
  unfold insertRaw
  simp only [firstOverlappingRaw_map, bind_map_left, map_bind, Prod.map_fst, Prod.map_snd]
  refine bind_congr fun found => ?_
  rcases found with ⟨_ | ⟨existing, value⟩, m⟩
  · have hstore := m.arena.store_map f ⟨s, v, none, none⟩
    simp only [Node.map] at hstore
    simp only [Option.map_none, map]
    -- the new node becomes the root, and the old root, if any, hangs below it on one side
    cases m.root with
    | none => simp only [hstore, bind_map_left, map_bind]; rfl
    | some top =>
      simp only [hstore, bind_map_left, map_bind, Arena.node_map, Prod.map_fst, Prod.map_snd, id]
      refine bind_congr fun stored => bind_congr fun n => ?_
      rw [Node.map_span]
      split <;>
        simp only [Arena.setLeft_map, Arena.setRight_map, Node.map_left, Node.map_right,
          bind_map_left, map_bind] <;> rfl
  · rfl

/-- What is removed from the root is the image of the entry. -/
theorem removeRootRaw_map (top : SlotId) :
    (m.map f).removeRootRaw top =
      Prod.map (Prod.map id f) (map f) <$> m.removeRootRaw top := by
  unfold removeRootRaw
  simp only [map, Arena.node_map, bind_map_left, map_bind, Node.map_left, Node.map_right,
    Node.map_span, Node.map_value]
  refine bind_congr fun n => ?_
  cases n.left with
  | none =>
    simp only [Arena.release_map, bind_map_left, map_bind]
    rfl
  | some left =>
    simp only [Arena.splay_map, bind_map_left, map_bind, Prod.map_fst, Prod.map_snd, id]
    refine bind_congr fun splayed => ?_
    cases splayed.2 with
    | none =>
      simp only [pure_bind, Arena.release_map, bind_map_left, map_bind]
      rfl
    | some i =>
      simp only [Arena.setRight_map, Arena.release_map, bind_map_left, map_bind]
      rfl

/-- So is what is removed where it covers an address, for the same reason or not at all. -/
theorem removeCoveringRaw_map (a : Address) (wanted : Span → Option Error) :
    (m.map f).removeCoveringRaw a wanted =
      Prod.map (Except.map (Prod.map id f)) (map f) <$> m.removeCoveringRaw a wanted := by
  unfold removeCoveringRaw
  simp only [splayRaw_map, bind_map_left, map_bind, Prod.map_fst, Prod.map_snd]
  refine bind_congr fun splayed => ?_
  rcases splayed with ⟨_ | n, arena, _ | top⟩
  · rfl
  · rfl
  · rfl
  simp only [Option.map_some, map]
  -- not by `simp`, which would leave the decision on the span of the other node behind
  rw [Node.map_span]
  split
  · cases wanted n.span with
    | some e => rfl
    | none =>
      have hremove := removeRootRaw_map f ⟨arena, some top⟩ top
      simp only [map] at hremove
      simp only [hremove, bind_map_left, map_bind]
      rfl
  · rfl

/-! ### Operations -/

/-- A look-up answers with the image and leaves the image. -/
theorem lookup_map (a : Address) :
    (m.map f).lookup a = ((m.lookup a).1.map (Prod.map id f), (m.lookup a).2.map f) := by
  unfold lookup
  rw [lookupRaw_map]
  cases m.lookupRaw a <;> rfl

/-- So does the search for an overlapping entry. -/
theorem firstOverlapping_map (s : Span) :
    (m.map f).firstOverlapping s =
      ((m.firstOverlapping s).1.map (Prod.map id f), (m.firstOverlapping s).2.map f) := by
  unfold firstOverlapping
  rw [firstOverlappingRaw_map]
  cases m.firstOverlappingRaw s <;> rfl

/-- So does an insertion. -/
theorem insert_map (s : Span) (v : α) :
    (m.map f).insert s (f v) = ((m.insert s v).1, (m.insert s v).2.map f) := by
  unfold insert
  rw [insertRaw_map]
  cases m.insertRaw s v <;> rfl

/-- So does the removal of a span. -/
theorem remove_map (s : Span) :
    (m.map f).remove s = ((m.remove s).1.map f, (m.remove s).2.map f) := by
  unfold remove removeRaw
  rw [removeCoveringRaw_map]
  rcases m.removeCoveringRaw s.start _ with fault | ⟨e | removed, m'⟩ <;> rfl

/-- So does the removal at an address. -/
theorem removeAt_map (base : Address) :
    (m.map f).removeAt base =
      ((m.removeAt base).1.map (Prod.map id f), (m.removeAt base).2.map f) := by
  unfold removeAt removeAtRaw
  rw [removeCoveringRaw_map]
  rcases m.removeCoveringRaw base _ with fault | ⟨e | removed, m'⟩ <;> rfl

@[simp]
theorem size_map : (m.map f).size = m.size := rfl

theorem toList_map : (m.map f).toList = m.toList.map (Prod.map id f) := by
  unfold toList
  simp only [map, Arena.inorder_map]
  cases m.arena.inorder m.root <;> rfl

end

end MemorySentry.SpanMap
