import MemorySentry.Proofs.SpanMap.Splay
import MemorySentry.Proofs.SpanMap.Traversal
import MemorySentry.Proofs.SpanMap.Vacancy
import MemorySentry.SpanMap.Command

/-!
# What the operations of a span map do to its tree

`m.Shaped t` ties a map to the tree that its links form: the tree lies in the arena, its slots are
exactly the used ones, and its entries are ascending. Each operation is described once, by its
answer in terms of the entries and by the tree that it leaves; no operation on such a map meets a
`Fault`.
-/

namespace MemorySentry.SpanMap

open Arena

variable {α : Type}

/-- The links of a map form a tree, whose slots are the used ones and whose entries are
ascending. -/
structure Shaped (m : SpanMap α) (t : Tree α) : Prop where
  /-- The root of the map is the root of the tree. -/
  root : m.root = t.root
  /-- The nodes lie in their slots. -/
  holds : m.arena.Holds t
  /-- All other slots that were handed out are vacant. -/
  accounts : ∃ vacant, m.arena.Accounts t.slots vacant
  /-- Each span ends before the next one starts. -/
  ascending : Ascending t.entries

/-- Puts the node in slot `i` above the root `n` in slot `top`. It takes over the subtree of the
root on the side of the address and has the root on the other side. -/
def Arena.crown (arena : Arena α) (w : Wing) (i top : SlotId) (n : Node α) :
    Except Fault (Arena α) := do
  let arena ← arena.setInner w i (w.inner n)
  let arena ← arena.setOuter w i (some top)
  arena.setInner w top none

/-- Crowning succeeds and splits the tree at the new node. -/
theorem Arena.crown_eq_ok {arena : Arena α} {w : Wing} {f : Frame α} {c : Tree α} {i : SlotId}
    {s : Span} {v : α} (h : arena.Holds (w.graft f c)) (hnodup : (w.graft f c).slots.Nodup)
    (hnode : arena.node i = .ok ⟨s, v, none, none⟩) (hi : i ∉ (w.graft f c).slots) :
    ∃ arena', arena.crown w i f.slot (w.nodeOf f c.root) = .ok arena' ∧
      arena'.Holds (w.graft ⟨i, s, v, w.graft f .leaf⟩ c) ∧ arena.Relinks [i, f.slot] arena' := by
  obtain ⟨hnodef, hholdsf, hholdsc⟩ := holds_graft_iff.mp h
  obtain ⟨hff, hfc, -, -, -⟩ := nodup_slots_graft_iff.mp hnodup
  rw [mem_slots_graft, not_or, not_or] at hi
  have hnew : arena.node i = .ok (w.nodeOf ⟨i, s, v, .leaf⟩ none) := by
    cases w <;> exact hnode
  -- the new node takes over the inner subtree and then the old root, which gives that subtree up
  obtain ⟨arena₁, hset₁, hnode₁, hlink₁⟩ := setInner_eq_ok (f := ⟨i, s, v, .leaf⟩) hnew c.root
  obtain ⟨arena₂, hset₂, hnode₂, hlink₂⟩ := setOuter_eq_ok hnode₁ (w.graft f .leaf)
  have hnodef₂ := (hlink₁.trans hlink₂).node (by simpa using Ne.symm hi.1) hnodef
  obtain ⟨arena₃, hset₃, hnode₃, hlink₃⟩ := setInner_eq_ok hnodef₂ none
  have hlink : arena.Relinks [i, f.slot] arena₃ :=
    ((hlink₁.trans hlink₂).mono (by simp)).trans (hlink₃.mono (by simp))
  refine ⟨arena₃, ?_, ?_, hlink⟩
  · rw [Wing.root_graft] at hset₂
    rw [crown, Wing.inner_nodeOf, hset₁, ok_bind, hset₂, ok_bind, hset₃]
  · refine holds_graft_iff.mpr ⟨hlink₃.node (by simpa using hi.1) hnode₂, ?_, ?_⟩
    · exact holds_graft_iff.mpr
        ⟨hnode₃, hholdsf.relink hlink (disjoint_pair hi.2.1 hff), trivial⟩
    · exact hholdsc.relink hlink (disjoint_pair hi.2.2 hfc)

/-- If the whole tree lies below the address, its highest node has come to the root. -/
theorem Arena.SplayedAt.right_eq_leaf {a : Address} {l r : Tree α} {i : SlotId} {s : Span} {v : α}
    (h : SplayedAt a (.node l i s v r))
    (hbelow : ∀ e ∈ (Tree.node l i s v r).entries, e.1.stop ≤ a) : r = .leaf := by
  cases r with
  | leaf => rfl
  | node rl j sj vj rr =>
    -- a node right of the root would lie above the address
    have hstop : sj.stop ≤ a := hbelow (sj, vj) (by simp)
    have hstart : a < sj.start := h.2 (sj, vj) (by simp)
    exact absurd (UInt64.lt_of_lt_of_le (UInt64.lt_trans hstart sj.start_lt_stop) hstop)
      (UInt64.lt_irrefl a)

/-- A map whose root is crowned by a new node is shaped like the split tree. -/
theorem crown_shaped {arena : Arena α} {w : Wing} {f : Frame α} {c : Tree α} {i : SlotId}
    {s : Span} {v : α} {vacant : List SlotId} (h : arena.Holds (w.graft f c))
    (hnode : arena.node i = .ok ⟨s, v, none, none⟩)
    (haccounts : arena.Accounts (i :: (w.graft f c).slots) vacant)
    (hasc : Ascending (w.graft ⟨i, s, v, w.graft f .leaf⟩ c).entries) :
    ∃ m' : SpanMap α,
      (do
        let arena ← arena.crown w i f.slot (w.nodeOf f c.root)
        return (Except.ok (), ⟨arena, some i⟩) : Except Fault (Except Error Unit × SpanMap α)) =
          .ok (.ok (), m') ∧
      m'.Shaped (w.graft ⟨i, s, v, w.graft f .leaf⟩ c) := by
  obtain ⟨hi, hnodup⟩ := List.nodup_cons.mp haccounts.nodup_used
  obtain ⟨arena', hcrown, hholds, hlink⟩ := crown_eq_ok h hnodup hnode hi
  refine ⟨⟨arena', some i⟩, by rw [hcrown]; rfl, by simp, hholds, ⟨vacant, ?_⟩, hasc⟩
  -- no slot is taken or released: the same ones are used, in another order
  refine (haccounts.relink hlink ?_).perm ?_
  · simp [mem_slots_graft]
  · cases w with
    | lower =>
      have hmid : (f.outer.slots ++ [f.slot] ++ i :: c.slots).Perm
          (i :: (f.outer.slots ++ [f.slot] ++ c.slots)) := List.perm_middle
      simpa only [Wing.graft, Tree.slots_node, Tree.slots_leaf, List.append_assoc,
        List.singleton_append, List.append_nil] using hmid
    | upper => simp [Wing.graft]

/-- Takes the entry that covers an address out of a list, unless `wanted` says why not. -/
def takeCovering (entries : List (Span × α)) (a : Address) (wanted : Span → Option Error) :
    Except Error (Span × α) × List (Span × α) :=
  match entries.find? fun e => e.1.contains a with
  | none => (.error (.notFound a), entries)
  | some e =>
    match wanted e.1 with
    | some reason => (.error reason, entries)
    | none => (.ok e, entries.filter fun e' => e'.1 ≠ e.1)

namespace Shaped

variable {m : SpanMap α} {t : Tree α}

/-- No slot comes twice in the tree of a map. -/
theorem nodup (h : m.Shaped t) : t.slots.Nodup :=
  h.accounts.elim fun _ => Accounts.nodup_used

/-- A walk through the tree takes no more steps than there are slots, and one. -/
theorem length_le (h : m.Shaped t) : t.inorder.length ≤ m.arena.highWater + 1 :=
  Nat.le_succ_of_le (h.holds.length_le_highWater h.nodup)

/-- Splaying succeeds and gives the root node. -/
theorem splayRaw_eq_ok (h : m.Shaped t) (a : Address) :
    ∃ m' t', m.splayRaw a = .ok (t'.top, m') ∧ m'.Shaped t' ∧ t'.inorder = t.inorder ∧
      SplayedAt a t' := by
  -- the nodes keep their slots, so the account of used and vacant slots stays
  obtain ⟨arena', t', hsplay, hholds, hinorder, hlink, hat⟩ := splay_eq_ok a h.holds h.nodup
  obtain ⟨vacant, haccounts⟩ := h.accounts
  have hslots := Tree.slots_eq_of_inorder_eq hinorder
  have hentries := Tree.entries_eq_of_inorder_eq hinorder
  refine ⟨⟨arena', t'.root⟩, t', ?_, ⟨rfl, hholds, ⟨vacant, ?_⟩, hentries ▸ h.ascending⟩, hinorder,
    hat h.ascending⟩
  · rw [splayRaw, h.root, hsplay, ok_bind]
    cases t' with
    | leaf => rfl
    | node l i s v r =>
      simp only [Tree.root_node, hholds.1, ok_bind]
      rfl
  · rw [hslots]
    exact haccounts.relink hlink (List.Subset.refl _)

/-- A look-up gives the entry that covers the address. -/
theorem lookupRaw_eq_ok (h : m.Shaped t) (a : Address) :
    ∃ m' t', m.lookupRaw a = .ok (t.entries.find? fun e => e.1.contains a, m') ∧ m'.Shaped t' ∧
      t'.inorder = t.inorder := by
  obtain ⟨m', t', hsplay, hshaped, hinorder, hat⟩ := h.splayRaw_eq_ok a
  refine ⟨m', t', ?_, hshaped, hinorder⟩
  rw [lookupRaw, hsplay, ok_bind, ← Tree.entries_eq_of_inorder_eq hinorder]
  cases t' with
  | leaf => rfl
  | node l i s v r =>
    rw [Tree.entries_node, find?_contains_split _ hat.1 hat.2]
    rfl

/-- The search gives the lowest entry that overlaps the span. It leaves a neighbour of the first
byte at the root. -/
theorem firstOverlappingRaw_eq_ok (h : m.Shaped t) (s : Span) :
    ∃ m' t', m.firstOverlappingRaw s = .ok (t.entries.find? fun e => e.1.overlaps s, m') ∧
      m'.Shaped t' ∧ t'.inorder = t.inorder ∧ SplayedAt s.start t' := by
  obtain ⟨m', t', hsplay, hshaped, hinorder, hat⟩ := h.splayRaw_eq_ok s.start
  refine ⟨m', t', ?_, hshaped, hinorder, hat⟩
  rw [firstOverlappingRaw, hsplay, ok_bind, ← Tree.entries_eq_of_inorder_eq hinorder]
  have hasc := hshaped.ascending
  cases t' with
  | leaf => rfl
  | node l i s' v r =>
    obtain ⟨hlow, hhigh⟩ := hat
    rw [Tree.entries_node, Ascending.append_iff] at hasc
    have hascr := (Ascending.cons_iff.mp hasc.2.1).2
    rw [Tree.entries_node, List.find?_append, find?_overlaps_low hlow, Option.none_or]
    simp only [Tree.top]
    by_cases hcontains : s'.contains s.start = true
    · -- the root covers the first byte
      have hov : s'.overlaps s = true := Span.overlaps_of_contains hcontains s.contains_start
      rw [if_pos hcontains]
      simp only [List.find?_cons, hov]
      rfl
    rw [if_neg hcontains]
    by_cases hlt : s.start < s'.start
    · -- the root is the lowest entry after the first byte
      have hall : ∀ e ∈ (s', v) :: r.entries, s.start < e.1.start := by
        intro e he
        rcases List.mem_cons.mp he with rfl | hmem
        · exact hlt
        · exact hhigh e hmem
      rw [if_pos hlt, find?_overlaps_high hasc.2.1 hall]
      rfl
    · -- the root ends below the first byte, so the lowest node right of it counts
      have hbelow : s'.stop ≤ s.start := by
        rw [Span.contains_iff, not_and] at hcontains
        exact UInt64.not_lt.mp (hcontains (UInt64.not_lt.mp hlt))
      have hbefore : s'.Before s := hbelow
      rw [if_neg hlt, List.find?_cons_of_neg (by simp [hbefore.overlaps_eq_false]),
        find?_overlaps_high hascr hhigh]
      cases r with
      | leaf => rfl
      | node rl j sj vj rr =>
        have hr := hshaped.holds.2.2
        have hlength := hshaped.length_le
        obtain ⟨k, n, hlowest, hk, hhead⟩ := lowest_eq_ok hr rfl (m'.arena.highWater + 1)
          (by simp at hlength ⊢; omega)
        simp only [Tree.root_node, hlowest, hk, ok_bind, hhead]
        rfl

/-- A span that overlaps a stored one is refused, and the lowest such one is named. -/
theorem insertRaw_of_overlap (h : m.Shaped t) (s : Span) (v : α) {e : Span × α}
    (hhit : (t.entries.find? fun e => e.1.overlaps s) = some e) :
    ∃ m' t', m.insertRaw s v = .ok (.error (.overlap s e.1), m') ∧ m'.Shaped t' ∧
      t'.inorder = t.inorder := by
  obtain ⟨m', t', hsearch, hshaped, hinorder, -⟩ := h.firstOverlappingRaw_eq_ok s
  refine ⟨m', t', ?_, hshaped, hinorder⟩
  rw [insertRaw, hsearch, hhit]
  rfl

/-- A span that overlaps no stored one is stored, between the lower and the higher spans. -/
theorem insertRaw_of_free (h : m.Shaped t) (s : Span) (v : α)
    (hhit : (t.entries.find? fun e => e.1.overlaps s) = none) :
    ∃ m' t', m.insertRaw s v = .ok (.ok (), m') ∧ m'.Shaped t' ∧
      t'.entries = SpanList.place s v t.entries := by
  obtain ⟨m₁, t₁, hsearch, hshaped, hinorder, hat⟩ := h.firstOverlappingRaw_eq_ok s
  have hentries := Tree.entries_eq_of_inorder_eq hinorder
  have hasc : Ascending (SpanList.place s v t₁.entries) := by
    refine hshaped.ascending.place v fun e he => ?_
    rw [List.find?_eq_none] at hhit
    simpa using hhit e (hentries ▸ he)
  obtain ⟨vacant, haccounts⟩ := hshaped.accounts
  obtain ⟨arena₂, i, hstore, hnode, hslots, haccounts₂⟩ :=
    store_eq_ok haccounts ⟨s, v, none, none⟩
  -- the new node lies in a slot that was vacant, so the tree is where it was
  have hi : i ∉ t₁.slots := (List.nodup_cons.mp haccounts₂.nodup_used).1
  have hholds₂ : arena₂.Holds t₁ := hshaped.holds.congr hslots
  rw [insertRaw, hsearch, ok_bind, hhit]
  rw [← hentries]
  cases t₁ with
  | leaf =>
    refine ⟨⟨arena₂, some i⟩, .node .leaf i s v .leaf, ?_,
      ⟨rfl, ⟨hnode, trivial, trivial⟩, ⟨vacant.tail, haccounts₂⟩, hasc⟩, rfl⟩
    simp only [hshaped.root, Tree.root_leaf, hstore, ok_bind]
    rfl
  | node l top s' v' r =>
    obtain ⟨hlow, hhigh⟩ := hat
    have hlows : ∀ e ∈ l.entries, e.1.start ≤ s.start := fun e he =>
      UInt64.le_of_lt (UInt64.lt_of_lt_of_le e.1.start_lt_stop (hlow e he))
    simp only [hshaped.root, Tree.root_node, hstore, ok_bind, hholds₂.1]
    by_cases hlt : s.start < s'.start
    · -- the root and all right of it start after the span, so it goes before the root
      have hhighs : ∀ e ∈ (s', v') :: r.entries, s.start < e.1.start := by
        intro e he
        rcases List.mem_cons.mp he with rfl | hmem
        · exact hlt
        · exact hhigh e hmem
      have hplace : (Tree.node l i s v (.node .leaf top s' v' r)).entries =
          SpanList.place s v (Tree.node l top s' v' r).entries := by
        have hsplit := place_append (v := v) hlows hhighs
        simpa using hsplit.symm
      obtain ⟨m', hcrown, hshaped'⟩ :=
        crown_shaped (w := .upper) (f := ⟨top, s', v', r⟩) hholds₂ hnode haccounts₂ (hplace ▸ hasc)
      refine ⟨m', _, ?_, hshaped', hplace⟩
      rw [if_pos hlt]
      simpa only [crown, setInner, setOuter, Wing.inner, Wing.nodeOf, bind_assoc] using hcrown
    · -- the root and all left of it start before the span, so it goes after the root
      have hlows' : ∀ e ∈ l.entries ++ [(s', v')], e.1.start ≤ s.start := by
        intro e he
        rcases List.mem_append.mp he with hmem | hmem
        · exact hlows e hmem
        · rw [List.mem_singleton.mp hmem]
          exact UInt64.not_lt.mp hlt
      have hplace : (Tree.node (.node l top s' v' .leaf) i s v r).entries =
          SpanList.place s v (Tree.node l top s' v' r).entries := by
        have hsplit := place_append (v := v) hlows' hhigh
        simpa using hsplit.symm
      obtain ⟨m', hcrown, hshaped'⟩ :=
        crown_shaped (w := .lower) (f := ⟨top, s', v', l⟩) hholds₂ hnode haccounts₂ (hplace ▸ hasc)
      refine ⟨m', _, ?_, hshaped', hplace⟩
      rw [if_neg hlt]
      simpa only [crown, setInner, setOuter, Wing.inner, Wing.nodeOf, bind_assoc] using hcrown

/-- Taking out the root succeeds and leaves the other entries. -/
theorem removeRootRaw_eq_ok {l r : Tree α} {i : SlotId} {s : Span} {v : α}
    (h : m.Shaped (.node l i s v r)) :
    ∃ m' t', m.removeRootRaw i = .ok ((s, v), m') ∧ m'.Shaped t' ∧
      t'.entries = l.entries ++ r.entries := by
  obtain ⟨hnode, hl, hr⟩ := h.holds
  obtain ⟨vacant, haccounts⟩ := h.accounts
  have hasc := h.ascending
  rw [Tree.slots_node] at haccounts
  rw [Tree.entries_node] at hasc
  have haccounts' := haccounts.perm List.perm_middle.symm
  have hrest : Ascending (l.entries ++ r.entries) :=
    hasc.sublist ((List.Sublist.refl _).append (List.sublist_cons_self _ _))
  have hnodup := haccounts'.nodup_used
  simp only [List.nodup_cons, List.mem_append, not_or, List.nodup_append'] at hnodup
  obtain ⟨⟨hil, hir⟩, hnodupl, -, hlr⟩ := hnodup
  rw [removeRootRaw, hnode, ok_bind]
  cases hleft : l.root with
  | none =>
    obtain rfl : l = .leaf := by
      cases l with
      | leaf => rfl
      | node => cases hleft
    obtain ⟨arena₁, hrelease, hslots, haccounts₁⟩ := release_eq_ok haccounts' hnode
    refine ⟨⟨arena₁, r.root⟩, r, ?_, ⟨rfl, hr.congr hslots, ⟨_, haccounts₁⟩, hrest⟩, rfl⟩
    simp only [hrelease, ok_bind]
    rfl
  | some left =>
    obtain ⟨arena₁, l', hsplay, hholds₁, hinorder, hlink₁, hat⟩ := splay_eq_ok s.start hl hnodupl
    have hslots := Tree.slots_eq_of_inorder_eq hinorder
    have hentries := Tree.entries_eq_of_inorder_eq hinorder
    rw [hleft] at hsplay
    cases l' with
    | leaf =>
      rw [Tree.slots_leaf] at hslots
      cases l with
      | leaf => cases hleft
      | node => simp at hslots
    | node ll j sj vj lr =>
      -- the left subtree lies below the root, so its highest node comes up and has no right child
      have hbelow : ∀ e ∈ (Tree.node ll j sj vj lr).entries, e.1.stop ≤ s.start := by
        intro e he
        rw [hentries] at he
        exact (Ascending.append_iff.mp hasc).2.2 e he (s, v) (by simp)
      obtain rfl : lr = .leaf :=
        (hat (Ascending.append_iff.mp hasc).1).right_eq_leaf hbelow
      rw [Tree.slots_node, Tree.slots_leaf] at hslots
      -- its empty right link takes the right subtree of the root, and only then is the root let go
      have hjl : j ∈ l.slots := by
        rw [← hslots]
        simp
      have hjll : j ∉ ll.slots := by
        rw [← hslots, List.nodup_append'] at hnodupl
        exact fun hmem => hnodupl.2.2 hmem (by simp)
      have hr₁ := hr.relink hlink₁ (List.Disjoint.symm hlr)
      obtain ⟨arena₂, hset, hholds₂, hlink₂⟩ := setInner_graft_eq_ok (w := .lower)
        (f := ⟨j, sj, vj, ll⟩) hholds₁ hr₁ hjll (fun hmem => hlr hjl hmem)
      have hlink : arena₁.Relinks l.slots arena₂ := hlink₂.mono (by simpa using hjl)
      have hnode₂ := (hlink₁.trans hlink).node hil hnode
      have hslots' : (Tree.node ll j sj vj r).slots = l.slots ++ r.slots := by
        rw [← hslots, Tree.slots_node]
        simp
      have hentries' : (Tree.node ll j sj vj r).entries = l.entries ++ r.entries := by
        rw [← hentries]
        simp
      obtain ⟨arena₃, hrelease, hslots₃, haccounts₃⟩ := release_eq_ok
        (haccounts'.relink (hlink₁.trans hlink) fun k hk => by simp [hk]) hnode₂
      refine ⟨⟨arena₃, some j⟩, .node ll j sj vj r, ?_,
        ⟨rfl, hholds₂.congr (hslots' ▸ hslots₃), ⟨_, hslots' ▸ haccounts₃⟩, hentries' ▸ hrest⟩,
        hentries'⟩
      rw [setInner] at hset
      simp only [hsplay, ok_bind, Tree.root_node, hset, hrelease]
      rfl

/-- Taking out the entry that covers an address succeeds if it is the wanted one, and is refused
otherwise. -/
theorem removeCoveringRaw_eq_ok (h : m.Shaped t) (a : Address) (wanted : Span → Option Error) :
    ∃ m' t', m.removeCoveringRaw a wanted = .ok ((takeCovering t.entries a wanted).1, m') ∧
      m'.Shaped t' ∧ t'.entries = (takeCovering t.entries a wanted).2 := by
  obtain ⟨m₁, t₁, hsplay, hshaped, hinorder, hat⟩ := h.splayRaw_eq_ok a
  rw [removeCoveringRaw, hsplay, ok_bind, ← Tree.entries_eq_of_inorder_eq hinorder]
  have hroot := hshaped.root
  cases t₁ with
  | leaf => exact ⟨m₁, .leaf, rfl, hshaped, rfl⟩
  | node l i s v r =>
    have hfind := find?_contains_split (s, v) hat.1 hat.2
    rw [← Tree.entries_node (i := i)] at hfind
    simp only [Tree.top, hroot, Tree.root_node, takeCovering, hfind]
    -- the splay has brought the only entry that can cover the address to the root
    by_cases hcontains : s.contains a = true
    · simp only [hcontains, if_true]
      cases hwanted : wanted s with
      | some e => exact ⟨m₁, .node l i s v r, rfl, hshaped, rfl⟩
      | none =>
        obtain ⟨m', t', hremove, hshaped', hentries⟩ := hshaped.removeRootRaw_eq_ok
        refine ⟨m', t', by rw [hremove]; rfl, hshaped', ?_⟩
        have hasc := hshaped.ascending
        rw [Tree.entries_node, Ascending.append_iff, Ascending.cons_iff] at hasc
        rw [hentries, Tree.entries_node, filter_split]
        · simp
        · intro e he
          simpa using (hasc.2.2 e he (s, v) (by simp)).ne
        · intro e he
          simpa using (hasc.2.1.1 e he).ne.symm
    · simp only [hcontains]
      exact ⟨m₁, .node l i s v r, rfl, hshaped, rfl⟩

end Shaped

end MemorySentry.SpanMap
