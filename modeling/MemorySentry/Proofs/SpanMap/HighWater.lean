import MemorySentry.Proofs.Results
import MemorySentry.Proofs.SpanMap.Refinement
import Mathlib.Data.List.Induction
import Mathlib.Order.Bounds.Basic

/-!
# The high-water mark

Only storing a node hands out a slot, and a slot that was not handed out before only if none is
vacant. So the high-water mark stays where it is until more spans are stored than it has slots below
it (`perform_highWater`), and over a run it is the largest number of spans that were stored at once
since the map was last cleared (`isGreatest_highWater`).
-/

namespace MemorySentry.SpanMap

namespace Arena

variable {α : Type} {arena arena' : Arena α}

theorem highWater_write (arena : Arena α) (i : SlotId) (content : Slot α) :
    (arena.write i content).highWater = arena.highWater := by
  unfold write
  split <;> rfl

/-- To change a node hands out no slot. -/
theorem modify_highWater {i : SlotId} {f : Node α → Node α} (h : arena.modify i f = .ok arena') :
    arena'.highWater = arena.highWater := by
  obtain ⟨n, -, h⟩ := bind_eq_ok_iff.mp h
  cases h
  exact highWater_write arena i _

/-- Nor does it to release one. -/
theorem release_highWater {i : SlotId} (h : arena.release i = .ok arena') :
    arena'.highWater = arena.highWater := by
  obtain ⟨n, -, h⟩ := bind_eq_ok_iff.mp h
  cases h
  exact highWater_write arena i _

/-- Splaying a tree only relinks its nodes. -/
theorem Holds.splay_highWater {t : Tree α} (hholds : arena.Holds t) (hnodup : t.slots.Nodup)
    {a : Address} {root : Link} (h : arena.splay t.root a = .ok (arena', root)) :
    arena'.highWater = arena.highWater := by
  obtain ⟨arena₁, t', hsplay, -, -, hlink, -⟩ := splay_eq_ok a hholds hnodup
  rw [hsplay] at h
  cases h
  exact hlink.highWater

/-- Used and vacant slots together are all that were handed out. -/
theorem Accounts.highWater_eq {used vacant : List SlotId} (h : arena.Accounts used vacant) :
    arena.highWater = used.length + vacant.length := by
  have hlength := h.partition.length_eq
  rw [List.length_append, List.length_range] at hlength
  exact hlength.symm

/-- Storing moves the mark only if all slots below it are used. -/
theorem Accounts.store_highWater {used vacant : List SlotId} (h : arena.Accounts used vacant)
    {n : Node α} {i : SlotId} (hstore : arena.store n = .ok (arena', i)) :
    arena'.highWater = max arena.highWater (used.length + 1) := by
  obtain ⟨arena₁, j, hstore', -, -, haccounts⟩ := store_eq_ok h n
  rw [hstore'] at hstore
  cases hstore
  rw [haccounts.highWater_eq, h.highWater_eq, List.length_cons, List.length_tail]
  omega

end Arena

open Arena

variable {α : Type} {m m' : SpanMap α}

namespace Shaped

variable {t : Tree α}

/-- Nor does a splay. -/
theorem splayRaw_highWater (h : m.Shaped t) {a : Address} {n : Option (Node α)}
    (hsplay : m.splayRaw a = .ok (n, m')) : m'.arena.highWater = m.arena.highWater := by
  obtain ⟨⟨arena, root⟩, harena, hsplay⟩ := bind_eq_ok_iff.mp hsplay
  rw [h.root] at harena
  have hmark := h.holds.splay_highWater h.nodup harena
  cases root with
  | none =>
    cases hsplay
    exact hmark
  | some top =>
    obtain ⟨n, -, hsplay⟩ := bind_eq_ok_iff.mp hsplay
    cases hsplay
    exact hmark

/-- Nor does a look-up. -/
theorem lookupRaw_highWater (h : m.Shaped t) {a : Address} {e : Option (Span × α)}
    (hlookup : m.lookupRaw a = .ok (e, m')) : m'.arena.highWater = m.arena.highWater := by
  obtain ⟨⟨n, m₁⟩, hsplay, hlookup⟩ := bind_eq_ok_iff.mp hlookup
  cases n <;> cases hlookup <;> exact h.splayRaw_highWater hsplay

/-- The search walks to a neighbour of the new root, which changes nothing more. -/
theorem firstOverlappingRaw_highWater (h : m.Shaped t) {s : Span} {e : Option (Span × α)}
    (hsearch : m.firstOverlappingRaw s = .ok (e, m')) :
    m'.arena.highWater = m.arena.highWater := by
  obtain ⟨⟨n, m₁⟩, hsplay, hsearch⟩ := bind_eq_ok_iff.mp hsearch
  have hmark := h.splayRaw_highWater hsplay
  -- after the splay the search only reads
  cases n with
  | none =>
    cases hsearch
    exact hmark
  | some n =>
    simp only at hsearch
    split at hsearch
    · cases hsearch
      exact hmark
    split at hsearch
    · cases hsearch
      exact hmark
    split at hsearch
    · cases hsearch
      exact hmark
    · obtain ⟨i, -, hsearch⟩ := bind_eq_ok_iff.mp hsearch
      obtain ⟨next, -, hsearch⟩ := bind_eq_ok_iff.mp hsearch
      cases hsearch
      exact hmark

/-- A span that is stored takes a slot above the mark only if all below it hold a node. -/
theorem insertRaw_highWater (h : m.Shaped t) {s : Span} {v : α} {r : Except Error Unit}
    (hinsert : m.insertRaw s v = .ok (r, m')) :
    m'.arena.highWater =
      if r.isOk then max m.arena.highWater (t.entries.length + 1) else m.arena.highWater := by
  obtain ⟨m₁, t₁, hsearch, hshaped, hinorder, -⟩ := h.firstOverlappingRaw_eq_ok s
  obtain ⟨vacant, haccounts⟩ := hshaped.accounts
  have hlength : t₁.slots.length = t.entries.length := by
    rw [Tree.slots_eq_of_inorder_eq hinorder, Tree.length_slots, Tree.length_entries]
  obtain ⟨⟨hit, m₂⟩, hsearch', hinsert⟩ := bind_eq_ok_iff.mp hinsert
  obtain ⟨-, rfl⟩ : _ ∧ m₁ = m₂ := by simpa [hsearch] using hsearch'
  rw [← h.firstOverlappingRaw_highWater hsearch, ← hlength]
  cases hit with
  | some e =>
    cases hinsert
    rfl
  | none =>
    cases hroot : m₁.root with
    | none =>
      simp only [hroot] at hinsert
      obtain ⟨⟨arena₁, i⟩, hstore, hinsert⟩ := bind_eq_ok_iff.mp hinsert
      cases hinsert
      exact haccounts.store_highWater hstore
    | some top =>
      simp only [hroot] at hinsert
      obtain ⟨⟨arena₁, i⟩, hstore, hinsert⟩ := bind_eq_ok_iff.mp hinsert
      obtain ⟨n, -, hinsert⟩ := bind_eq_ok_iff.mp hinsert
      have hmark := haccounts.store_highWater hstore
      -- on either side of the old root, three links change
      split at hinsert <;>
      · obtain ⟨arena₂, hset₂, hinsert⟩ := bind_eq_ok_iff.mp hinsert
        obtain ⟨arena₃, hset₃, hinsert⟩ := bind_eq_ok_iff.mp hinsert
        obtain ⟨arena₄, hset₄, hinsert⟩ := bind_eq_ok_iff.mp hinsert
        cases hinsert
        exact (modify_highWater hset₄).trans
          ((modify_highWater hset₃).trans ((modify_highWater hset₂).trans hmark))

/-- Nor does it to remove the root. -/
theorem removeRootRaw_highWater {l r : Tree α} {i : SlotId} {s : Span} {v : α}
    (h : m.Shaped (.node l i s v r)) {e : Span × α} (hremove : m.removeRootRaw i = .ok (e, m')) :
    m'.arena.highWater = m.arena.highWater := by
  obtain ⟨hnode, hl, -⟩ := h.holds
  have hnodup := h.nodup
  rw [Tree.slots_node, List.nodup_append'] at hnodup
  rw [removeRootRaw, hnode, ok_bind] at hremove
  -- without a left subtree the right one takes the place of the root
  cases hleft : l.root with
  | none =>
    simp only [hleft] at hremove
    obtain ⟨arena₁, hrelease, hremove⟩ := bind_eq_ok_iff.mp hremove
    cases hremove
    exact release_highWater hrelease
  | some left =>
    simp only [hleft] at hremove
    obtain ⟨⟨arena₁, root⟩, hsplay, hremove⟩ := bind_eq_ok_iff.mp hremove
    -- otherwise it is hung below the last node of the left one
    have hmark := hl.splay_highWater hnodup.1 (hleft ▸ hsplay)
    cases root with
    | none =>
      rw [pure_bind] at hremove
      obtain ⟨arena₂, hrelease, hremove⟩ := bind_eq_ok_iff.mp hremove
      cases hremove
      exact (release_highWater hrelease).trans hmark
    | some j =>
      obtain ⟨arena₂, hset, hremove⟩ := bind_eq_ok_iff.mp hremove
      obtain ⟨arena₃, hrelease, hremove⟩ := bind_eq_ok_iff.mp hremove
      cases hremove
      exact (release_highWater hrelease).trans ((modify_highWater hset).trans hmark)

/-- Nor does it to remove what covers an address. -/
theorem removeCoveringRaw_highWater (h : m.Shaped t) {a : Address}
    {wanted : Span → Option Error} {r : Except Error (Span × α)}
    (hremove : m.removeCoveringRaw a wanted = .ok (r, m')) :
    m'.arena.highWater = m.arena.highWater := by
  obtain ⟨m₁, t₁, hsplay, hshaped, -⟩ := h.splayRaw_eq_ok a
  have hmark := h.splayRaw_highWater hsplay
  rw [removeCoveringRaw, hsplay, ok_bind] at hremove
  have hroot := hshaped.root
  cases t₁ with
  | leaf =>
    cases hremove
    exact hmark
  | node l i s v r =>
    simp only [Tree.top, hroot, Tree.root_node] at hremove
    split at hremove
    · split at hremove
      · cases hremove
        exact hmark
      · obtain ⟨⟨removed, m₂⟩, hremoved, hremove⟩ := bind_eq_ok_iff.mp hremove
        cases hremove
        exact (hshaped.removeRootRaw_highWater hremoved).trans hmark
    · cases hremove
      exact hmark

end Shaped

/-! ### Operations -/

section

variable {l : SpanList α}

/-- There are no more entries than slots were handed out. -/
theorem Represents.size_le_highWater (h : m.Represents l) : m.size ≤ m.arena.highWater := by
  obtain ⟨t, hshaped, -⟩ := h
  obtain ⟨vacant, haccounts⟩ := hshaped.accounts
  rw [SpanMap.size, haccounts.count, haccounts.highWater_eq]
  exact Nat.le_add_right _ _

/-- The mark moves to the number of stored spans if there are more than slots below it. -/
theorem perform_highWater (h : m.Represents l) {c : Command α} (hc : c ≠ .clear) :
    (m.perform c).2.arena.highWater = max m.arena.highWater (m.perform c).2.size := by
  -- where no slot is handed out, the mark is still above the number of stored spans
  have hstays (hmark : (m.perform c).2.arena.highWater = m.arena.highWater) :
      (m.perform c).2.arena.highWater = max m.arena.highWater (m.perform c).2.size := by
    have hsize := (perform_represents h c).2.size_le_highWater
    omega
  obtain ⟨t, hshaped, hentries⟩ := id h
  cases c with
  | insert s v =>
    obtain ⟨m', hinsert, h'⟩ := h.insertRaw s v
    have hmark := hshaped.insertRaw_highWater hinsert
    have hm' : (m.perform (.insert s v)).2 = m' := by
      simp only [perform, insert, hinsert]
      cases (l.insert s v).1 <;> rfl
    cases hhit : l.firstOverlapping s with
    | some e =>
      refine hstays ?_
      rw [hm', hmark, SpanList.insert, hhit]
      rfl
    | none =>
      have hlist : l.insert s v = (.ok (), ⟨SpanList.place s v l.entries⟩) := by
        rw [SpanList.insert, hhit]
      rw [hm', h'.size, hmark, hlist, hentries, (place_perm s v l.entries).length_eq]
      rfl
  | remove s =>
    obtain ⟨m', hremove, -⟩ := h.removeCoveringRaw s.start fun existing =>
      if existing = s then none else some (.mismatch s existing)
    have hm' : (m.perform (.remove s)).2 = m' := by
      simp only [perform, remove, removeRaw, hremove]
      cases (takeCovering l.entries s.start _).1 <;> rfl
    exact hstays (hm' ▸ hshaped.removeCoveringRaw_highWater hremove)
  | removeAt base =>
    obtain ⟨m', hremove, -⟩ := h.removeCoveringRaw base fun existing =>
      if existing.start = base then none else some (.notBase base existing)
    have hm' : (m.perform (.removeAt base)).2 = m' := by
      simp only [perform, removeAt, removeAtRaw, hremove]
      cases (takeCovering l.entries base _).1 <;> rfl
    exact hstays (hm' ▸ hshaped.removeCoveringRaw_highWater hremove)
  | lookup a =>
    obtain ⟨m', hlookup, -⟩ := h.lookupRaw a
    refine hstays ?_
    simp only [perform, lookup, hlookup]
    exact hshaped.lookupRaw_highWater hlookup
  | firstOverlapping s =>
    obtain ⟨m', hsearch, -⟩ := h.firstOverlappingRaw s
    refine hstays ?_
    simp only [perform, firstOverlapping, hsearch]
    exact hshaped.firstOverlappingRaw_highWater hsearch
  | clear => exact absurd rfl hc
  | size | isEmpty | toList => exact hstays rfl

end

/-! ### Runs -/

/-- The last operation of a run comes after all others. -/
theorem performAll_concat (m : SpanMap α) (cs : List (Command α)) (c : Command α) :
    (m.performAll (cs ++ [c])).2 = ((m.performAll cs).2.perform c).2 := by
  induction cs generalizing m with
  | nil => rfl
  | cons c' rest ih => exact ih (m.perform c').2

/-- The numbers of spans that a run from the empty map has stored at once, at its moments since it
last cleared the map. -/
def storedSinceClear (cs : List (Command α)) : Set ℕ :=
  {n | ∃ before after, cs = before ++ after ∧ .clear ∉ after ∧
    n = ((empty : SpanMap α).performAll before).2.toList.length}

/-- Without operations nothing was stored. -/
theorem mem_storedSinceClear_nil {n : ℕ} :
    n ∈ storedSinceClear ([] : List (Command α)) ↔ n = 0 := by
  constructor
  · rintro ⟨before, after, heq, -, rfl⟩
    obtain ⟨rfl, rfl⟩ := List.append_eq_nil_iff.mp heq.symm
    rfl
  · rintro rfl
    exact ⟨[], [], rfl, List.not_mem_nil, rfl⟩

/-- An operation adds a moment to a run, and one that clears the map leaves no other. -/
theorem mem_storedSinceClear_concat {cs : List (Command α)} {c : Command α} {n : ℕ} :
    n ∈ storedSinceClear (cs ++ [c]) ↔
      n = ((empty : SpanMap α).performAll (cs ++ [c])).2.toList.length ∨
        c ≠ .clear ∧ n ∈ storedSinceClear cs := by
  constructor
  · rintro ⟨before, after, heq, hafter, rfl⟩
    rcases List.eq_nil_or_concat after with rfl | ⟨after', c', rfl⟩
    · rw [List.append_nil] at heq
      exact .inl (by rw [heq])
    · rw [List.concat_eq_append, ← List.append_assoc] at heq
      obtain ⟨rfl, hlast⟩ := List.append_inj' heq rfl
      cases hlast
      rw [List.concat_eq_append, List.mem_append, List.mem_singleton, not_or] at hafter
      exact .inr ⟨Ne.symm hafter.2, before, after', rfl, hafter.1, rfl⟩
  · rintro (rfl | ⟨hc, before, after, rfl, hafter, rfl⟩)
    · exact ⟨cs ++ [c], [], by simp, List.not_mem_nil, rfl⟩
    · refine ⟨before, after ++ [c], by simp, ?_, rfl⟩
      rw [List.mem_append, List.mem_singleton, not_or]
      exact ⟨hafter, hc.symm⟩

/-- The high-water mark is the largest number of spans that were stored at once since the map was
last cleared. -/
theorem isGreatest_highWater (cs : List (Command α)) :
    IsGreatest (storedSinceClear cs) ((empty : SpanMap α).performAll cs).2.arena.highWater := by
  induction cs using List.reverseRecOn with
  | nil => exact ⟨mem_storedSinceClear_nil.mpr rfl, fun n hn => (mem_storedSinceClear_nil.mp hn).le⟩
  | append_singleton cs c ih =>
    by_cases hc : c = .clear
    · subst hc
      -- nothing is stored after the map was cleared, and no slot has been handed out
      rw [IsGreatest, mem_storedSinceClear_concat, performAll_concat]
      refine ⟨.inl rfl, fun n hn => ?_⟩
      rcases mem_storedSinceClear_concat.mp hn with rfl | ⟨hne, -⟩
      · rw [performAll_concat]
        exact Nat.le_refl _
      · exact absurd rfl hne
    · have hrep := (performAll_represents (represents_empty (α := α)) cs).2
      have hrep' := (perform_represents hrep c).2
      have hset : storedSinceClear (cs ++ [c]) =
          Insert.insert ((empty : SpanMap α).performAll (cs ++ [c])).2.toList.length
            (storedSinceClear cs) :=
        Set.ext fun n => by simp [mem_storedSinceClear_concat, hc]
      have hmark := perform_highWater hrep hc
      rw [hrep'.size, ← hrep'.toList, max_comm] at hmark
      rw [hset, performAll_concat, hmark]
      exact ih.insert _

end MemorySentry.SpanMap
