import MemorySentry.Proofs.Pool.Bytes
import MemorySentry.Proofs.Pool.Unused

/-!
# What a registration does

A registration looks at the live objects that overlap the span. Those that merge with the new object
are its members. Without members the new object has the span, and what it overlaps is dropped; with
members it is the highest of them, widened to the bytes of the span and of all members. `Registers`
says which of the three outcomes a registration has.

The program comes to the outcome with loops over a map: two evict retained objects and one takes in
live ones, while the span that it searches grows. `Evicts` and `Absorbs` are these loops as the
program runs them, with no bound on the number of rounds, so that a derivation is a run that ended.
`Completes` puts them together and asks that the map accepts the new object in the end.

`performAll_register` says all of this of every pool that a run can reach.
-/

namespace MemorySentry

/-- The object of a list that has the highest base. -/
structure IsHighest (os : List Object) (top : Object) : Prop where
  /-- The object is in the list. -/
  mem : top ∈ os
  /-- No object of the list has a higher base. -/
  le : ∀ o ∈ os, o.span.start ≤ top.span.start

/-- Of objects in the order of addresses the last one is the highest. -/
theorem isHighest_of_getLast? {os : List Object} (h : SpanMap.Ascending (os.map Object.entry))
    {top : Object} (hlast : os.getLast? = some top) : IsHighest os top := by
  obtain ⟨low, rfl⟩ := List.getLast?_eq_some_iff.mp hlast
  refine ⟨by simp, ?_⟩
  intro o ho
  rw [List.map_append, SpanMap.Ascending.append_iff] at h
  rcases List.mem_append.mp ho with hlow | hsame
  · have hbefore := h.2.2 o.entry (List.mem_map_of_mem hlow) top.entry (by simp)
    exact UInt64.le_of_lt (Span.Before.start_lt hbefore)
  · rw [List.mem_singleton.mp hsame]
    exact UInt64.le_refl _

namespace Pool

open SpanMap

/-! ### The outcome -/

/-- The live objects that overlap a span. -/
def overlapped (p : Pool) (s : Span) : List Object :=
  p.objects.filter fun o => o.span.overlaps s

/-- The live objects that merge with a new object: those that overlap it, if their kinds merge and
so does its own. -/
def members (p : Pool) (s : Span) (kind : ObjectKind) : List Object :=
  (p.overlapped s).filter fun o => kind.merges && o.kind.merges

/-- The object of a registration before it meets others. -/
def newObject (numbers : Numbering) (s : Span) (kind : ObjectKind) (site : Option Site) : Object :=
  { span := s, kind, allocId := numbers.nextAlloc, allocSite := site }

/-- What a registration says that it did, the object that it leaves, and when each of its outcomes
is the right one. -/
inductive Registers (p : Pool) (numbers : Numbering) (s : Span) (kind : ObjectKind)
    (site : Option Site) : Registration → Object → Prop
  /-- No live object overlaps the span. -/
  | inserted (hnone : p.overlapped s = []) :
      Registers p numbers s kind site (.inserted s) (newObject numbers s kind site)
  /-- Live objects overlap the span, and none of them is a member. -/
  | replaced {top : Object} (hmembers : p.members s kind = [])
      (htop : IsHighest (p.overlapped s) top) :
      Registers p numbers s kind site (.replaced s top) (newObject numbers s kind site)
  /-- There are members. The highest one is widened to the bytes of all. -/
  | merged {top : Object} {u : Span} (htop : IsHighest (p.members s kind) top)
      (hbytes : u.bytes = s.bytes ∪ ⋃ o ∈ p.members s kind, o.span.bytes) :
      Registers p numbers s kind site (.merged u) { top with span := u }

/-! ### The loops -/

/-- The loop that evicts retained objects: a map and a quarantine before it and after it. -/
inductive Evicts (s : Span) : SpanMap Object → List (Address × Nat) →
    SpanMap Object → List (Address × Nat) → Prop
  /-- The search finds no object that overlaps the span. -/
  | done {retained retained' : SpanMap Object} {quarantine : List (Address × Nat)}
      (hsearch : retained.firstOverlapping s = (none, retained')) :
      Evicts s retained quarantine retained' quarantine
  /-- An object is found and taken out, and the loop goes on. -/
  | take {retained found removed retained' : SpanMap Object}
      {quarantine quarantine' : List (Address × Nat)} {stale : Span} {o o' : Object}
      (hsearch : retained.firstOverlapping s = (some (stale, o), found))
      (hremove : found.remove stale = (.ok o', removed))
      (hrest : Evicts s removed (quarantine.filter fun e => e ≠ (stale.start, o.allocId))
        retained' quarantine') :
      Evicts s retained quarantine retained' quarantine'

/-- The loop that takes in live objects: a map and the registration before it and after it. -/
inductive Absorbs (kind : ObjectKind) : SpanMap Object → Intake → SpanMap Object → Intake → Prop
  /-- The search finds no object that overlaps the new one. -/
  | done {live live' : SpanMap Object} {intake : Intake}
      (hsearch : live.firstOverlapping intake.object.span = (none, live')) :
      Absorbs kind live intake live' intake
  /-- An object is found that merges with the new one. It takes the place of the new one, wider, and
  the loop goes on with the wider span. -/
  | widen {live found removed live' : SpanMap Object} {intake intake' : Intake} {s : Span}
      {existing existing' : Object}
      (hsearch : live.firstOverlapping intake.object.span = (some (s, existing), found))
      (hremove : found.remove s = (.ok existing', removed))
      (hmerges : (kind.merges && existing.kind.merges) = true)
      (hrest : Absorbs kind removed
        { intake with
          object := { existing with span := intake.object.span.hull s }
          merged := true }
        live' intake') :
      Absorbs kind live intake live' intake'
  /-- An object is found that does not merge with the new one. It is dropped. -/
  | drop {live found removed live' : SpanMap Object} {intake intake' : Intake} {s : Span}
      {existing existing' : Object}
      (hsearch : live.firstOverlapping intake.object.span = (some (s, existing), found))
      (hremove : found.remove s = (.ok existing', removed))
      (hmerges : (kind.merges && existing.kind.merges) = false)
      (hrest : Absorbs kind removed { intake with previous := some existing } live' intake') :
      Absorbs kind live intake live' intake'

/-- A registration in which every loop comes to its end, no object that a loop found is refused when
it is taken out, and the map accepts the new object. -/
inductive Completes (p : Pool) (s : Span) (kind : ObjectKind) (new : Object) : Pool → Prop
  | intro {retained₁ retained₂ live₁ live₂ : SpanMap Object}
      {quarantine₁ quarantine₂ : List (Address × Nat)} {intake : Intake}
      (hevict : Evicts s p.retained p.quarantine retained₁ quarantine₁)
      (habsorb : Absorbs kind p.live { object := new } live₁ intake)
      (hevict' : Evicts intake.object.span retained₁ quarantine₁ retained₂ quarantine₂)
      (hinsert : live₁.insert intake.object.span intake.object = (.ok (), live₂)) :
      Completes p s kind new
        { p with
          live := live₂, retained := retained₂, quarantine := quarantine₂
          recent := none, earlier := none }

/-- With a round for each object to evict and one more, the eviction runs to its end. The induction
is on the rounds: each takes out one of the objects that overlap the span. -/
theorem evicts_dropOverlapping {m : SpanMap Object} {os : List Object} (h : m.Lists os) (s : Span)
    (n : Nat) (hn : (os.filter fun o => o.span.overlaps s).length < n)
    (quarantine : List (Address × Nat)) :
    Evicts s m quarantine (dropOverlapping s n m quarantine).1
      (dropOverlapping s n m quarantine).2 := by
  induction n generalizing m os quarantine with
  | zero => exact absurd hn (Nat.not_lt_zero _)
  | succ n ih =>
    obtain ⟨m₁, hsearch, hlists⟩ := h.firstOverlapping s
    cases hfind : os.find? fun o => o.span.overlaps s with
    | none =>
      -- nothing overlaps any more, so the loop is over although rounds are left
      rw [hfind] at hsearch
      simp only [dropOverlapping, hsearch, Option.map_none]
      exact .done hsearch
    | some o =>
      rw [hfind] at hsearch
      -- the map has what it found, so it does not refuse to take it out
      obtain ⟨m₂, hremove, hlists'⟩ := hlists.remove (List.mem_of_find?_eq_some hfind)
      -- and what still overlaps is one object less
      obtain ⟨hhit, -⟩ := filter_of_find? h.apart hfind
      rw [hhit, List.length_cons] at hn
      have hrest := ih hlists' (by omega)
        (quarantine.filter fun e => e ≠ (o.span.start, o.allocId))
      simp only [dropOverlapping, hsearch, Option.map_some, Object.entry, hremove]
      exact .take hsearch hremove hrest

/-- With a round for each object to take in and one more, the loop of a registration runs to its
end. What it takes in makes the span grow, but brings no further objects in. -/
theorem absorbs_absorb {m : SpanMap Object} {os : List Object} (h : m.Lists os) (kind : ObjectKind)
    (n : Nat) (intake : Intake)
    (hn : (os.filter fun o => o.span.overlaps intake.object.span).length < n) :
    Absorbs kind m intake (absorb kind n m intake).1 (absorb kind n m intake).2 := by
  induction n generalizing m os intake with
  | zero => exact absurd hn (Nat.not_lt_zero _)
  | succ n ih =>
    obtain ⟨m₁, hsearch, hlists⟩ := h.firstOverlapping intake.object.span
    cases hfind : os.find? fun o => o.span.overlaps intake.object.span with
    | none =>
      rw [hfind] at hsearch
      simp only [absorb, hsearch, Option.map_none]
      exact .done hsearch
    | some o =>
      rw [hfind] at hsearch
      have hmem := List.mem_of_find?_eq_some hfind
      obtain ⟨hov, -⟩ := List.find?_eq_some_iff_append.mp hfind
      obtain ⟨m₂, hremove, hlists'⟩ := hlists.remove hmem
      obtain ⟨hhit, -⟩ := filter_of_find? h.apart hfind
      rw [hhit, List.length_cons] at hn
      -- the wider span overlaps the same of the other objects, so one round less is enough for them
      have hsame := List.filter_congr (Intake.overlaps_take_of_mem kind h.apart hmem hov)
      have hrest := ih hlists' (intake.take kind o) (by rw [hsame]; omega)
      simp only [absorb, hsearch, Option.map_some, Object.entry, hremove]
      by_cases hmerges : (kind.merges && o.kind.merges) = true
      · rw [Intake.take, if_pos hmerges] at hrest
        rw [if_pos hmerges]
        exact .widen hsearch hremove hmerges hrest
      · rw [Intake.take, if_neg hmerges] at hrest
        rw [if_neg hmerges]
        exact .drop hsearch hremove (Bool.not_eq_true _ ▸ hmerges) hrest

end Pool

namespace LinearPool

variable {q : LinearPool} {s : Span} {kind : ObjectKind}

/-- With members a registration widens the last of them. -/
theorem register_of_member (numbers : Numbering) (site : Option Site) {top : Object}
    (htop : (q.members s kind).getLast? = some top) :
    (q.register numbers s kind site).1 = .merged (hullOf s (q.members s kind)) ∧
      q.newcomer numbers s kind site = { top with span := hullOf s (q.members s kind) } := by
  obtain ⟨first, rest, hcons⟩ :=
    List.exists_cons_of_ne_nil (List.ne_nil_of_mem (List.mem_of_getLast? htop))
  constructor
  · rw [members] at hcons ⊢
    simp only [register, hcons]
    rfl
  · simp only [newcomer, htop]

/-- Without members a registration leaves the new object and tells of the last one that it dropped,
if there is one. -/
theorem register_of_no_member (numbers : Numbering) (site : Option Site)
    (hnil : q.members s kind = []) :
    (q.register numbers s kind site).1 =
        ((q.live.filter fun o => o.span.overlaps s).getLast?.elim (.inserted s) (.replaced s)) ∧
      q.newcomer numbers s kind site = Pool.newObject numbers s kind site := by
  constructor
  · rw [members] at hnil
    simp only [register, hnil]
    cases (q.live.filter fun o => o.span.overlaps s).getLast? <;> rfl
  · rw [newcomer, hnil]
    rfl

end LinearPool

namespace Pool

namespace Refines

variable {p : Pool} {q : LinearPool}

/-- An eviction runs to its end. -/
theorem evicts (h : p.Refines q) (s : Span) :
    Evicts s p.retained p.quarantine (p.evictRetained s).retained
      (p.evictRetained s).quarantine := by
  obtain ⟨sorted, -, hlists⟩ := h.retained
  have hrounds : (sorted.filter fun o => o.span.overlaps s).length < p.retained.size + 1 := by
    rw [hlists.size]
    exact Nat.lt_succ_of_le (List.length_filter_le _ _)
  exact evicts_dropOverlapping hlists s _ hrounds p.quarantine

/-- The loop of a registration runs to its end. -/
theorem absorbs (h : p.Refines q) (kind : ObjectKind) (intake : Intake) :
    Absorbs kind p.live intake (absorb kind (p.live.size + 1) p.live intake).1
      (absorb kind (p.live.size + 1) p.live intake).2 := by
  apply absorbs_absorb h.live
  rw [h.live.size]
  exact Nat.lt_succ_of_le (List.length_filter_le _ _)

/-- A registration runs to its end, and the map accepts the new object. -/
theorem completes (h : p.Refines q) (numbers : Numbering) (s : Span) (kind : ObjectKind)
    (site : Option Site) :
    p.Completes s kind (newObject numbers s kind site) (p.register numbers s kind site).2.1 := by
  obtain ⟨live₁, live₂, habsorb, hlists, hinsert, -⟩ := h.absorb_newcomer numbers s kind site
  have hloop := h.absorbs kind { object := newObject numbers s kind site }
  rw [newObject, habsorb] at hloop
  rw [register_eq habsorb hinsert]
  exact .intro (h.forgetRecent.evicts s) hloop ((h.withoutOverlapping hlists).evicts _) hinsert

/-- The objects that a span overlaps are the live ones of the linear pool that do. -/
theorem overlapped_eq (h : p.Refines q) (s : Span) :
    p.overlapped s = q.live.filter fun o => o.span.overlaps s := by
  rw [overlapped, h.objects]

/-- The objects that a registration merges with are those of the linear pool. -/
theorem members_eq (h : p.Refines q) (s : Span) (kind : ObjectKind) :
    p.members s kind = q.members s kind := by
  rw [members, h.overlapped_eq, LinearPool.members]

/-- A registration has one of the three outcomes. -/
theorem registers (h : p.Refines q) (numbers : Numbering) (s : Span) (kind : ObjectKind)
    (site : Option Site) :
    p.Registers numbers s kind site (p.register numbers s kind site).1
      (q.newcomer numbers s kind site) := by
  -- what is filtered out of the live objects still stands in the order of addresses
  have hhighest {os : List Object} {top : Object} (hsub : os.Sublist q.live)
      (hlast : os.getLast? = some top) : IsHighest os top :=
    isHighest_of_getLast? (h.valid.ascending.sublist (hsub.map _)) hlast
  have hoverlapped : (p.overlapped s).Sublist q.live := by
    rw [h.overlapped_eq]
    exact List.filter_sublist
  rw [(h.register numbers s kind site).answer]
  cases hmembers : (p.members s kind).getLast? with
  | some top =>
    have htop : IsHighest (p.members s kind) top :=
      hhighest (List.filter_sublist.trans hoverlapped) hmembers
    have hbytes : (hullOf s (p.members s kind)).bytes =
        s.bytes ∪ ⋃ o ∈ p.members s kind, o.span.bytes :=
      Span.bytes_hullOf fun o ho => (List.mem_filter.mp (List.mem_of_mem_filter ho)).2
    rw [h.members_eq] at hmembers
    obtain ⟨hanswer, hobject⟩ := LinearPool.register_of_member numbers site hmembers
    rw [hanswer, hobject, ← h.members_eq]
    exact .merged htop hbytes
  | none =>
    have hnil : p.members s kind = [] := List.getLast?_eq_none_iff.mp hmembers
    obtain ⟨hanswer, hobject⟩ :=
      LinearPool.register_of_no_member numbers site (h.members_eq s kind ▸ hnil)
    rw [hanswer, hobject, ← h.overlapped_eq]
    -- the highest of the objects that are dropped counts, if there is one
    cases hlast : (p.overlapped s).getLast? with
    | some top => exact .replaced hnil (hhighest hoverlapped hlast)
    | none => exact .inserted (List.getLast?_eq_none_iff.mp hlast)

end Refines

end Pool

namespace Pools

variable {ι : Type} [DecidableEq ι]

/-- In every pool that a run can reach, a registration takes the live objects that overlap the span
out, and leaves one object more: the highest of those that merge with the new one, with the bytes of
the span and of all of them, or without such objects the new one, whose number no allocation of the
run has had. It answers accordingly, and of the retained objects those that overlap the span and no
others are forgotten. Its loops end, and the map does not refuse the object. -/
theorem performAll_register (retention : ι → Retention) (cs : List (ι × Pool.Command)) (i : ι)
    (s : Span) (kind : ObjectKind) (site : Option Site) :
    let ps := ((fresh retention).performAll cs).2
    let p := ps.pool i
    let r := p.register ps.numbers s kind site
    (∃ o, p.Registers ps.numbers s kind site r.1 o ∧
      r.2.1.objects.Perm (o :: p.objects.filter fun e => !e.span.overlaps s)) ∧
    r.2.1.retainedObjects.Perm (p.retainedObjects.filter fun e => !e.span.overlaps s) ∧
    r.2.2 = { ps.numbers with nextAlloc := ps.numbers.nextAlloc + 1 } ∧
    AllocationsBelow retention cs ps.numbers.nextAlloc ∧
    p.Completes s kind (Pool.newObject ps.numbers s kind site) r.2.1 := by
  intro ps p r
  obtain ⟨qs, h, -⟩ := performAll_refines (refines_fresh retention) cs
  have hp : p.Refines (qs i) := h.pools i
  obtain ⟨-, hrefines, hnumbers⟩ := hp.register ps.numbers s kind site
  refine ⟨⟨_, hp.registers ps.numbers s kind site, ?_⟩, ?_, hnumbers,
    allocationsBelow_performAll retention cs, hp.completes ps.numbers s kind site⟩
  · -- the linear pool puts the object among those that do not overlap the span
    rw [hrefines.objects, hp.objects]
    exact LinearPool.place_perm _ _
  · -- and both maps of retained objects list what the linear pools before and after it retain
    apply hrefines.retainedObjects_sorted.1.trans
    exact (hp.retainedObjects_sorted.1.filter _).symm

end Pools

end MemorySentry
