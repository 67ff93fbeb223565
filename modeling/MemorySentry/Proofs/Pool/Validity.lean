import MemorySentry.Proofs.Pool.Mutation

/-!
# Valid linear pools

In a `Valid` pool live and retained objects share no address, the live ones stand in ascending
order, and no more objects are retained than the pool may retain. Every step keeps this
(`Step.valid`). The one step that needs an argument is a registration: the new object may be wider
than the span that was registered, but only by objects that it takes in (`newcomer_apart`).
-/

namespace MemorySentry.LinearPool

/-- What holds of a linear pool between operations. -/
structure Valid (q : LinearPool) : Prop where
  /-- Each live object ends before the next one starts. -/
  ascending : SpanMap.Ascending (q.live.map Object.entry)
  /-- No address belongs to two objects, live or retained. -/
  apart : Apart (q.live ++ q.retained)
  /-- Not too many objects are retained. -/
  bounded : q.retained.length ≤ q.retention.capacity

/-- A pool without objects is valid. -/
theorem valid_empty (retention : Retention) : Valid { retention } :=
  ⟨.nil, List.Pairwise.nil, Nat.zero_le _⟩

namespace Valid

variable {q : LinearPool}

/-- The live objects lie apart. -/
theorem apart_live (h : q.Valid) : Apart q.live :=
  (Apart.append_iff.mp h.apart).1

/-- So do the retained ones. -/
theorem apart_retained (h : q.Valid) : Apart q.retained :=
  (Apart.append_iff.mp h.apart).2.1

/-- No address belongs to a live and to a retained object. -/
theorem live_retained (h : q.Valid) {o r : Object} (ho : o ∈ q.live) (hr : r ∈ q.retained) :
    o.span.overlaps r.span = false :=
  (Apart.append_iff.mp h.apart).2.2 o ho r hr

end Valid

/-! ### The object that a registration leaves -/

/-- A registration merges with the live objects that it overlaps, if it and they are of kinds that
merge. -/
theorem mem_members {q : LinearPool} {s : Span} {kind : ObjectKind} {o : Object} :
    o ∈ q.members s kind ↔
      (o ∈ q.live ∧ o.span.overlaps s = true) ∧ kind.merges = true ∧ o.kind.merges = true := by
  simp only [members, List.mem_filter, Bool.and_eq_true]

/-- The new object is one that the registration takes in, made wider, or has just been allocated. -/
theorem newcomer_cases (q : LinearPool) (numbers : Numbering) (s : Span) (kind : ObjectKind)
    (site : Option Site) :
    (∃ o ∈ q.members s kind,
      q.newcomer numbers s kind site = { o with span := hullOf s (q.members s kind) }) ∨
    q.newcomer numbers s kind site =
      { span := hullOf s (q.members s kind), kind, allocId := numbers.nextAlloc,
        allocSite := site } := by
  unfold newcomer
  cases hlast : (q.members s kind).getLast? with
  | none => exact Or.inr rfl
  | some o => exact Or.inl ⟨o, List.mem_of_getLast? hlast, rfl⟩

/-- The object that a registration leaves has the hull of all that merges in it. -/
theorem newcomer_span (q : LinearPool) (numbers : Numbering) (s : Span) (kind : ObjectKind)
    (site : Option Site) : (q.newcomer numbers s kind site).span = hullOf s (q.members s kind) := by
  unfold newcomer
  split <;> rfl

/-- It contains what the registered span and the merged objects contain, and nothing else. -/
theorem contains_newcomer_iff {q : LinearPool} {numbers : Numbering} {s : Span} {kind : ObjectKind}
    {site : Option Site} {a : Address} :
    (q.newcomer numbers s kind site).span.contains a = true ↔
      s.contains a = true ∨ ∃ o ∈ q.members s kind, o.span.contains a = true := by
  rw [newcomer_span, contains_hullOf_iff fun o ho => (mem_members.mp ho).1.2]

/-- The new object has the addresses of the span and of the objects that merge with it. -/
theorem overlaps_newcomer_iff {q : LinearPool} {numbers : Numbering} {s u : Span}
    {kind : ObjectKind} {site : Option Site} :
    u.overlaps (q.newcomer numbers s kind site).span = true ↔
      u.overlaps s = true ∨ ∃ o ∈ q.members s kind, u.overlaps o.span = true := by
  rw [newcomer_span, overlaps_hullOf_iff fun o ho => (mem_members.mp ho).1.2]

/-- A registration leaves the new object and the live ones that do not overlap the span. -/
theorem mem_register_live {q : LinearPool} {numbers : Numbering} {s : Span} {kind : ObjectKind}
    {site : Option Site} {o : Object} :
    o ∈ (q.register numbers s kind site).2.1.live ↔
      o = q.newcomer numbers s kind site ∨ o ∈ q.live ∧ o.span.overlaps s = false := by
  have hlive : (q.register numbers s kind site).2.1.live =
      place (q.newcomer numbers s kind site) (q.live.filter fun o => !o.span.overlaps s) := rfl
  rw [hlive, (place_perm _ _).mem_iff, List.mem_cons, List.mem_filter, Bool.not_eq_true']

/-- An object that does not overlap the registered span does not overlap the new object. -/
theorem newcomer_apart {q : LinearPool} (h : q.Valid) {o : Object} (ho : o ∈ q.live ++ q.retained)
    {s : Span} (hov : o.span.overlaps s = false) (numbers : Numbering) (kind : ObjectKind)
    (site : Option Site) : (q.newcomer numbers s kind site).span.overlaps o.span = false := by
  rw [Span.overlaps_comm, ← Bool.not_eq_true, overlaps_newcomer_iff]
  rintro (hs | ⟨o', ho', hov'⟩)
  · rw [hov] at hs
    cases hs
  · -- an object that merges is live and overlaps the span, so it is another object
    obtain ⟨⟨hlive, hmerged⟩, -⟩ := mem_members.mp ho'
    obtain rfl := h.apart.eq_of_overlaps ho (List.mem_append_left _ hlive) hov'
    rw [hov] at hmerged
    cases hmerged

/-! ### Steps keep pools valid -/

/-- A mutation does not change what becomes of freed objects. -/
theorem Step.retention {q q' : LinearPool} {numbers numbers' : Numbering} {μ : Mutation}
    (h : q.Step numbers μ q' numbers') : q'.retention = q.retention := by
  cases h <;> rfl

/-- Nor do mutations one after another. -/
theorem Steps.retention {q q' : LinearPool} {numbers numbers' : Numbering} {ms : List Mutation}
    (h : q.Steps numbers ms q' numbers') : q'.retention = q.retention := by
  have hkeeps {p p' : LinearPool} {n n' : Numbering} {μ : Mutation} (hstep : p.Step n μ p' n')
      (hp : p.retention = q.retention) : p'.retention = q.retention :=
    hstep.retention.trans hp
  exact h.invariant hkeeps rfl

/-- The objects that a registration leaves share no address. -/
theorem Valid.register {q : LinearPool} (h : q.Valid) (numbers : Numbering) (s : Span)
    (kind : ObjectKind) (site : Option Site) :
    Valid { q with
      live := place (q.newcomer numbers s kind site) (q.live.filter fun o => !o.span.overlaps s)
      retained := q.retained.filter fun o => !o.span.overlaps s } := by
  -- what the registration leaves of the old objects is apart from the new one
  have hnew : ∀ o ∈ (q.live ++ q.retained).filter fun o => !o.span.overlaps s,
      (q.newcomer numbers s kind site).span.overlaps o.span = false := by
    intro o ho
    obtain ⟨hmem, hov⟩ := List.mem_filter.mp ho
    exact newcomer_apart h hmem (by simpa using hov) numbers kind site
  refine ⟨?_, ?_, ?_⟩
  · rw [entries_place]
    refine SpanMap.Ascending.place ?_ _ ?_
    · rw [← filter_entries fun t => !t.overlaps s]
      exact h.ascending.filter _
    · intro e he
      obtain ⟨o, ho, rfl⟩ := List.mem_map.mp he
      rw [Object.entry, Span.overlaps_comm]
      rw [List.filter_append] at hnew
      exact hnew o (List.mem_append_left _ ho)
  · have hrest : Apart ((q.live ++ q.retained).filter fun o => !o.span.overlaps s) :=
      h.apart.sublist List.filter_sublist
    refine (Apart.cons_iff.mpr ⟨hnew, hrest⟩).perm ?_
    rw [List.filter_append]
    exact ((place_perm _ _).append_right _).symm
  · exact Nat.le_trans (List.length_filter_le _ _) h.bounded

/-- A valid pool is valid without the object at an address. -/
theorem Valid.drop {q : LinearPool} (h : q.Valid) (a : Address) :
    Valid { q with live := q.live.filter fun e => e.span.start ≠ a } := by
  refine ⟨?_, h.apart.sublist (List.filter_sublist.append_right _), h.bounded⟩
  rw [← filter_entries fun t => t.start ≠ a]
  exact h.ascending.filter _

/-- The other live objects have no address of a live object. -/
theorem Valid.others_apart {q : LinearPool} (h : q.Valid) {o : Object} (hlive : o ∈ q.live) :
    ∀ e ∈ q.live.filter fun e => e.span.start ≠ o.span.start, e.span.overlaps o.span = false := by
  intro e he
  obtain ⟨hmem, hstart⟩ := List.mem_filter.mp he
  rw [← Bool.not_eq_true]
  intro hov
  rw [h.apart_live.eq_of_overlaps hmem hlive hov] at hstart
  simp at hstart

/-- A freed object keeps its addresses, which no other object has. -/
theorem Valid.free {q : LinearPool} (h : q.Valid) (numbers : Numbering) {o : Object}
    (hlive : o ∈ q.live) (site : Option Site) :
    Valid { q with
      live := q.live.filter fun e => e.span.start ≠ o.span.start
      retained :=
        newest q.retention.capacity (q.retained ++ [o.retire numbers.nextFree site]) } := by
  refine ⟨(h.drop o.span.start).ascending, ?_, length_newest_le _ _⟩
  -- it is enough to look at the retained objects before the oldest are forgotten
  refine Apart.sublist ?_ ((newest_sublist _ _).append_left _)
  refine Apart.append_iff.mpr ⟨(h.drop o.span.start).apart_live, ?_, ?_⟩
  · refine Apart.append_iff.mpr ⟨h.apart_retained, List.pairwise_singleton _ _, ?_⟩
    intro r hr freed hfreed
    have hov := h.live_retained hlive hr
    rw [Span.overlaps_comm] at hov
    rw [List.mem_singleton.mp hfreed]
    exact hov
  · intro e he r hr
    rcases List.mem_append.mp hr with hr | hr
    · exact h.live_retained (List.mem_of_mem_filter he) hr
    · rw [List.mem_singleton.mp hr]
      exact h.others_apart hlive e he

/-- Every step keeps a pool valid. -/
theorem Step.valid {q q' : LinearPool} {numbers numbers' : Numbering} {μ : Mutation}
    (h : q.Step numbers μ q' numbers') (hq : q.Valid) : q'.Valid := by
  cases h with
  | register s kind site => exact hq.register numbers s kind site
  | free o site hlive => exact hq.free numbers hlive site
  | drop a => exact hq.drop a
  | reset => exact ⟨.nil, List.Pairwise.nil, Nat.zero_le _⟩

/-- Mutations keep a pool valid. -/
theorem Steps.valid {q q' : LinearPool} {numbers numbers' : Numbering} {ms : List Mutation}
    (h : q.Steps numbers ms q' numbers') (hq : q.Valid) : q'.Valid :=
  h.invariant Step.valid hq

/-- Every operation keeps a pool valid. -/
theorem perform_valid {q : LinearPool} (h : q.Valid) (numbers : Numbering) (c : Pool.Command) :
    (q.perform numbers c).2.1.Valid := by
  obtain ⟨ms, hsteps, -⟩ := perform_steps q numbers c
  exact hsteps.valid h

/-- No operation changes what becomes of freed objects. -/
theorem perform_retention (q : LinearPool) (numbers : Numbering) (c : Pool.Command) :
    (q.perform numbers c).2.1.retention = q.retention := by
  obtain ⟨ms, hsteps, -⟩ := q.perform_steps numbers c
  exact hsteps.retention

end MemorySentry.LinearPool
