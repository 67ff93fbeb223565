import MemorySentry.Proofs.Pool.Intake

/-!
# Pools refine linear pools

`p.Refines q` ties a pool to the linear pool with the same objects: the maps hold the objects of the
lists, the quarantine names the retained ones from the oldest free on, and the objects at hand are
live ones. Every operation answers as on the linear pool and keeps the two together, except that a
linear pool counts no hits (`perform_refines`).

What is kept at hand is coherent because of two things: an operation that takes a live object away
forgets what is at hand, and at most one live object covers an address, so that it does not matter
which of them a look-up finds first (`Refines.find`).
-/

namespace MemorySentry

open SpanMap

/-- A pool holds the objects of a linear pool. -/
structure Pool.Refines (p : Pool) (q : LinearPool) : Prop where
  /-- Freed objects are treated alike. -/
  retention : p.retention = q.retention
  /-- The map of live objects holds the live ones. -/
  live : p.live.Lists q.live
  /-- The map of retained objects holds the retained ones. -/
  retained : p.retained.Stores q.retained
  /-- The quarantine names them in the order of their frees. -/
  quarantine : p.quarantine = q.retained.map Object.key
  /-- The object found last is live. -/
  recent : ∀ o, p.recent = some o → o ∈ q.live
  /-- The object found before that one is live. -/
  earlier : ∀ o, p.earlier = some o → o ∈ q.live
  /-- The two are not the same. -/
  distinct : ∀ o, p.recent = some o → p.earlier ≠ some o
  /-- The objects are valid. -/
  valid : q.Valid

/-- An operation on a pool and on a linear pool answer alike, draw the same numbers and leave pools
that belong together. -/
structure Pool.Agrees {α : Type} (r : α × Pool × Numbering) (r' : α × LinearPool × Numbering) :
    Prop where
  /-- The answers are the same. -/
  answer : r.1 = r'.1
  /-- The pools belong together. -/
  refines : r.2.1.Refines r'.2.1
  /-- The same numbers come next. -/
  numbers : r.2.2 = r'.2.2

/-- Fewer objects are valid as well. -/
theorem LinearPool.Valid.sublist {q : LinearPool} (h : q.Valid) {live retained : List Object}
    (hlive : live.Sublist q.live) (hretained : retained.Sublist q.retained) :
    Valid { q with live, retained } where
  ascending := h.ascending.sublist (hlive.map _)
  apart := h.apart.sublist (hlive.append hretained)
  bounded := Nat.le_trans hretained.length_le h.bounded

namespace Pool

/-- Pools without objects correspond. -/
theorem refines_empty (retention : Retention) : Refines { retention } { retention } where
  retention := rfl
  live := represents_empty
  retained := ⟨[], List.Perm.refl _, represents_empty⟩
  quarantine := rfl
  recent := by simp
  earlier := by simp
  distinct := by simp
  valid := LinearPool.valid_empty retention

/-- What the loop of a registration comes to decides what the registration says and leaves. -/
theorem register_eq {p : Pool} {numbers : Numbering} {s : Span} {kind : ObjectKind}
    {site : Option Site} {live₁ live₂ : SpanMap Object} {intake : Intake}
    (habsorb : absorb kind (p.live.size + 1) p.live
      { object := { span := s, kind, allocId := numbers.nextAlloc, allocSite := site } } =
        (live₁, intake))
    (hinsert : live₁.insert intake.object.span intake.object = (.ok (), live₂)) :
    p.register numbers s kind site =
      (intake.registration,
        { { p.forgetRecent.evictRetained s with
            live := live₁ }.evictRetained intake.object.span with
          live := live₂ },
        { numbers with nextAlloc := numbers.nextAlloc + 1 }) := by
  -- evictions leave the live objects alone
  have habsorb' : absorb kind ((p.forgetRecent.evictRetained s).live.size + 1)
      (p.forgetRecent.evictRetained s).live
      { object := { span := s, kind, allocId := numbers.nextAlloc, allocSite := site } } =
        (live₁, intake) := habsorb
  have hinsert' : SpanMap.insert
      ({ p.forgetRecent.evictRetained s with live := live₁ }.evictRetained intake.object.span).live
      intake.object.span intake.object = (.ok (), live₂) := hinsert
  simp only [Pool.register, habsorb', hinsert']
  rfl

namespace Refines

variable {p : Pool} {q : LinearPool}

/-! ### Looking up -/

/-- A look-up finds the live object that covers the address, at hand or in the map. -/
theorem find (h : p.Refines q) (a : Address) :
    ∃ p', p.find a = (q.objectAt a, p') ∧ p'.Refines q := by
  -- whichever live object is found to cover the address, it is the only one
  have hlive := h.valid.apart_live
  have hat {o : Object} (hmem : o ∈ q.live) (hcontains : o.span.contains a = true) :
      q.objectAt a = some o :=
    (LinearPool.covering_eq_some_iff hlive).mpr ⟨hmem, hcontains⟩
  unfold Pool.find
  cases hrecent : covering? p.recent a with
  | some o =>
    obtain ⟨ho, hcontains⟩ := Option.filter_eq_some_iff.mp hrecent
    rw [hat (h.recent o ho) hcontains]
    exact ⟨_, rfl, { h with }⟩
  | none =>
    cases hearlier : covering? p.earlier a with
    | some o =>
      obtain ⟨ho, hcontains⟩ := Option.filter_eq_some_iff.mp hearlier
      rw [hat (h.earlier o ho) hcontains]
      refine ⟨_, rfl, { h with recent := h.earlier, earlier := h.recent, distinct := ?_ }⟩
      intro o ho ho'
      exact h.distinct o ho' ho
    | none =>
      obtain ⟨live, hlookup, hlists⟩ := h.live.lookup a
      rw [hlookup, LinearPool.objectAt]
      cases hfind : LinearPool.covering q.live a with
      | none => exact ⟨_, rfl, { h with live := hlists }⟩
      | some o =>
        obtain ⟨hmem, hcontains⟩ := (LinearPool.covering_eq_some_iff hlive).mp hfind
        refine ⟨_, rfl,
          { h with live := hlists, recent := ?_, earlier := h.recent, distinct := ?_ }⟩
        · rintro _ ⟨⟩
          exact hmem
        · -- the object found last does not cover the address, so it is another one
          rintro _ ⟨⟩ (ho : p.recent = some o)
          rw [covering?, ho] at hrecent
          simp [hcontains] at hrecent

/-- The pool finds the live object that the linear one finds. -/
theorem objectAt_fst (h : p.Refines q) (a : Address) : (p.objectAt a).1 = q.objectAt a := by
  obtain ⟨p', hfind, -⟩ := h.find a
  simp only [Pool.objectAt, hfind]

/-- The pool finds the retained object that the linear one finds, and corresponds to it still. -/
theorem findRetained (h : p.Refines q) (a : Address) :
    ∃ p', p.findRetained a = (q.retainedAt a, p') ∧ p'.Refines q := by
  obtain ⟨retained, hlookup, hstores⟩ := h.retained.lookup a
  simp only [Pool.findRetained, hlookup, map_snd_entry]
  exact ⟨_, rfl, { h with retained := hstores }⟩

/-! ### Registering -/

/-- To forget what is at hand changes nothing that counts. -/
theorem forgetRecent (h : p.Refines q) : p.forgetRecent.Refines q :=
  { h with recent := by simp [Pool.forgetRecent], earlier := by simp [Pool.forgetRecent],
           distinct := by simp [Pool.forgetRecent] }

/-- With nothing at hand, other live objects may take the place of the live ones. -/
theorem withLive (h : p.Refines q) (hrecent : p.recent = none) (hearlier : p.earlier = none)
    {live' : SpanMap Object} {os : List Object} (hlists : live'.Lists os)
    (hvalid : LinearPool.Valid { q with live := os }) :
    Refines { p with live := live' } { q with live := os } :=
  { h with
    live := hlists
    recent := by simp [hrecent]
    earlier := by simp [hearlier]
    distinct := by simp [hrecent]
    valid := hvalid }

/-- Eviction takes out the retained objects that overlap a span. -/
theorem evictRetained (h : p.Refines q) (s : Span) :
    (p.evictRetained s).Refines
      { q with retained := q.retained.filter fun o => !o.span.overlaps s } := by
  obtain ⟨m', hdrop, hstores⟩ := dropOverlapping_stores h.retained s
  rw [← h.quarantine] at hdrop
  unfold Pool.evictRetained
  rw [hdrop]
  exact { h with
    retained := hstores
    quarantine := rfl
    valid := h.valid.sublist (List.Sublist.refl _) List.filter_sublist }

/-- The object that a registration leaves in the linear pool, as the loop of the pool makes it. -/
theorem newcomer_eq_widened (q : LinearPool) (numbers : Numbering) (s : Span) (kind : ObjectKind)
    (site : Option Site) :
    q.newcomer numbers s kind site =
      widened { span := s, kind, allocId := numbers.nextAlloc, allocSite := site }
        (q.members s kind) := by
  unfold LinearPool.newcomer widened
  cases hlast : (q.members s kind).getLast? with
  | none =>
    rw [List.getLast?_eq_none_iff] at hlast
    rw [hlast]
    rfl
  | some o => rfl

/-- Without the objects that overlap a span, live or retained. -/
theorem withoutOverlapping (h : p.Refines q) {s : Span} {live' : SpanMap Object}
    (hlists : live'.Lists (q.live.filter fun o => !o.span.overlaps s)) :
    Refines { p.forgetRecent.evictRetained s with live := live' }
      { q with
        live := q.live.filter fun o => !o.span.overlaps s
        retained := q.retained.filter fun o => !o.span.overlaps s } :=
  (h.forgetRecent.evictRetained s).withLive rfl rfl hlists
    (h.valid.sublist List.filter_sublist List.filter_sublist)

/-- What is apart from the registered span is apart from the object that the registration leaves. -/
theorem filter_overlaps_newcomer (h : p.Refines q) {os : List Object}
    (hsub : os ⊆ q.live ++ q.retained) (numbers : Numbering) (s : Span) (kind : ObjectKind)
    (site : Option Site) :
    ∀ o ∈ os.filter fun o => !o.span.overlaps s,
      o.span.overlaps (q.newcomer numbers s kind site).span = false := by
  intro o ho
  obtain ⟨hmem, hov⟩ := List.mem_filter.mp ho
  rw [Span.overlaps_comm]
  exact LinearPool.newcomer_apart h.valid (hsub hmem) (by simpa using hov) numbers kind site

/-- The loop of a registration makes the object that the linear pool makes, and leaves a map that it
can be stored in. -/
theorem absorb_newcomer (h : p.Refines q) (numbers : Numbering) (s : Span) (kind : ObjectKind)
    (site : Option Site) :
    ∃ live₁ live₂,
      absorb kind (p.live.size + 1) p.live
          { object := { span := s, kind, allocId := numbers.nextAlloc, allocSite := site } } =
        (live₁,
          { object := q.newcomer numbers s kind site
            merged := !(q.members s kind).isEmpty
            previous := ((q.live.filter fun o => o.span.overlaps s).filter fun o =>
              !(kind.merges && o.kind.merges)).getLast? }) ∧
      live₁.Lists (q.live.filter fun o => !o.span.overlaps s) ∧
      live₁.insert (q.newcomer numbers s kind site).span (q.newcomer numbers s kind site) =
        (.ok (), live₂) ∧
      live₂.Lists (LinearPool.place (q.newcomer numbers s kind site)
        (q.live.filter fun o => !o.span.overlaps s)) := by
  obtain ⟨live₁, habsorb, hlists⟩ := absorb_eq h.live kind (p.live.size + 1)
    { object := { span := s, kind, allocId := numbers.nextAlloc, allocSite := site } } (by
      rw [h.live.size]
      exact Nat.lt_succ_of_le (List.length_filter_le _ _))
  have hwidened := newcomer_eq_widened q numbers s kind site
  unfold LinearPool.members at hwidened
  rw [foldl_take, ← hwidened] at habsorb
  -- the widened object overlaps nothing that is left, so it can be inserted
  obtain ⟨live₂, hinsert, hlists'⟩ := hlists.insert
    (h.filter_overlaps_newcomer (List.subset_append_left _ _) numbers s kind site)
  exact ⟨live₁, live₂, habsorb, hlists, hinsert, hlists'⟩

/-- A registration comes to the same in both pools. -/
theorem register (h : p.Refines q) (numbers : Numbering) (s : Span) (kind : ObjectKind)
    (site : Option Site) :
    Agrees (p.register numbers s kind site) (q.register numbers s kind site) := by
  obtain ⟨live', live'', habsorb, hlists, hinsert, hlists'⟩ :=
    h.absorb_newcomer numbers s kind site
  have h₁ := h.withoutOverlapping hlists
  have h₂ := h₁.evictRetained (q.newcomer numbers s kind site).span
  -- what the registration left of the retained objects is apart from the new object
  have hkept : ((q.retained.filter fun o => !o.span.overlaps s).filter fun o =>
      !o.span.overlaps (q.newcomer numbers s kind site).span) =
        q.retained.filter fun o => !o.span.overlaps s := by
    refine List.filter_eq_self.mpr fun o ho => ?_
    rw [h.filter_overlaps_newcomer (List.subset_append_right _ _) numbers s kind site o ho]
    rfl
  simp only [hkept] at h₂
  rw [register_eq habsorb hinsert]
  refine ⟨?_, h₂.withLive rfl rfl hlists' (h.valid.register numbers s kind site), rfl⟩
  unfold Intake.registration
  rw [LinearPool.newcomer_span]
  unfold LinearPool.register LinearPool.members hullOf
  simp only
  generalize (q.live.filter fun o => o.span.overlaps s) = overlapped
  cases hmembers : overlapped.filter fun o => kind.merges && o.kind.merges with
  | nil =>
    -- without members all overlapped objects were dropped, the highest of them last
    have hdropped : (overlapped.filter fun o => !(kind.merges && o.kind.merges)) = overlapped :=
      List.filter_eq_self.mpr fun o ho => by
        rw [Bool.not_eq_true', ← Bool.not_eq_true]
        exact List.filter_eq_nil_iff.mp hmembers o ho
    rw [hdropped]
    cases overlapped.getLast? <;> rfl
  | cons o rest => rfl

/-- So does one of some bytes from an address on. -/
theorem registerBytes (h : p.Refines q) (numbers : Numbering) (a : Address) (size : ByteCount)
    (kind : ObjectKind) (site : Option Site) :
    Agrees (p.registerBytes numbers a size kind site)
      (q.registerBytes numbers a size kind site) := by
  unfold Pool.registerBytes LinearPool.registerBytes
  by_cases ha : a = 0
  · simp only [ha, if_true]
    cases Span.ofLength 0 size <;> exact ⟨rfl, h, rfl⟩
  · simp only [ha, if_false]
    cases Span.ofLength a size with
    | error e => exact ⟨rfl, h, rfl⟩
    | ok s =>
      obtain ⟨hanswer, hrefines, hnumbers⟩ := h.register numbers s kind site
      exact ⟨congrArg some hanswer, hrefines, hnumbers⟩

/-! ### Freeing -/

/-- A freed object is retained as the newest one, and the oldest ones are forgotten. -/
theorem retain_eq (h : p.Refines q) {o : Object}
    (hoff : ∀ r ∈ q.retained, r.span.overlaps o.span = false) (most : Nat) :
    ∃ m', p.retain o most =
        { p with
          retained := m'
          quarantine := (LinearPool.newest most (q.retained ++ [o])).map Object.key } ∧
      m'.Stores (LinearPool.newest most (q.retained ++ [o])) := by
  -- the eviction finds nothing to take out
  have hkept : (q.retained.filter fun r => !r.span.overlaps o.span) = q.retained :=
    List.filter_eq_self.mpr fun r hr => by simp [hoff r hr]
  obtain ⟨m₁, hdrop, hstores₁⟩ := dropOverlapping_stores h.retained o.span
  rw [← h.quarantine, hkept] at hdrop
  rw [hkept] at hstores₁
  obtain ⟨m₂, hinsert, hstores₂⟩ := hstores₁.insert hoff
  obtain ⟨m₃, htrim, hstores₃⟩ := trim_eq hstores₂ most
  refine ⟨m₃, ?_, hstores₃⟩
  rw [List.map_append] at htrim
  simp only [Pool.retain, Pool.evictRetained, hdrop, hinsert]
  rw [show [(o.span.start, o.allocId)] = [o].map Object.key from rfl, htrim]

/-- Retiring an object that was taken out of the live ones. -/
theorem retire (h : p.Refines q) {o : Object}
    (hoff : ∀ r ∈ q.retained, r.span.overlaps o.span = false)
    (numbers : Numbering) (site : Option Site)
    (hvalid : LinearPool.Valid { q with
      retained := LinearPool.newest q.retention.capacity
        (q.retained ++ [o.retire numbers.nextFree site]) }) :
    ∃ p', p.retire numbers o site = (o.retire numbers.nextFree site, p',
        { numbers with nextFree := numbers.nextFree + 1 }) ∧
      p'.Refines { q with
        retained := LinearPool.newest q.retention.capacity
          (q.retained ++ [o.retire numbers.nextFree site]) } := by
  unfold Pool.retire
  rw [h.retention]
  by_cases hretains : q.retention.retains = true
  · obtain ⟨m', hretain, hstores⟩ :=
      h.retain_eq (o := o.retire numbers.nextFree site) hoff q.retention.capacity
    simp only [hretains, if_true, hretain]
    exact ⟨_, rfl, { h with retained := hstores, quarantine := rfl, valid := hvalid }⟩
  · -- nothing is ever retained, neither here nor in the linear pool
    have hcapacity : q.retention.capacity = 0 := by
      simpa [Retention.retains] using hretains
    have hnil : q.retained = [] := by
      have hbounded := h.valid.bounded
      rw [hcapacity] at hbounded
      exact List.eq_nil_of_length_eq_zero (Nat.le_zero.mp hbounded)
    have hnewest : LinearPool.newest q.retention.capacity
        (q.retained ++ [o.retire numbers.nextFree site]) = [] := by
      rw [hcapacity, LinearPool.newest, Nat.sub_zero, List.drop_length]
    simp only [hretains]
    rw [hnewest] at hvalid ⊢
    exact ⟨p, rfl, { h with
      retained := hnil ▸ h.retained
      quarantine := by rw [h.quarantine, hnil]
      valid := hvalid }⟩

/-- A free comes to the same in both pools. -/
theorem free (h : p.Refines q) (numbers : Numbering) (a : Address) (site : Option Site) :
    Agrees (p.free numbers a site) (q.free numbers a site) := by
  unfold Pool.free LinearPool.free
  by_cases ha : a = 0
  · rw [if_pos ha, if_pos ha]
    exact ⟨rfl, h, rfl⟩
  rw [if_neg ha, if_neg ha]
  obtain ⟨p₁, hfind, h₁⟩ := h.find a
  rw [hfind]
  cases hlive : q.objectAt a with
  | none =>
    -- nothing live is there, and what is retained only decides how the violation reads
    obtain ⟨p₂, hfindr, h₂⟩ := h₁.findRetained a
    simp only [hfindr, strayFree]
    cases q.retainedAt a <;> exact ⟨rfl, h₂, rfl⟩
  | some o =>
    by_cases hheap : o.kind.isHeap = true
    · by_cases hstart : o.span.start = a
      · -- a free of the base: the object leaves the live ones, and nothing is at hand any more
        subst hstart
        have hmem : o ∈ q.live := List.mem_of_find?_eq_some hlive
        obtain ⟨r, live', hremove, -, hlists⟩ := h₁.forgetRecent.live.removeAt o.span.start
        have h₂ : Refines
            { p₁.forgetRecent with live := live' }
            { q with live := q.live.filter fun e => e.span.start ≠ o.span.start } :=
          h₁.forgetRecent.withLive rfl rfl hlists (h.valid.drop o.span.start)
        obtain ⟨p', hretire, h₃⟩ := h₂.retire
          (fun r hr => by rw [Span.overlaps_comm]; exact h.valid.live_retained hmem hr)
          numbers site (h.valid.free numbers hmem site)
        simp only [hheap, Bool.not_true, Bool.false_eq_true, if_false, ne_eq, not_true_eq_false,
          hremove, hretire]
        exact ⟨rfl, h₃, rfl⟩
      · simp only [hheap, hstart, Bool.not_true, Bool.false_eq_true, if_false, ne_eq,
          not_false_eq_true, if_true]
        exact ⟨rfl, h₁, rfl⟩
    · simp only [hheap]
      exact ⟨rfl, h₁, rfl⟩

/-- Dropping an object forgets what is at hand, in any case. -/
theorem endScope (h : p.Refines q) (a : Address) :
    (p.endScope a).1 = (q.endScope a).1 ∧ (p.endScope a).2.Refines (q.endScope a).2 := by
  obtain ⟨r, live', hremove, hanswer, hlists⟩ := h.forgetRecent.live.removeAt a
  have h' : Refines { p.forgetRecent with live := live' }
      { q with live := q.live.filter fun e => e.span.start ≠ a } :=
    h.forgetRecent.withLive rfl rfl hlists (h.valid.drop a)
  simp only [Pool.endScope, LinearPool.endScope_eq, hremove]
  -- the map refuses the base exactly when no live object of the list has it
  cases r with
  | error e => exact ⟨(Option.map_eq_none_iff.mp hanswer.symm).symm, h'⟩
  | ok e =>
    obtain ⟨o, hfind, rfl⟩ := Option.map_eq_some_iff.mp hanswer.symm
    exact ⟨hfind.symm, h'⟩

/-- So does a move. -/
theorem move (h : p.Refines q) (numbers : Numbering) (new old : Address) (size : ByteCount)
    (kind : ObjectKind) (site : Option Site) :
    Agrees (p.move numbers new old size kind site) (q.move numbers new old size kind site) := by
  unfold Pool.move LinearPool.move
  by_cases hold : old = 0
  · -- without an old address the free of the linear pool does nothing
    subst hold
    obtain ⟨hanswer, hrefines, hnumbers⟩ := h.registerBytes numbers new size kind site
    simp only [if_true, ne_eq, not_true_eq_false, false_and, if_false, LinearPool.free]
    exact ⟨congrArg Except.ok hanswer, hrefines, hnumbers⟩
  obtain ⟨hanswer, hrefines, hnumbers⟩ := h.free numbers old site
  rcases hfree : p.free numbers old site with ⟨r, p', numbers'⟩
  rcases hfreeq : q.free numbers old site with ⟨r', q', numbers''⟩
  rw [hfree, hfreeq] at hanswer hrefines hnumbers
  obtain rfl : r = r' := hanswer
  obtain rfl : numbers' = numbers'' := hnumbers
  by_cases hsize : size = 0
  · -- no bytes make no span, so nothing is registered after the free
    subst hsize
    rw [if_neg hold, if_pos rfl, if_neg (by simp)]
    obtain ⟨e, hspan⟩ := Span.ofLength_zero new
    cases r with
    | error v => exact ⟨rfl, hrefines, rfl⟩
    | ok freed =>
      simp only [LinearPool.registerBytes, hspan]
      exact ⟨rfl, hrefines, rfl⟩
  by_cases hnew : new = 0
  · -- the reallocation has failed, and the old object stays
    rw [if_neg hold, if_neg hsize, if_pos hnew, if_pos ⟨hold, hsize, hnew⟩]
    exact ⟨rfl, h, rfl⟩
  · rw [if_neg hold, if_neg hsize, if_neg hnew, if_neg (by simp [hnew])]
    cases r with
    | error v => exact ⟨rfl, hrefines, rfl⟩
    | ok freed =>
      obtain ⟨hanswer, hrefines', hnumbers⟩ :=
        hrefines.registerBytes numbers' new size kind site
      exact ⟨congrArg Except.ok hanswer, hrefines', hnumbers⟩

end Refines

end Pool

end MemorySentry
