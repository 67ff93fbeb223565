import Mathlib.Data.List.Pairwise
import MemorySentry.Proofs.Monitor.Operations
import MemorySentry.Proofs.Page.ByteCounts
import MemorySentry.Proofs.Since

/-!
# Second views in a run

Views come and go with two operations, and all others leave them alone (`shadows_perform`). If the
operating system never grants an address twice (`ViewsApart`), the views that are there after a run
are those that it granted in the run and that have not been revoked since
(`mem_shadows_performAll_iff`). How large pages are is the same in the whole run.
-/

namespace MemorySentry

variable {page : UInt64}

namespace Shadow

/-- The end of a view. -/
def stop (page : UInt64) (v : Shadow) : Nat :=
  v.base.toNat + v.pages.toNat * page.toNat

/-- One view ends before the other one starts. -/
def Apart (page : UInt64) (v w : Shadow) : Prop :=
  v.stop page ≤ w.base.toNat ∨ w.stop page ≤ v.base.toNat

instance (v w : Shadow) : Decidable (v.Apart page w) :=
  inferInstanceAs (Decidable (_ ∨ _))

instance : Std.Symm (Apart page) :=
  ⟨fun _ _ => Or.symm⟩

/-- Two views that have pages and lie apart start at different addresses. -/
theorem Apart.base_ne (hpage : Page.IsSize page) {v w : Shadow} (h : v.Apart page w)
    (hv : 0 < v.pages.toNat) (hw : 0 < w.pages.toNat) : v.base ≠ w.base := by
  intro heq
  have hbytes := Nat.mul_pos hv hpage.pos
  have hbytes' := Nat.mul_pos hw hpage.pos
  rw [Apart, stop, stop, heq] at h
  omega

end Shadow

/-- What is taken for granted of the views that an operating system grants: they start with a page,
they end before the address space does, and no address belongs to two of them. -/
structure ViewsApart (page : UInt64) (views : List Shadow) : Prop where
  aligned : ∀ v ∈ views, v.base % page = 0
  stop_lt : ∀ v ∈ views, v.stop page < UInt64.size
  disjoint : views.Pairwise (Shadow.Apart page)

namespace Monitor

/-! ### Operations that leave the views alone -/

section

variable (m : Monitor) (id : PoolId)

/-- To report what was found leaves the views alone. -/
theorem shadows_reported {α : Type} (r : Except Violation α) (site : Option Site) :
    (m.reported r site).2.shadows = m.shadows := by
  cases r <;> rfl

/-- So does it to ask a pool. -/
theorem shadows_askPool {α : Type} (ask : Pool → Option α × Pool) :
    (m.askPool id ask).2.shadows = m.shadows := by
  unfold askPool
  cases m.pool? id <;> rfl

/-- So does it to have one judge. -/
theorem shadows_judgeIn {α : Type} (absent : α) (judge : Pool → Except Violation α × Pool) :
    (m.judgeIn id absent judge).2.shadows = m.shadows := by
  unfold judgeIn
  cases m.pool? id <;> rfl

/-- So does it to ask the objects from outside. -/
theorem shadows_orExternal (a : Address) (r : Except Violation Verdict)
    (judge : Pool → Except Violation Verdict × Pool) :
    (m.orExternal a r judge).2.shadows = m.shadows := by
  unfold orExternal
  split
  · simp only
    split
    · split <;> rfl
    · rfl
  · rfl

/-- A registration leaves the views alone. -/
theorem shadows_register (a : Address) (size : ByteCount) (kind : ObjectKind)
    (site : Option Site) : (m.register id a size kind site).2.shadows = m.shadows := by
  unfold register
  split
  · rfl
  · split <;> rfl

/-- So does a free. -/
theorem shadows_free (a : Address) (site : Option Site) :
    (m.free id a site).2.shadows = m.shadows := by
  unfold free
  cases m.pool? id with
  | none => rfl
  | some p =>
    simp only
    rcases p.free m.numbers a site with ⟨v | _ | o, p', numbers⟩ <;> rfl

/-- So does the end of a scope. -/
theorem shadows_endScope (a : Address) : (m.endScope id a).2.shadows = m.shadows := by
  unfold endScope
  split
  · rfl
  · split <;> rfl

/-- So does a move. -/
theorem shadows_move (new old : Address) (size : ByteCount) (kind : ObjectKind)
    (site : Option Site) : (m.move id new old size kind site).2.shadows = m.shadows := by
  unfold move
  cases m.pool? id with
  | none => rfl
  | some p =>
    simp only
    rcases p.move m.numbers new old size kind site with ⟨v | _ | r, p', numbers⟩ <;> rfl

theorem shadows_reportString (memory : Address → UInt8) (a : Address) (function : String)
    (site : Option Site) (o : Option Object) :
    (m.reportString memory a function site o).2.shadows = m.shadows := by
  cases o with
  | none => rfl
  | some o => exact m.shadows_reported _ site

/-- So does the check of a string. -/
theorem shadows_checkString (memory : Address → UInt8) (a : Address) (function : String)
    (site : Option Site) : (m.checkString memory id a function site).2.shadows = m.shadows := by
  by_cases ha : a = 0
  · simp only [checkString, if_pos ha]
    rfl
  rw [m.checkString_eq id memory ha]
  have hasked : (m.countCheck.askPool id fun p => p.objectAt a).2.shadows = m.shadows :=
    m.countCheck.shadows_askPool id fun p => p.objectAt a
  rcases heq : m.countCheck.askPool id fun p => p.objectAt a with ⟨_ | o, m'⟩ <;> rw [heq] at hasked
  · exact ((m'.externalAt a).2.shadows_reportString memory a function site _).trans hasked
  · exact (m'.shadows_reportString memory a function site _).trans hasked

/-- So does a call that allocates. -/
theorem shadows_allocated (c : Call) (measure : Address → Option ByteCount) (site : Option Site) :
    (m.allocated id c measure site).2.shadows = m.shadows := by
  unfold allocated
  split
  · rfl
  · split
    · rfl
    · split
      · exact m.shadows_move id _ _ _ _ site
      · exact m.shadows_register id _ _ _ site

/-- So does one that frees. -/
theorem shadows_deallocated (c : Call) (site : Option Site) :
    (m.deallocated id c site).2.shadows = m.shadows := by
  unfold deallocated
  split
  · rfl
  · exact m.shadows_free id _ site

end

/-! ### One operation -/

/-- The view that an operation gets from the operating system. -/
def Command.view? (page : UInt64) : Command → Option Shadow
  | .shadow remap a length =>
    match pagesOf page a length with
    | .error _ => none
    | .ok (canonical, pages) =>
      match Page.request page .remap canonical pages with
      | .error _ => none
      | .ok request => (remap request).toOption.map fun base => ⟨canonical, base, pages⟩
  | _ => none

/-- Where the view starts that an operation revokes, if there is one. -/
def Command.revokedBase? (page : UInt64) : Command → Option Address
  | .unshadow _ a => some (Page.base page a)
  | _ => none

/-- An operation revokes a view if it is given an address on its first page. -/
def Command.Revokes (page : UInt64) (c : Command) (v : Shadow) : Prop :=
  c.revokedBase? page = some v.base

instance (c : Command) (v : Shadow) : Decidable (c.Revokes page v) :=
  inferInstanceAs (Decidable (_ = _))

/-- The views after an operation. A new one takes the place of one that starts at the same
address. -/
def Command.viewsAfter (page : UInt64) (c : Command) (views : List Shadow) : List Shadow :=
  match c.view? page, c.revokedBase? page with
  | some v, _ => v :: views.filter fun w => w.base ≠ v.base
  | none, some base => views.filter fun w => w.base ≠ base
  | none, none => views

/-- Revoking takes away the views that start on the page, whether that fails or not. -/
theorem shadows_unshadow (m : Monitor) (protect : Page.Request → Except Errno Unit) (a : Address) :
    (m.unshadow protect a).2.shadows =
      m.shadows.filter fun w => w.base ≠ Page.base m.pageSize a := by
  unfold unshadow
  split
  · next hnone =>
    -- no view starts there, so none is lost
    refine (List.filter_eq_self.mpr fun w hw => ?_).symm
    simpa using List.find?_eq_none.mp hnone w hw
  · next v hsome =>
    have hbase : v.base = Page.base m.pageSize a := by simpa using List.find?_some hsome
    rw [← hbase]
    simp only
    split
    · rfl
    · split <;> rfl

section

variable (m : Monitor) (remap : Page.Request → Except Errno Address) (a : Address)
  (length : ByteCount)

/-- The address that is returned is that of the first byte in the view. -/
theorem perform_shadow_eq_ok_iff {s : Address} :
    (m.perform (.shadow remap a length)).1 = .shadow (.ok s) ↔
      ∃ v, (Command.shadow remap a length).view? m.pageSize = some v ∧
        Word.sum v.base (a - v.canonical) = .ok s := by
  simp only [perform, Monitor.shadow, Command.view?]
  rcases hpages : pagesOf m.pageSize a length with e | ⟨canonical, pages⟩
  · simp
  · rcases hrequest : Page.request m.pageSize .remap canonical pages with e | request
    · simp [hrequest]
    · rcases hremap : remap request with errno | base
      · simp [hrequest, hremap, Page.answer, Except.toOption]
      · rcases hsum : Word.sum base (a - canonical) with o | s'
        · simp [hrequest, hremap, hsum, Page.answer, Except.toOption, Except.mapError]
        · simp [hrequest, hremap, hsum, Page.answer, Except.toOption, Except.mapError]

/-- Mapping adds the view that was granted, in place of any at the same pages. -/
theorem shadows_shadow : (m.perform (.shadow remap a length)).2.shadows =
    (Command.shadow remap a length).viewsAfter m.pageSize m.shadows := by
  simp only [perform, Monitor.shadow, Command.viewsAfter, Command.view?, Command.revokedBase?]
  rcases hpages : pagesOf m.pageSize a length with e | ⟨canonical, pages⟩
  · simp
  · rcases hrequest : Page.request m.pageSize .remap canonical pages with e | request
    · simp [hrequest]
    · rcases hremap : remap request with errno | base
      · simp [hrequest, hremap, Page.answer, Except.toOption]
      · simp [hrequest, hremap, Page.answer, Except.toOption]

end

/-- An operation changes the views in no other way. -/
theorem shadows_perform (m : Monitor) (c : Command) :
    (m.perform c).2.shadows = c.viewsAfter m.pageSize m.shadows := by
  cases c with
  | shadow remap a length => exact m.shadows_shadow remap a length
  | unshadow protect a => exact m.shadows_unshadow protect a
  | createPool | poolCount | poolStats | objects | externalAt | announce | canonicalOf | counters
  | report => rfl
  | destroyPool id =>
    simp only [perform, destroyPool]
    cases m.pool? id <;> rfl
  | objectAt id a => exact m.shadows_askPool id fun p => p.objectAt a
  | retainedAt id a => exact m.shadows_askPool id fun p => p.findRetained a
  | register id a size kind site => exact m.shadows_register id a size kind site
  | registerExternal a size site =>
    obtain ⟨numbers, counters, heq⟩ := m.registerExternal_eq a size site
    show (m.registerExternal a size site).2.shadows = m.shadows
    rw [heq]
  | endScope id a => exact m.shadows_endScope id a
  | free id a site => exact m.shadows_free id a site
  | move id new old size site => exact m.shadows_move id new old size .heap site
  | checkAccess id a length mode site =>
    show (m.checkAccess id a length mode site).2.shadows = m.shadows
    simp only [checkAccess, shadows_reported, shadows_orExternal, shadows_judgeIn]
    rfl
  | checkArithmetic id source dest mode site =>
    show (m.checkArithmetic id source dest mode site).2.shadows = m.shadows
    simp only [checkArithmetic, shadows_reported, shadows_orExternal, shadows_judgeIn]
    rfl
  | checkAlignment id a elementSize site =>
    show (m.checkAlignment id a elementSize site).2.shadows = m.shadows
    simp only [checkAlignment, shadows_reported, shadows_judgeIn]
    rfl
  | checkDerived base pointer size site => exact m.countCheck.shadows_reported _ site
  | checkDerivedAccess base pointer size length site => exact m.countCheck.shadows_reported _ site
  | checkCallTarget target targets provenance site =>
    cases provenance with
    | incomplete => rfl
    | complete => exact m.countCheck.shadows_reported _ site
  | checkString memory id a function site => exact m.shadows_checkString id memory a function site
  | allocated id c measure site => exact m.shadows_allocated id c measure site
  | deallocated id c site => exact m.shadows_deallocated id c site

/-! ### Runs -/

/-- The views that the operating system grants in a run. -/
def viewsIn (page : UInt64) (cs : List Command) : List Shadow :=
  cs.filterMap (Command.view? page)

/-- A view is granted for the pages that hold the bytes it is asked for. -/
theorem Command.pagesOf_of_view? {remap : Page.Request → Except Errno Address} {a : Address}
    {length : ByteCount} {v : Shadow} (h : (Command.shadow remap a length).view? page = some v) :
    v.pages ≠ 0 ∧ pagesOf page a length = .ok (v.canonical, v.pages) := by
  simp only [view?] at h
  rcases hpages : pagesOf page a length with e | ⟨canonical, pages⟩
  · rw [hpages] at h
    cases h
  · rw [hpages] at h
    simp only at h
    rcases hrequest : Page.request page .remap canonical pages with e | request
    · rw [hrequest] at h
      cases h
    · rw [hrequest] at h
      obtain ⟨base, -, rfl⟩ := Option.map_eq_some_iff.mp h
      exact ⟨(Page.request_eq_ok hrequest).1, rfl⟩

/-- Nothing but a request for a second view gets one. -/
theorem Command.eq_shadow_of_view? {c : Command} {v : Shadow} (h : c.view? page = some v) :
    ∃ remap a length, c = .shadow remap a length := by
  cases c with
  | shadow remap a length => exact ⟨remap, a, length, rfl⟩
  | _ => cases h

/-- A view that is granted has a page. -/
theorem Command.pages_pos_of_view? {c : Command} {v : Shadow} (h : c.view? page = some v) :
    0 < v.pages.toNat := by
  obtain ⟨remap, a, length, rfl⟩ := eq_shadow_of_view? h
  exact Nat.pos_of_ne_zero fun hzero => (pagesOf_of_view? h).1 (UInt64.toNat_inj.mp hzero)

/-- So has every view of a run. -/
theorem pages_pos_of_mem_viewsIn {cs : List Command} {v : Shadow} (h : v ∈ viewsIn page cs) :
    0 < v.pages.toNat := by
  obtain ⟨c, -, hc⟩ := List.mem_filterMap.mp h
  exact Command.pages_pos_of_view? hc

/-- The pages of which a view is granted lie within the address space. -/
theorem canonical_le_of_mem_viewsIn (hpage : Page.IsSize page) {cs : List Command} {v : Shadow}
    (h : v ∈ viewsIn page cs) :
    v.canonical.toNat + v.pages.toNat * page.toNat ≤ UInt64.size := by
  obtain ⟨c, -, hc⟩ := List.mem_filterMap.mp h
  obtain ⟨remap, a, length, rfl⟩ := Command.eq_shadow_of_view? hc
  exact pagesOf_stop_le hpage (Command.pagesOf_of_view? hc).2

/-- An operation adds the view that it gets and takes away the ones that start where it revokes one
or where the new one starts. -/
theorem Command.mem_viewsAfter_iff {c : Command} {views : List Shadow} {v : Shadow} :
    v ∈ c.viewsAfter page views ↔ c.view? page = some v ∨
      v ∈ views ∧ ¬ c.Revokes page v ∧ ∀ w, c.view? page = some w → v.base ≠ w.base := by
  unfold viewsAfter Revokes
  rcases hview : c.view? page with _ | w
  · rcases c.revokedBase? page with _ | base
    · simp
    · simpa using fun _ => ne_comm
  · -- no operation does both
    have hnone : c.revokedBase? page = none := by
      cases c with
      | unshadow protect a => cases hview
      | _ => rfl
    simpa [hnone] using or_congr_left eq_comm

/-- A run in two parts comes to the run of all. -/
theorem performAll_append_snd (m : Monitor) (cs cs' : List Command) :
    (m.performAll (cs ++ cs')).2 = ((m.performAll cs).2.performAll cs').2 := by
  induction cs generalizing m with
  | nil => rfl
  | cons c rest ih => exact ih (m.perform c).2

/-- Pages are as large after a run as before. -/
theorem performAll_pageSize (m : Monitor) (cs : List Command) :
    (m.performAll cs).2.pageSize = m.pageSize := by
  induction cs generalizing m with
  | nil => rfl
  | cons c rest ih => exact (ih (m.perform c).2).trans (m.perform_settings c).2

/-- The views of a run are those of its parts. -/
theorem viewsIn_append (cs cs' : List Command) :
    viewsIn page (cs ++ cs') = viewsIn page cs ++ viewsIn page cs' :=
  List.filterMap_append

end Monitor

namespace ViewsApart

variable {views : List Shadow} {v w : Shadow}

/-- Fewer views lie apart as well. -/
theorem sublist {views' : List Shadow} (h : ViewsApart page views) (hsub : views'.Sublist views) :
    ViewsApart page views' where
  aligned v hv := h.aligned v (hsub.subset hv)
  stop_lt v hv := h.stop_lt v (hsub.subset hv)
  disjoint := h.disjoint.sublist hsub

/-- No address belongs to two views. -/
theorem eq_of_contains (h : ViewsApart page views) (hv : v ∈ views) (hw : w ∈ views) {a : Nat}
    (hva : v.base.toNat ≤ a ∧ a < v.stop page) (hwa : w.base.toNat ≤ a ∧ a < w.stop page) :
    v = w := by
  by_contra hne
  rcases h.disjoint.forall hv hw hne with hbefore | hafter
  · omega
  · omega

/-- No two views that have pages start at the same address. -/
theorem eq_of_base_eq (hpage : Page.IsSize page) (h : ViewsApart page views) (hv : v ∈ views)
    (hw : w ∈ views) (hpages : 0 < v.pages.toNat) (hpages' : 0 < w.pages.toNat)
    (heq : v.base = w.base) : v = w := by
  by_contra hne
  exact (h.disjoint.forall hv hw hne).base_ne hpage hpages hpages' heq

end ViewsApart

namespace Monitor

/-- The views after a run are those that the operating system granted and that have not been revoked
since. -/
theorem mem_shadows_performAll_iff (settings : Settings) (sink : Sink) (hpage : Page.IsSize page)
    {cs : List Command} (hapart : ViewsApart page (viewsIn page cs)) {v : Shadow} :
    v ∈ ((start settings sink page).performAll cs).2.shadows ↔
      Since (fun c => c.view? page = some v) (fun c => c.Revokes page v) cs := by
  induction cs using List.reverseRecOn generalizing v with
  | nil =>
    refine iff_of_false ?_ not_since_nil
    exact List.not_mem_nil
  | append_singleton cs c ih =>
    rw [viewsIn_append] at hapart
    have hcs := ih (hapart.sublist (List.sublist_append_left ..)) (v := v)
    have hstep : ((start settings sink page).performAll (cs ++ [c])).2.shadows =
        c.viewsAfter page ((start settings sink page).performAll cs).2.shadows := by
      have hsize : ((start settings sink page).performAll cs).2.pageSize = page :=
        performAll_pageSize _ cs
      have hlast := shadows_perform ((start settings sink page).performAll cs).2 c
      rw [hsize] at hlast
      rw [performAll_append_snd]
      exact hlast
    rw [hstep, Command.mem_viewsAfter_iff, since_concat, ← hcs]
    refine or_congr_right (and_congr_right fun hv => and_iff_left fun w hw heq => ?_)
    -- a new view does not start where an old one does
    obtain ⟨c', hc', hview⟩ := (hcs.mp hv).exists_mem
    have hbefore : v ∈ viewsIn page cs := List.mem_filterMap.mpr ⟨c', hc', hview⟩
    have hlast : w ∈ viewsIn page [c] :=
      List.mem_filterMap.mpr ⟨c, List.mem_singleton_self c, hw⟩
    exact ((List.pairwise_append.mp hapart.disjoint).2.2 v hbefore w hlast).base_ne hpage
      (pages_pos_of_mem_viewsIn hbefore) (Command.pages_pos_of_view? hw) heq

end Monitor

end MemorySentry
