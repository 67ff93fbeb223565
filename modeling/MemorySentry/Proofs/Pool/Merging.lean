import MemorySentry.Monitor.Command
import MemorySentry.Proofs.Pool.Equivalence
import Mathlib.Data.List.Sort
import Mathlib.Data.Set.Insert
import Mathlib.Logic.Relation

/-!
# Merging registrations

Where all objects are of kinds that merge, a registration swallows the live objects that overlap it
and grows by them. What a run of such registrations leaves does not depend on their order: it is the
connected components of the registered spans under overlap (`IsComponent`).

`Gathers S os` is what one registration keeps: the objects hold the spans of `S`, nothing but these,
and any two spans in one object are linked by overlaps (`Gathers.register`). It determines the
objects' spans (`Gathers.isComponent_iff`), so order and repetition of the registrations do not
matter (`registerAll_components`).
-/

namespace MemorySentry

/-- Bytes that are to be registered. -/
structure ByteRange where
  /-- The address of the first byte. -/
  start : Address
  /-- The number of bytes. -/
  size : ByteCount
  /-- The place of the registration. -/
  site : Option Site := none

namespace ByteRange

/-- `s` is the span of the bytes, which are not at the null address. A span holds at least one byte
and ends at an address, so there is none for bytes that are too few or too many. -/
def Makes (r : ByteRange) (s : Span) : Prop :=
  r.start ≠ 0 ∧ s.start = r.start ∧ s.stop.toNat = r.start.toNat + r.size.toNat

/-- The spans that byte ranges make. -/
def spans (rs : List ByteRange) : Set Span :=
  {s | ∃ r ∈ rs, r.Makes s}

/-- The registration of the bytes in a pool. -/
def registration (kind : ObjectKind) (r : ByteRange) : Pool.Command :=
  .registerBytes r.start r.size kind r.site

/-- The registration of the bytes as received from outside. -/
def registrationFromOutside (r : ByteRange) : Monitor.Command :=
  .registerExternal r.start r.size r.site

end ByteRange

/-- `s` and `t` are joined by a chain of spans of `S` of which each overlaps the next one. -/
def Linked (S : Set Span) : Span → Span → Prop :=
  Relation.ReflTransGen fun s t => s ∈ S ∧ t ∈ S ∧ s.overlaps t = true

/-- `u` is the union of a connected component of `S`. -/
def IsComponent (S : Set Span) (u : Span) : Prop :=
  ∃ s ∈ S, ∀ a, u.contains a = true ↔ ∃ t, Linked S s t ∧ t.contains a = true

/-- The live objects after a run of registrations have the connected components of the registered
spans as their spans, whatever the order and the repetitions in the run. -/
structure MergesOverlaps (objectsAfter : List ByteRange → List Object) : Prop where
  /-- The order of the registrations does not matter. -/
  order : ∀ rs rs', rs.Perm rs' →
    (objectsAfter rs).map Object.span = (objectsAfter rs').map Object.span
  /-- The spans are the connected components. -/
  components : ∀ rs u, u ∈ (objectsAfter rs).map Object.span ↔ IsComponent (ByteRange.spans rs) u
  /-- Every registered address belongs to exactly one object. -/
  covered : ∀ rs, ∀ s ∈ ByteRange.spans rs, ∀ a, s.contains a = true →
    ∃! o, o ∈ objectsAfter rs ∧ o.span.contains a = true
  /-- No other address belongs to an object. -/
  uncovered : ∀ rs a, (∀ s ∈ ByteRange.spans rs, s.contains a = false) →
    ∀ o ∈ objectsAfter rs, o.span.contains a = false
  /-- Registering a range once more changes no span. -/
  again : ∀ rs, ∀ r ∈ rs,
    (objectsAfter (rs ++ [r])).map Object.span = (objectsAfter rs).map Object.span

/-! ### Chains of overlaps -/

namespace Linked

variable {S S' : Set Span} {s t : Span}

/-- Links go both ways. -/
theorem symm (h : Linked S s t) : Linked S t s := by
  have hsymm : Std.Symm fun s t : Span => s ∈ S ∧ t ∈ S ∧ s.overlaps t = true := by
    refine ⟨?_⟩
    rintro s t ⟨hs, ht, hov⟩
    exact ⟨ht, hs, by rw [Span.overlaps_comm, hov]⟩
  exact Relation.ReflTransGen.stdSymm.symm s t h

/-- Among more spans there are more links. -/
theorem mono (hsub : S ⊆ S') (h : Linked S s t) : Linked S' s t := by
  refine Relation.ReflTransGen.mono ?_ s t h
  rintro s t ⟨hs, ht, hov⟩
  exact ⟨hsub hs, hsub ht, hov⟩

/-- Spans that overlap are linked. -/
theorem of_overlaps (hs : s ∈ S) (ht : t ∈ S) (hov : s.overlaps t = true) : Linked S s t :=
  Relation.ReflTransGen.single ⟨hs, ht, hov⟩

end Linked

/-! ### What a registration keeps -/

/-- Objects of merging kinds hold the spans of `S` and nothing else, and each of them only spans
that are linked. -/
structure Gathers (S : Set Span) (os : List Object) : Prop where
  /-- All objects are of kinds that merge. -/
  merges : ∀ o ∈ os, o.kind.merges = true
  /-- Every span lies in an object. -/
  inside : ∀ s ∈ S, ∃ o ∈ os, ∀ a, s.contains a = true → o.span.contains a = true
  /-- Every address of an object is one of a span. -/
  filled : ∀ o ∈ os, ∀ a, o.span.contains a = true → ∃ s ∈ S, s.contains a = true
  /-- Spans in one object are linked. -/
  linked : ∀ o ∈ os, ∀ s ∈ S, ∀ t ∈ S, s.overlaps o.span = true → t.overlaps o.span = true →
    Linked S s t

namespace Gathers

variable {S : Set Span} {os : List Object}

/-- No spans are gathered in no objects. -/
theorem nil : Gathers ∅ [] :=
  ⟨by simp, by simp, by simp, by simp⟩

/-- A span that overlaps an object lies in it. -/
theorem within (h : Gathers S os) (hapart : Apart os) {o : Object} (ho : o ∈ os) {s : Span}
    (hs : s ∈ S) (hov : s.overlaps o.span = true) {a : Address} (ha : s.contains a = true) :
    o.span.contains a = true := by
  obtain ⟨o', ho', hsub⟩ := h.inside s hs
  obtain ⟨b, hsb, hob⟩ := Span.overlaps_iff_exists_contains.mp hov
  -- the object that holds the span shares an address with this one
  obtain rfl := hapart.eq_of_contains ho' ho (hsub b hsb) hob
  exact hsub a ha

/-- An object has the addresses of the component of any span in it. -/
theorem contains_iff (h : Gathers S os) (hapart : Apart os) {o : Object} (ho : o ∈ os) {s : Span}
    (hs : s ∈ S) (hov : s.overlaps o.span = true) {a : Address} :
    o.span.contains a = true ↔ ∃ t, Linked S s t ∧ t.contains a = true := by
  constructor
  · intro ha
    obtain ⟨t, ht, hta⟩ := h.filled o ho a ha
    exact ⟨t, h.linked o ho s hs t ht hov (Span.overlaps_of_contains hta ha), hta⟩
  · rintro ⟨t, hlinked, hta⟩
    -- a chain of overlaps that starts in the object stays in it
    have hstays : t ∈ S ∧ t.overlaps o.span = true := by
      clear hta
      induction hlinked with
      | refl => exact ⟨hs, hov⟩
      | @tail t t' _ hstep ih =>
        obtain ⟨-, ht', htt'⟩ := hstep
        obtain ⟨b, htb, htb'⟩ := Span.overlaps_iff_exists_contains.mp htt'
        exact ⟨ht', Span.overlaps_of_contains htb' (h.within hapart ho ih.1 ih.2 htb)⟩
    exact h.within hapart ho hstays.1 hstays.2 hta

/-- The spans of the objects are the components. -/
theorem isComponent_iff (h : Gathers S os) (hapart : Apart os) {u : Span} :
    u ∈ os.map Object.span ↔ IsComponent S u := by
  constructor
  · intro hu
    obtain ⟨o, ho, rfl⟩ := List.mem_map.mp hu
    obtain ⟨s, hs, hstart⟩ := h.filled o ho o.span.start o.span.contains_start
    have hov := Span.overlaps_of_contains hstart o.span.contains_start
    exact ⟨s, hs, fun a => h.contains_iff hapart ho hs hov⟩
  · rintro ⟨s, hs, hcomponent⟩
    obtain ⟨o, ho, hsub⟩ := h.inside s hs
    have hov := Span.overlaps_of_contains s.contains_start (hsub s.start s.contains_start)
    -- a span is known by its addresses
    have heq : u = o.span := Span.eq_of_contains_iff fun a => by
      rw [hcomponent a, h.contains_iff hapart ho hs hov]
    exact List.mem_map.mpr ⟨o, ho, heq.symm⟩

section Registration

variable {q : LinearPool} {numbers : Numbering} {s : Span} {kind : ObjectKind} {site : Option Site}

/-- Among objects that merge, all that overlap the span are taken in. -/
theorem mem_members_iff (h : Gathers S q.live) (hkind : kind.merges = true) {o : Object} :
    o ∈ q.members s kind ↔ o ∈ q.live ∧ o.span.overlaps s = true := by
  rw [LinearPool.mem_members, and_iff_left_iff_imp]
  rintro ⟨ho, -⟩
  exact ⟨hkind, h.merges o ho⟩

/-- Every span in the new object is linked to the registered one. -/
theorem linked_newcomer (h : Gathers S q.live) (hkind : kind.merges = true) {t : Span}
    (ht : t ∈ insert s S) (hov : t.overlaps (q.newcomer numbers s kind site).span = true) :
    Linked (insert s S) t s := by
  have hs : s ∈ insert s S := Set.mem_insert s S
  have hsub : S ⊆ insert s S := Set.subset_insert s S
  rcases Set.mem_insert_iff.mp ht with rfl | hold
  · exact Relation.ReflTransGen.refl
  rcases LinearPool.overlaps_newcomer_iff.mp hov with hts | ⟨o, ho, hto⟩
  · exact Linked.of_overlaps ht hs hts
  · -- the object taken in has a span at an address that it shares with the registered one
    obtain ⟨hlive, hos⟩ := (h.mem_members_iff hkind).mp ho
    obtain ⟨a, hoa, hsa⟩ := Span.overlaps_iff_exists_contains.mp hos
    obtain ⟨t', ht', hta⟩ := h.filled o hlive a hoa
    have hlinked := h.linked o hlive t hold t' ht' hto (Span.overlaps_of_contains hta hoa)
    exact (hlinked.mono hsub).trans
      (Linked.of_overlaps (hsub ht') hs (Span.overlaps_of_contains hta hsa))

/-- A registration of a kind that merges adds its span. -/
theorem register (h : Gathers S q.live) (hkind : kind.merges = true) :
    Gathers (insert s S) (q.register numbers s kind site).2.1.live := by
  have hsub : S ⊆ insert s S := Set.subset_insert s S
  refine ⟨fun o ho => ?_, fun t ht => ?_, fun o ho a ha => ?_, fun o ho t ht t' ht' hov hov' => ?_⟩
  · rcases LinearPool.mem_register_live.mp ho with rfl | ⟨hlive, -⟩
    · -- the new object is of the registered kind, or of that of an object it took in
      rcases q.newcomer_cases numbers s kind site with ⟨o, ho, hnew⟩ | hnew
      · rw [hnew]
        exact (LinearPool.mem_members.mp ho).2.2
      · rw [hnew]
        exact hkind
    · exact h.merges o hlive
  · have hnew : q.newcomer numbers s kind site ∈ (q.register numbers s kind site).2.1.live :=
      LinearPool.mem_register_live.mpr (Or.inl rfl)
    rcases Set.mem_insert_iff.mp ht with rfl | ht
    · exact ⟨_, hnew, fun a ha => LinearPool.contains_newcomer_iff.mpr (Or.inl ha)⟩
    · obtain ⟨o, ho, hwithin⟩ := h.inside t ht
      cases hov : o.span.overlaps s with
      | false => exact ⟨o, LinearPool.mem_register_live.mpr (Or.inr ⟨ho, hov⟩), hwithin⟩
      | true =>
        have hmember := (h.mem_members_iff hkind).mpr ⟨ho, hov⟩
        exact ⟨_, hnew, fun a ha =>
          LinearPool.contains_newcomer_iff.mpr (Or.inr ⟨o, hmember, hwithin a ha⟩)⟩
  · rcases LinearPool.mem_register_live.mp ho with rfl | ⟨hlive, -⟩
    · rcases LinearPool.contains_newcomer_iff.mp ha with hsa | ⟨o, ho, hoa⟩
      · exact ⟨s, Set.mem_insert s S, hsa⟩
      · obtain ⟨t, ht, hta⟩ := h.filled o ((h.mem_members_iff hkind).mp ho).1 a hoa
        exact ⟨t, hsub ht, hta⟩
    · obtain ⟨t, ht, hta⟩ := h.filled o hlive a ha
      exact ⟨t, hsub ht, hta⟩
  · rcases LinearPool.mem_register_live.mp ho with rfl | ⟨hlive, hoff⟩
    · exact (h.linked_newcomer hkind ht hov).trans (h.linked_newcomer hkind ht' hov').symm
    · -- an object that stays is apart from the registered span
      have hold : ∀ t ∈ insert s S, t.overlaps o.span = true → t ∈ S := by
        intro t ht hov
        rcases Set.mem_insert_iff.mp ht with rfl | ht
        · rw [Span.overlaps_comm, hoff] at hov
          cases hov
        · exact ht
      exact (h.linked o hlive t (hold t ht hov) t' (hold t' ht' hov') hov hov').mono hsub

end Registration

end Gathers

/-! ### Runs of registrations -/

namespace ByteRange

/-- A range makes a span if it does not start at the null address and has bytes that all fit. -/
theorem makes_iff {r : ByteRange} {s : Span} :
    r.Makes s ↔ r.start ≠ 0 ∧ Span.ofLength r.start r.size = .ok s := by
  rw [Makes, Span.ofLength_eq_ok_iff]

/-- No ranges make no spans. -/
theorem spans_nil : spans [] = ∅ := by
  simp [spans]

theorem spans_cons_of_makes {r : ByteRange} {s : Span} (h : r.Makes s) (rs : List ByteRange) :
    spans (r :: rs) = insert s (spans rs) := by
  ext t
  have hunique : r.Makes t ↔ t = s := by
    constructor
    · intro ht
      have heq := (makes_iff.mp ht).2
      rw [(makes_iff.mp h).2] at heq
      exact (Except.ok.inj heq).symm
    · rintro rfl
      exact h
  simp [spans, hunique]

theorem spans_cons_of_not_makes {r : ByteRange} (h : ∀ s, ¬ r.Makes s) (rs : List ByteRange) :
    spans (r :: rs) = spans rs := by
  ext t
  simp [spans, h]

/-- Only the ranges count that are in a list, not their order or number. -/
theorem spans_congr {rs rs' : List ByteRange} (h : ∀ r, r ∈ rs ↔ r ∈ rs') :
    spans rs = spans rs' := by
  ext s
  simp [spans, h]

/-- A registration of bytes registers the span that they make, and does nothing if there is none. -/
theorem perform_registration (q : LinearPool) (numbers : Numbering) (kind : ObjectKind)
    (r : ByteRange) :
    (∃ s, r.Makes s ∧
      (q.perform numbers (r.registration kind)).2 = (q.register numbers s kind r.site).2) ∨
    (∀ s, ¬ r.Makes s) ∧ (q.perform numbers (r.registration kind)).2 = (q, numbers) := by
  simp only [registration, LinearPool.perform, LinearPool.registerBytes, makes_iff]
  cases hspan : Span.ofLength r.start r.size with
  | error e => exact Or.inr ⟨by simp, rfl⟩
  | ok s =>
    by_cases hnull : r.start = 0
    · exact Or.inr ⟨by simp [hnull], by simp [hnull]⟩
    · exact Or.inl ⟨s, ⟨hnull, rfl⟩, by simp [hnull]⟩

end ByteRange

open ByteRange

/-- A run of registrations adds the spans that are registered. -/
theorem Gathers.performAll {S : Set Span} {q : LinearPool} (h : Gathers S q.live)
    (numbers : Numbering) {kind : ObjectKind} (hkind : kind.merges = true) (rs : List ByteRange) :
    Gathers (S ∪ spans rs) (q.performAll numbers (rs.map (registration kind))).2.1.live := by
  induction rs generalizing S q numbers with
  | nil =>
    rw [spans_nil, Set.union_empty]
    exact h
  | cons r rest ih =>
    have hrun : (q.performAll numbers ((r :: rest).map (registration kind))).2 =
        ((q.perform numbers (r.registration kind)).2.1.performAll
          (q.perform numbers (r.registration kind)).2.2 (rest.map (registration kind))).2 := rfl
    rw [hrun]
    rcases perform_registration q numbers kind r with ⟨s, hmakes, heq⟩ | ⟨hnone, heq⟩
    · rw [heq, spans_cons_of_makes hmakes, Set.union_insert, ← Set.insert_union]
      exact ih (h.register hkind) _
    · rw [heq, spans_cons_of_not_makes hnone]
      exact ih h numbers

/-- What holds the registered spans in ascending order has the components as its spans. -/
theorem mergesOverlaps_of_gathers {objectsAfter : List ByteRange → List Object}
    (hgathers : ∀ rs, Gathers (spans rs) (objectsAfter rs))
    (hascending : ∀ rs, SpanMap.Ascending ((objectsAfter rs).map Object.entry)) :
    MergesOverlaps objectsAfter := by
  have hapart : ∀ rs, Apart (objectsAfter rs) := fun rs => ascending_entries_apart (hascending rs)
  have hcomponents : ∀ rs u, u ∈ (objectsAfter rs).map Object.span ↔ IsComponent (spans rs) u :=
    fun rs u => (hgathers rs).isComponent_iff (hapart rs)
  -- ascending lists with the same members are the same
  have hcongr : ∀ rs rs', (∀ r, r ∈ rs ↔ r ∈ rs') →
      (objectsAfter rs).map Object.span = (objectsAfter rs').map Object.span := by
    intro rs rs' hmem
    have hirrefl : Std.Irrefl Span.Before := ⟨Span.Before.irrefl⟩
    have hantisymm : Std.Antisymm Span.Before :=
      ⟨fun s t hst hts => absurd (hst.trans hts) (Span.Before.irrefl s)⟩
    have hsorted : ∀ rs, ((objectsAfter rs).map Object.span).Pairwise Span.Before := by
      intro rs
      have hpairs := List.pairwise_map.mp (hascending rs)
      exact List.pairwise_map.mpr hpairs
    refine (hsorted rs).eq_of_mem_iff (hsorted rs') fun u => ?_
    rw [hcomponents, hcomponents, spans_congr hmem]
  refine ⟨fun rs rs' hperm => hcongr rs rs' fun r => hperm.mem_iff, hcomponents, ?_, ?_, ?_⟩
  · intro rs s hs a ha
    obtain ⟨o, ho, hwithin⟩ := (hgathers rs).inside s hs
    refine ⟨o, ⟨ho, hwithin a ha⟩, ?_⟩
    rintro o' ⟨ho', ha'⟩
    exact (hapart rs).eq_of_contains ho' ho ha' (hwithin a ha)
  · intro rs a hnone o ho
    rw [← Bool.not_eq_true]
    intro ha
    obtain ⟨s, hs, hsa⟩ := (hgathers rs).filled o ho a ha
    rw [hnone s hs] at hsa
    cases hsa
  · intro rs r hr
    refine hcongr (rs ++ [r]) rs fun r' => ?_
    rw [List.mem_append, List.mem_singleton, or_iff_left_iff_imp]
    rintro rfl
    exact hr

/-- A pool without live objects merges what is registered in it. -/
theorem Pool.Refines.mergesOverlaps {p : Pool} {q : LinearPool} (h : p.Refines q)
    (hempty : q.live = []) (numbers : Numbering) {kind : ObjectKind} (hkind : kind.merges = true) :
    MergesOverlaps fun rs =>
      (p.performAll numbers (rs.map (registration kind))).2.1.objects := by
  have hobjects : ∀ rs : List ByteRange,
      (p.performAll numbers (rs.map (registration kind))).2.1.objects =
      (q.performAll numbers (rs.map (registration kind))).2.1.live := fun rs =>
    (Pool.performAll_refines h numbers (rs.map (registration kind))).2.1.objects
  simp only [hobjects]
  refine mergesOverlaps_of_gathers (fun rs => ?_) fun rs => ?_
  · have hnone : Gathers ∅ q.live := by
      rw [hempty]
      exact .nil
    have hrun := hnone.performAll numbers hkind rs
    rw [Set.empty_union] at hrun
    exact hrun
  · exact (Pool.performAll_refines h numbers (rs.map (registration kind))).2.1.valid.ascending

/-- What is registered as received from outside is registered in the pool of the objects from
outside. -/
theorem Monitor.performAll_registrationFromOutside (m : Monitor) (rs : List ByteRange) :
    (m.performAll (rs.map registrationFromOutside)).2.external =
      (m.external.performAll m.numbers (rs.map (registration .external))).2.1 := by
  induction rs generalizing m with
  | nil => rfl
  | cons r rest ih =>
    simp only [List.map_cons, Monitor.performAll, Pool.performAll, ih]
    simp only [registrationFromOutside, registration, Monitor.perform, Monitor.registerExternal,
      Pool.perform]
    rcases m.external.registerBytes m.numbers r.start r.size .external r.site with
      ⟨_ | registration, external, numbers⟩ <;> rfl

/-- Registrations of global objects, of objects on the stack or of memory from outside, in any order
and in a pool that holds no live object, leave objects whose spans are the connected components of
the registered spans, and so do registrations of memory from outside in a new monitor. -/
theorem registerAll_components :
    (∀ (retention : Retention) (numbers : Numbering) (before : List Pool.Command)
      (kind : ObjectKind), kind = .global ∨ kind = .stack ∨ kind = .external →
      (({ retention } : Pool).performAll numbers before).2.1.objects = [] →
      MergesOverlaps fun rs =>
        ((({ retention } : Pool).performAll numbers before).2.1.performAll
          (({ retention } : Pool).performAll numbers before).2.2
          (rs.map (registration kind))).2.1.objects) ∧
    ∀ (settings : Settings) (sink : Sink) (page : UInt64),
      MergesOverlaps fun rs =>
        ((Monitor.start settings sink page).performAll
          (rs.map registrationFromOutside)).2.external.objects := by
  constructor
  · intro retention numbers before kind hkind hempty
    have h := (Pool.performAll_refines (Pool.refines_empty retention) numbers before).2.1
    have hmerges : kind.merges = true := by
      rcases hkind with rfl | rfl | rfl <;> rfl
    exact h.mergesOverlaps (h.objects.symm.trans hempty) _ hmerges
  · intro settings sink page
    simp only [Monitor.performAll_registrationFromOutside]
    exact (Pool.refines_empty .immediate).mergesOverlaps rfl _ rfl

/-- A pool that has freed its only object registers three frames, of which two overlap and the third
is adjacent to them. In any order they leave two objects. -/
theorem registerAll_components_adjacent_frames :
    let pool := (({ retention := .keep 2 } : Pool).performAll {}
      [.registerBytes 4096 64 .heap none, .free 4096 none]).2
    let objectsAfter := fun rs : List ByteRange =>
      (pool.1.performAll pool.2 (rs.map (registration .stack))).2.1.objects
    pool.1.objects = [] ∧
      (objectsAfter [⟨4200, 8, none⟩, ⟨4140, 60, none⟩, ⟨4096, 64, none⟩]).map Object.span =
        (objectsAfter [⟨4140, 60, none⟩, ⟨4200, 8, none⟩, ⟨4096, 64, none⟩]).map Object.span ∧
      IsComponent (spans [⟨4200, 8, none⟩, ⟨4140, 60, none⟩, ⟨4096, 64, none⟩])
        ⟨4096, 4200, by decide⟩ := by
  intro pool objectsAfter
  have hempty : pool.1.objects = [] := by decide +kernel
  have hmerges : MergesOverlaps objectsAfter :=
    registerAll_components.1 (.keep 2) {} [.registerBytes 4096 64 .heap none, .free 4096 none]
      .stack (Or.inr (Or.inl rfl)) hempty
  have hspans : (objectsAfter [⟨4200, 8, none⟩, ⟨4140, 60, none⟩, ⟨4096, 64, none⟩]).map
      Object.span = [⟨4096, 4200, by decide⟩, ⟨4200, 4208, by decide⟩] := by decide +kernel
  refine ⟨hempty, hmerges.order _ _ (List.Perm.swap _ _ _), (hmerges.components _ _).mp ?_⟩
  rw [hspans]
  exact List.mem_cons_self

end MemorySentry
