import MemorySentry.Pool.Check
import MemorySentry.Pool.Registration
import MemorySentry.Proofs.SpanMap.Naturality

/-!
# Pools without sites

An object keeps the sites of its allocation and its free, and a violation shows them. They are
carried along and nothing looks at them: an operation does to a pool without sites what it does to
the pool, and answers the same without sites (`Pool.free_unsited`, `Pool.registerBytes_unsited`,
`Pool.checkAccess_unsited` and the others). The law is an equation, so it also says that the maps
keep their shape and that the same numbers are drawn.
-/

namespace MemorySentry

/-- The object without the sites of its allocation and of its free. -/
def Object.unsited (o : Object) : Object :=
  { o with allocSite := none, release := o.release.map fun r => { r with site := none } }

/-- The registration without the sites of the object that it replaced. -/
def Registration.unsited : Registration → Registration
  | .replaced s previous => .replaced s previous.unsited
  | r => r

/-- The violation without its site, the program counter there and the sites of its object. -/
def Violation.unsited (v : Violation) : Violation :=
  { v with pc := 0, site := none, history := v.history.map Object.unsited }

/-- A result without sites, where `f` takes them out of what is returned. -/
def unsitedResult {α : Type} (f : α → α) (r : Except Violation α) : Except Violation α :=
  (r.map f).mapError Violation.unsited

/-- The registration under way without sites. -/
def Pool.Intake.unsited (intake : Pool.Intake) : Pool.Intake :=
  { intake with
    object := intake.object.unsited, previous := intake.previous.map Object.unsited }

/-- The pool without the sites of its objects. -/
def Pool.unsited (p : Pool) : Pool :=
  { p with
    live := p.live.map Object.unsited
    retained := p.retained.map Object.unsited
    recent := p.recent.map Object.unsited
    earlier := p.earlier.map Object.unsited }

@[simp]
theorem Object.unsited_span (o : Object) : o.unsited.span = o.span := rfl

@[simp]
theorem Object.unsited_kind (o : Object) : o.unsited.kind = o.kind := rfl

@[simp]
theorem Object.unsited_allocId (o : Object) : o.unsited.allocId = o.allocId := rfl

/-- An object is retired alike with a site and without one. -/
theorem Object.unsited_retire (o : Object) (id : Nat) (site : Option Site) :
    (o.retire id site).unsited = o.unsited.retire id none := rfl

theorem unsitedResult_ok {α : Type} (f : α → α) (a : α) :
    unsitedResult f (.ok a) = .ok (f a) := rfl

theorem unsitedResult_error {α : Type} (f : α → α) (v : Violation) :
    unsitedResult f (.error v) = .error v.unsited := rfl

namespace Pool

/-- A pool without objects has no sites. -/
theorem fresh_unsited (retention : Retention) :
    ({ retention } : Pool).unsited = { retention } := by
  have hempty : SpanMap.map Object.unsited {} = {} := SpanMap.map_empty Object.unsited
  simp only [unsited, hempty, Option.map_none]

/-! ### Looking up -/

/-- Whether an object at hand covers an address does not depend on sites. -/
theorem covering?_unsited (o : Option Object) (a : Address) :
    covering? (o.map Object.unsited) a = (covering? o a).map Object.unsited := by
  unfold covering?
  rw [Option.filter_map]
  rfl

section

variable (p : Pool)

/-- A look-up without what is at hand finds the same without sites. -/
theorem find_unsited (a : Address) :
    p.unsited.find a = ((p.find a).1.map Object.unsited, (p.find a).2.unsited) := by
  have hrecent := covering?_unsited p.recent a
  have hearlier := covering?_unsited p.earlier a
  unfold find
  simp only [unsited, hrecent, hearlier, SpanMap.lookup_map]
  -- the two objects that were found last are tried before the map
  cases covering? p.recent a with
  | some o => rfl
  | none =>
    cases covering? p.earlier a with
    | some o => rfl
    | none => rcases p.live.lookup a with ⟨_ | ⟨s, o⟩, live⟩ <;> rfl

/-- So does a look-up with it, which leaves the same at hand. -/
theorem objectAt_unsited (a : Address) :
    p.unsited.objectAt a = ((p.objectAt a).1.map Object.unsited, (p.objectAt a).2.unsited) :=
  p.find_unsited a

/-- So does one among the retained objects. -/
theorem findRetained_unsited (a : Address) :
    p.unsited.findRetained a =
      ((p.findRetained a).1.map Object.unsited, (p.findRetained a).2.unsited) := by
  unfold findRetained
  simp only [unsited, SpanMap.lookup_map]
  rcases p.retained.lookup a with ⟨_ | ⟨s, o⟩, retained⟩ <;> rfl

/-- Without sites, the live objects are those without sites. -/
theorem objects_unsited : p.unsited.objects = p.objects.map Object.unsited := by
  simp only [objects, unsited, SpanMap.toList_map, List.map_map]
  rfl

theorem forgetRecent_unsited : p.unsited.forgetRecent = p.forgetRecent.unsited := rfl

end

/-! ### Retained objects -/

/-- The retained objects that a span overlaps are dropped alike. -/
theorem dropOverlapping_unsited (s : Span) (n : Nat) (retained : SpanMap Object)
    (quarantine : List (Address × Nat)) :
    dropOverlapping s n (retained.map Object.unsited) quarantine =
      ((dropOverlapping s n retained quarantine).1.map Object.unsited,
        (dropOverlapping s n retained quarantine).2) := by
  induction n generalizing retained quarantine with
  | zero => rfl
  | succ n ih =>
    unfold dropOverlapping
    rw [SpanMap.firstOverlapping_map]
    rcases retained.firstOverlapping s with ⟨_ | ⟨stale, o⟩, retained⟩
    · rfl
    · simp only [Option.map_some, Prod.map_apply, id, SpanMap.remove_map, Object.unsited_allocId]
      rcases retained.remove stale with ⟨e | removed, retained⟩
      · rfl
      · exact ih _ _

/-- A new span evicts the same retained objects without sites. -/
theorem evictRetained_unsited (p : Pool) (s : Span) :
    p.unsited.evictRetained s = (p.evictRetained s).unsited := by
  unfold evictRetained
  simp only [unsited, SpanMap.size_map, dropOverlapping_unsited]

/-- The oldest retained objects go first, whatever their sites are. -/
theorem trim_unsited (most : Nat) (quarantine : List (Address × Nat)) (retained : SpanMap Object) :
    trim most quarantine (retained.map Object.unsited) =
      ((trim most quarantine retained).1,
        (trim most quarantine retained).2.map Object.unsited) := by
  induction quarantine generalizing retained with
  | nil => rfl
  | cons e rest ih =>
    obtain ⟨base, number⟩ := e
    unfold trim
    rw [SpanMap.size_map]
    split
    · rw [SpanMap.lookup_map]
      rcases retained.lookup base with ⟨_ | ⟨s, o⟩, retained⟩
      · exact ih retained
      · simp only [Option.map_some, Prod.map_apply, id, SpanMap.removeAt_map]
        rw [Object.unsited_allocId]
        split
        · exact ih _
        · exact ih _
    · rfl

/-- An object is retained alike without sites. -/
theorem retain_unsited (p : Pool) (o : Object) (most : Nat) :
    p.unsited.retain o.unsited most = (p.retain o most).unsited := by
  unfold retain
  simp only [Object.unsited_span, Object.unsited_allocId, evictRetained_unsited]
  generalize p.evictRetained o.span = p
  simp only [unsited, SpanMap.insert_map]
  rcases p.retained.insert o.span o with ⟨e | ⟨⟩, retained⟩ <;> simp only [trim_unsited]

/-- To retire an object leaves the same pool and draws the same number without a site. -/
theorem retire_unsited (p : Pool) (numbers : Numbering) (o : Object) (site : Option Site) :
    p.unsited.retire numbers o.unsited none =
      ((p.retire numbers o site).1.unsited, (p.retire numbers o site).2.1.unsited,
        (p.retire numbers o site).2.2) := by
  unfold retire
  have hretention : p.unsited.retention = p.retention := rfl
  rw [hretention]
  split
  · simp only [← Object.unsited_retire o numbers.nextFree site, retain_unsited]
  · rfl

/-! ### Registering -/

/-- A registration takes in the same objects without sites. -/
theorem absorb_unsited (kind : ObjectKind) (n : Nat) (live : SpanMap Object) (intake : Intake) :
    absorb kind n (live.map Object.unsited) intake.unsited =
      ((absorb kind n live intake).1.map Object.unsited,
        (absorb kind n live intake).2.unsited) := by
  induction n generalizing live intake with
  | zero => rfl
  | succ n ih =>
    have hspan : intake.unsited.object.span = intake.object.span := rfl
    unfold absorb
    rw [hspan, SpanMap.firstOverlapping_map]
    rcases live.firstOverlapping intake.object.span with ⟨_ | ⟨s, existing⟩, live⟩
    · rfl
    · simp only [Option.map_some, Prod.map_apply, id, SpanMap.remove_map]
      rcases live.remove s with ⟨e | removed, live⟩
      · rfl
      · simp only [Except.map]
        rw [Object.unsited_kind]
        -- the object is merged with the one under way, or gives way to it
        split
        · exact ih live { intake with
            object := { existing with span := intake.object.span.hull s }, merged := true }
        · exact ih live { intake with previous := some existing }

/-- A registration says and leaves the same without sites. -/
theorem register_unsited (p : Pool) (numbers : Numbering) (s : Span) (kind : ObjectKind)
    (site : Option Site) :
    p.unsited.register numbers s kind none =
      ((p.register numbers s kind site).1.unsited, (p.register numbers s kind site).2.1.unsited,
        (p.register numbers s kind site).2.2) := by
  -- what is registered without a site is what is registered with one, before anything is absorbed
  have hfresh :
      ({ object := { span := s, kind, allocId := numbers.nextAlloc, allocSite := none } } :
          Intake) =
        Intake.unsited
          { object := { span := s, kind, allocId := numbers.nextAlloc, allocSite := site } } := rfl
  unfold register
  simp only [forgetRecent_unsited, evictRetained_unsited, hfresh]
  generalize p.forgetRecent.evictRetained s = p
  have hlive : p.unsited.live = p.live.map Object.unsited := rfl
  rw [hlive, SpanMap.size_map, absorb_unsited]
  rcases absorb kind (p.live.size + 1) p.live
    { object := { span := s, kind, allocId := numbers.nextAlloc, allocSite := site } } with
    ⟨live, object, merged, previous⟩
  have hevict :
      ({ p.unsited with live := live.map Object.unsited } : Pool).evictRetained object.span =
        (({ p with live } : Pool).evictRetained object.span).unsited :=
    ({ p with live } : Pool).evictRetained_unsited object.span
  simp only [Intake.unsited, Object.unsited_span, hevict]
  generalize ({ p with live } : Pool).evictRetained object.span = p
  simp only [unsited, SpanMap.insert_map]
  cases merged <;> cases previous <;> rfl

/-- So does one of some bytes from an address on. -/
theorem registerBytes_unsited (p : Pool) (numbers : Numbering) (a : Address) (size : ByteCount)
    (kind : ObjectKind) (site : Option Site) :
    p.unsited.registerBytes numbers a size kind none =
      ((p.registerBytes numbers a size kind site).1.map Registration.unsited,
        (p.registerBytes numbers a size kind site).2.1.unsited,
        (p.registerBytes numbers a size kind site).2.2) := by
  unfold registerBytes
  split
  · rfl
  · cases Span.ofLength a size with
    | error e => rfl
    | ok s =>
      simp only [register_unsited p numbers s kind site]
      rfl

/-! ### Freeing -/

/-- A stray free is reported alike without sites. -/
theorem strayFree_unsited (a : Address) (freed : Option Object) :
    strayFree a (freed.map Object.unsited) = (strayFree a freed).unsited := by
  cases freed <;> rfl

/-- A free says and leaves the same without sites. -/
theorem free_unsited (p : Pool) (numbers : Numbering) (a : Address) (site : Option Site) :
    p.unsited.free numbers a none =
      (unsitedResult (Option.map Object.unsited) (p.free numbers a site).1,
        (p.free numbers a site).2.1.unsited, (p.free numbers a site).2.2) := by
  unfold free
  split
  · rfl
  rw [find_unsited]
  rcases p.find a with ⟨_ | o, p⟩
  · simp only [Option.map_none, findRetained_unsited, strayFree_unsited]
    rfl
  · simp only [Option.map_some]
    rw [Object.unsited_kind, Object.unsited_span]
    split
    · rfl
    · split
      · rfl
      · have hdropped :
            ({ p.unsited.forgetRecent with
                live := (p.unsited.forgetRecent.live.removeAt a).2 } : Pool) =
              ({ p.forgetRecent with
                live := (p.forgetRecent.live.removeAt a).2 } : Pool).unsited := by
          simp only [forgetRecent, unsited, SpanMap.removeAt_map]
          rfl
        simp only [hdropped, retire_unsited _ numbers o site]
        rfl

/-- So does the end of a scope. -/
theorem endScope_unsited (p : Pool) (a : Address) :
    p.unsited.endScope a = ((p.endScope a).1.map Object.unsited, (p.endScope a).2.unsited) := by
  unfold endScope
  simp only [forgetRecent, unsited, SpanMap.removeAt_map]
  rcases p.live.removeAt a with ⟨e | ⟨s, o⟩, live⟩ <;> rfl

/-- So does a move. -/
theorem move_unsited (p : Pool) (numbers : Numbering) (new old : Address) (size : ByteCount)
    (kind : ObjectKind) (site : Option Site) :
    p.unsited.move numbers new old size kind none =
      (unsitedResult (Option.map Registration.unsited) (p.move numbers new old size kind site).1,
        (p.move numbers new old size kind site).2.1.unsited,
        (p.move numbers new old size kind site).2.2) := by
  unfold move
  rw [registerBytes_unsited p numbers new size kind site, free_unsited p numbers old site]
  -- nothing to free, nothing to register, no new place, or a free and then a registration
  split
  · rfl
  split
  · rcases p.free numbers old site with ⟨v | freed, p, numbers⟩ <;> rfl
  split
  · rfl
  rcases p.free numbers old site with ⟨v | freed, p, numbers⟩
  · rfl
  · simp only [unsitedResult_ok, registerBytes_unsited p numbers new size kind site]

/-! ### Checks -/

/-- An access to no live object is judged alike without sites. -/
theorem judgeMiss_unsited (provenance : Provenance) (a : Address) (freed : Option Object) :
    judgeMiss provenance a (freed.map Object.unsited) =
      unsitedResult id (judgeMiss provenance a freed) := by
  cases provenance with
  | incomplete => cases freed <;> rfl
  | complete =>
    unfold judgeMiss
    simp only
    split
    · rfl
    · cases freed <;> rfl

/-- What is said to an access does not depend on sites. -/
theorem checkAccess_unsited (p : Pool) (a : Address) (length : ByteCount) (mode : CheckMode) :
    p.unsited.checkAccess a length mode =
      (unsitedResult id (p.checkAccess a length mode).1,
        (p.checkAccess a length mode).2.unsited) := by
  unfold checkAccess
  split
  · rfl
  rw [find_unsited]
  rcases p.find a with ⟨_ | o, p⟩
  · simp only [Option.map_none, findRetained_unsited, judgeMiss_unsited]
  · simp only [Option.map_some]
    rw [Object.unsited_span]
    split <;> rfl

/-- Nor does what is said to an aligned pointer. -/
theorem checkAlignment_unsited (p : Pool) (a : Address) (elementSize : ByteCount) :
    p.unsited.checkAlignment a elementSize =
      (unsitedResult id (p.checkAlignment a elementSize).1,
        (p.checkAlignment a elementSize).2.unsited) := by
  unfold checkAlignment
  split
  · rfl
  rw [find_unsited]
  rcases p.find a with ⟨_ | o, p⟩
  · rfl
  · simp only [Option.map_some]
    rw [Object.unsited_span]
    split <;> rfl

/-- Arithmetic on no live object is judged alike without sites. -/
theorem judgeStrayArithmetic_unsited (provenance : Provenance) (source dest : Address)
    (freed : Option Object) :
    judgeStrayArithmetic provenance source dest (freed.map Object.unsited) =
      unsitedResult id (judgeStrayArithmetic provenance source dest freed) := by
  cases provenance <;> cases freed <;> rfl

/-- What is said to arithmetic does not depend on sites. -/
theorem checkArithmetic_unsited (p : Pool) (source dest : Address) (mode : CheckMode) :
    p.unsited.checkArithmetic source dest mode =
      (unsitedResult id (p.checkArithmetic source dest mode).1,
        (p.checkArithmetic source dest mode).2.unsited) := by
  unfold checkArithmetic
  rw [find_unsited]
  rcases p.find source with ⟨_ | o, p⟩
  · simp only [Option.map_none]
    split
    · rfl
    · simp only [findRetained_unsited, judgeStrayArithmetic_unsited]
  · simp only [Option.map_some]
    rw [Object.unsited_span]
    split <;> rfl

end Pool

end MemorySentry
