import MemorySentry.Proofs.Pool.AtHand

/-!
# Pools without numbers

Allocations and frees are numbered, and the numbers are shown with the objects. Nothing but what is
shown depends on them: without its numbers, an operation answers the same on a pool and on the same
pool without its numbers, whatever numbers it draws itself (`LinearPool.perform_unnumbered`). So two
pools that differ only in numbers go on to differ only in numbers (`Pool.Alike.perform`).
-/

namespace MemorySentry

/-- The object without its numbers. -/
def Object.unnumbered (o : Object) : Object :=
  { o with allocId := 0, release := o.release.map fun r => { r with id := 0 } }

/-- The registration without the numbers of the object that it replaced. -/
def Registration.unnumbered : Registration → Registration
  | .replaced s previous => .replaced s previous.unnumbered
  | r => r

/-- The violation without the numbers of its object. -/
def Violation.unnumbered (v : Violation) : Violation :=
  { v with history := v.history.map Object.unnumbered }

/-- A result without numbers. -/
def unnumberedResult {α : Type} (f : α → α) (r : Except Violation α) : Except Violation α :=
  (r.map f).mapError Violation.unnumbered

/-- The answer without numbers. -/
def Pool.Answer.unnumbered : Pool.Answer → Pool.Answer
  | .registration r => .registration (r.map Registration.unnumbered)
  | .object o => .object (o.map Object.unnumbered)
  | .freed r => .freed (unnumberedResult (Option.map Object.unnumbered) r)
  | .moved r => .moved (unnumberedResult (Option.map Registration.unnumbered) r)
  | .verdict r => .verdict (unnumberedResult id r)
  | .aligned r => .aligned (unnumberedResult id r)
  | .objects os => .objects (os.map Object.unnumbered)
  | answer => answer

/-- The pool without the numbers of its objects. -/
def LinearPool.unnumbered (q : LinearPool) : LinearPool :=
  { q with live := q.live.map Object.unnumbered, retained := q.retained.map Object.unnumbered }

/-- The objects at hand without their numbers. -/
def AtHand.unnumbered (h : AtHand) : AtHand :=
  { h with recent := h.recent.map Object.unnumbered, earlier := h.earlier.map Object.unnumbered }

@[simp] theorem Object.unnumbered_span (o : Object) : o.unnumbered.span = o.span := by
  rfl

@[simp] theorem Object.unnumbered_kind (o : Object) : o.unnumbered.kind = o.kind := by
  rfl

@[simp] theorem Object.unnumbered_unnumbered (o : Object) :
    o.unnumbered.unnumbered = o.unnumbered := by
  cases h : o.release <;> simp [unnumbered, h]

theorem Object.option_unnumbered_twice (o : Option Object) :
    (o.map Object.unnumbered).map Object.unnumbered = o.map Object.unnumbered := by
  cases o with
  | none => rfl
  | some o => exact congrArg some o.unnumbered_unnumbered

/-- Without numbers an object is widened as with them. -/
theorem Object.unnumbered_withSpan (o : Object) (s : Span) :
    ({ o.unnumbered with span := s } : Object).unnumbered =
      ({ o with span := s } : Object).unnumbered := by
  cases h : o.release <;> simp [unnumbered, h]

/-- With other numbers an object is retired alike. -/
theorem Object.unnumbered_retire (o : Object) (id id' : Nat) (site : Option Site) :
    (o.unnumbered.retire id' site).unnumbered = (o.retire id site).unnumbered := by
  rfl

@[simp] theorem Violation.unnumbered_about (v : Violation) (o : Object) :
    (v.about o.unnumbered).unnumbered = (v.about o).unnumbered := by
  simp [unnumbered, about]

@[simp] theorem Violation.unnumbered_ofWeakness (v : Violation) (w : Weakness) :
    (v.ofWeakness w).unnumbered = v.unnumbered.ofWeakness w := by
  rfl

@[simp] theorem Violation.unnumbered_calling (v : Violation) (function : String) :
    (v.calling function).unnumbered = v.unnumbered.calling function := by
  rfl

theorem unnumberedResult_error {α : Type} (f : α → α) (v : Violation) :
    unnumberedResult f (.error v) = .error v.unnumbered := by
  rfl

theorem unnumberedResult_ok {α : Type} (f : α → α) (a : α) :
    unnumberedResult f (.ok a) = .ok (f a) := by
  rfl

namespace LinearPool

/-- Which object covers an address does not depend on numbers. -/
theorem covering_unnumbered (os : List Object) (a : Address) :
    covering (os.map Object.unnumbered) a = (covering os a).map Object.unnumbered := by
  rw [covering, List.find?_map]
  rfl

/-- Nor does it, which objects are the newest. -/
theorem newest_unnumbered (n : Nat) (os : List Object) :
    newest n (os.map Object.unnumbered) = (newest n os).map Object.unnumbered := by
  rw [newest, newest, List.length_map, List.map_drop]

/-- Nor does it, where an object is put. -/
theorem place_unnumbered (o : Object) (os : List Object) :
    (place o os).map Object.unnumbered = place o.unnumbered (os.map Object.unnumbered) := by
  induction os with
  | nil => rfl
  | cons e rest ih =>
    simp only [place, List.map_cons, Object.unnumbered_span]
    split
    · simp only [List.map_cons]
    · rw [List.map_cons, ih]

/-- What is picked by its span is picked whatever its numbers are. -/
theorem filter_unnumbered (keep : Span → Bool) (os : List Object) :
    ((os.map Object.unnumbered).filter fun o => keep o.span) =
      (os.filter fun o => keep o.span).map Object.unnumbered := by
  rw [List.filter_map]
  rfl

/-- The hull of spans does not depend on numbers. -/
theorem hullOf_unnumbered (s : Span) (os : List Object) :
    hullOf s (os.map Object.unnumbered) = hullOf s os := by
  rw [hullOf, List.foldl_map]
  rfl

theorem map_unnumbered_twice (os : List Object) :
    (os.map Object.unnumbered).map Object.unnumbered = os.map Object.unnumbered := by
  rw [List.map_map]
  exact List.map_congr_left fun o _ => o.unnumbered_unnumbered

section

variable (q : LinearPool)

/-- A look-up among the live objects finds the same without numbers. -/
theorem objectAt_unnumbered (a : Address) :
    q.unnumbered.objectAt a = (q.objectAt a).map Object.unnumbered :=
  covering_unnumbered q.live a

/-- So does one among the retained objects. -/
theorem retainedAt_unnumbered (a : Address) :
    q.unnumbered.retainedAt a = (q.retainedAt a).map Object.unnumbered :=
  covering_unnumbered q.retained a

theorem unnumbered_unnumbered : q.unnumbered.unnumbered = q.unnumbered := by
  simp only [unnumbered, map_unnumbered_twice]

/-- A registration merges with the same objects without numbers. -/
theorem members_unnumbered (s : Span) (kind : ObjectKind) :
    q.unnumbered.members s kind = (q.members s kind).map Object.unnumbered := by
  simp only [members, unnumbered, filter_unnumbered fun t => t.overlaps s, List.filter_map]
  rfl

/-- It makes the same object, apart from its numbers. -/
theorem newcomer_unnumbered (numbers numbers' : Numbering) (s : Span) (kind : ObjectKind)
    (site : Option Site) :
    (q.unnumbered.newcomer numbers' s kind site).unnumbered =
      (q.newcomer numbers s kind site).unnumbered := by
  simp only [newcomer, members_unnumbered, hullOf_unnumbered, List.getLast?_map]
  cases (q.members s kind).getLast? with
  | none => rfl
  | some o => exact o.unnumbered_withSpan _

/-- A registration says and leaves the same, whatever the numbers are. -/
theorem register_unnumbered (numbers numbers' : Numbering) (s : Span) (kind : ObjectKind)
    (site : Option Site) :
    (q.unnumbered.register numbers' s kind site).1.unnumbered =
        (q.register numbers s kind site).1.unnumbered ∧
      (q.unnumbered.register numbers' s kind site).2.1.unnumbered =
        (q.register numbers s kind site).2.1.unnumbered := by
  refine ⟨?_, ?_⟩
  · -- what is overlapped is the same, and so is which kind of registration it makes
    have hoverlapped : (q.unnumbered.live.filter fun o => o.span.overlaps s) =
        (q.live.filter fun o => o.span.overlaps s).map Object.unnumbered :=
      filter_unnumbered (fun t => t.overlaps s) q.live
    unfold register
    simp only [hoverlapped, List.filter_map, List.foldl_map, List.getLast?_map, Function.comp_def,
      Object.unnumbered_kind, Object.unnumbered_span]
    cases (q.live.filter fun o => o.span.overlaps s).filter fun o =>
      kind.merges && o.kind.merges with
    | cons o rest => rfl
    | nil =>
      cases (q.live.filter fun o => o.span.overlaps s).getLast? with
      | none => rfl
      | some o => simp [Registration.unnumbered]
  · have hlive : ∀ (p : LinearPool) n, (p.register n s kind site).2.1.unnumbered =
        { p with
          live := (place (p.newcomer n s kind site)
            (p.live.filter fun o => !o.span.overlaps s)).map Object.unnumbered
          retained := (p.retained.filter fun o => !o.span.overlaps s).map Object.unnumbered } :=
      fun p n => rfl
    rw [hlive, hlive, place_unnumbered, place_unnumbered, q.newcomer_unnumbered numbers numbers']
    simp only [unnumbered, filter_unnumbered fun t => !t.overlaps s, map_unnumbered_twice]

/-- So does one of some bytes from an address on. -/
theorem registerBytes_unnumbered (numbers numbers' : Numbering) (a : Address) (size : ByteCount)
    (kind : ObjectKind) (site : Option Site) :
    (q.unnumbered.registerBytes numbers' a size kind site).1.map Registration.unnumbered =
        (q.registerBytes numbers a size kind site).1.map Registration.unnumbered ∧
      (q.unnumbered.registerBytes numbers' a size kind site).2.1.unnumbered =
        (q.registerBytes numbers a size kind site).2.1.unnumbered := by
  unfold registerBytes
  cases Span.ofLength a size with
  | error e => exact ⟨rfl, q.unnumbered_unnumbered⟩
  | ok s =>
    by_cases ha : a = 0
    · simp only [ha, if_true]
      exact ⟨trivial, q.unnumbered_unnumbered⟩
    · simp only [ha, if_false, Option.map_some]
      obtain ⟨hanswer, hstate⟩ := q.register_unnumbered numbers numbers' s kind site
      exact ⟨congrArg some hanswer, hstate⟩

/-- What a free leaves, without numbers. -/
theorem drop_retain_unnumbered (a : Address) (o : Object) :
    unnumbered { q with
        live := q.live.filter fun e => e.span.start ≠ a
        retained := newest q.retention.capacity (q.retained ++ [o]) } =
      { q with
        live := q.unnumbered.live.filter fun e => e.span.start ≠ a
        retained := newest q.retention.capacity (q.unnumbered.retained ++ [o.unnumbered]) } := by
  have hlive := filter_unnumbered (fun t => decide (t.start ≠ a)) q.live
  have hretained := newest_unnumbered q.retention.capacity (q.retained ++ [o])
  rw [List.map_append] at hretained
  simp only [unnumbered, hlive, ← hretained]
  rfl

/-- A free says and leaves the same, whatever the numbers are. -/
theorem free_unnumbered (numbers numbers' : Numbering) (a : Address) (site : Option Site) :
    unnumberedResult (Option.map Object.unnumbered) (q.unnumbered.free numbers' a site).1 =
        unnumberedResult (Option.map Object.unnumbered) (q.free numbers a site).1 ∧
      (q.unnumbered.free numbers' a site).2.1.unnumbered =
        (q.free numbers a site).2.1.unnumbered := by
  unfold free
  by_cases ha : a = 0
  · rw [if_pos ha, if_pos ha]
    exact ⟨rfl, q.unnumbered_unnumbered⟩
  rw [if_neg ha, if_neg ha, objectAt_unnumbered, retainedAt_unnumbered]
  cases q.objectAt a with
  | none =>
    cases q.retainedAt a with
    | none => exact ⟨rfl, q.unnumbered_unnumbered⟩
    | some o =>
      simp only [Option.map_none, Option.map_some, Object.unnumbered_span, unnumberedResult_error,
        Violation.unnumbered_about]
      exact ⟨trivial, q.unnumbered_unnumbered⟩
  | some o =>
    simp only [Option.map_some, Object.unnumbered_span, Object.unnumbered_kind]
    -- only the free of a heap object at its start draws a number
    by_cases hheap : o.kind.isHeap = true
    · by_cases hstart : o.span.start = a
      · have hbase : ¬ o.span.start ≠ a := not_not.mpr hstart
        simp only [hheap, Bool.not_true, Bool.false_eq_true, if_false, if_neg hbase,
          unnumberedResult_ok, Option.map_some, Object.unnumbered_retire o numbers.nextFree,
          drop_retain_unnumbered, unnumbered_unnumbered]
        exact ⟨trivial, rfl⟩
      · simp only [hheap, hstart, Bool.not_true, Bool.false_eq_true, if_false, ne_eq,
          not_false_eq_true, if_true, unnumberedResult_error, Violation.unnumbered_about]
        exact ⟨trivial, q.unnumbered_unnumbered⟩
    · simp only [hheap, Bool.not_false, if_true, unnumberedResult_error,
        Violation.unnumbered_about]
      exact ⟨trivial, q.unnumbered_unnumbered⟩

/-- So does the end of a scope. -/
theorem endScope_unnumbered (a : Address) :
    (q.unnumbered.endScope a).1.map Object.unnumbered =
        (q.endScope a).1.map Object.unnumbered ∧
      (q.unnumbered.endScope a).2.unnumbered = (q.endScope a).2.unnumbered := by
  have hfind : (q.unnumbered.live.find? fun o => o.span.start == a) =
      (q.live.find? fun o => o.span.start == a).map Object.unnumbered := by
    rw [unnumbered, List.find?_map]
    rfl
  have hlive := filter_unnumbered (fun t => decide (t.start ≠ a)) q.live
  rw [endScope_eq, endScope_eq, hfind]
  refine ⟨Object.option_unnumbered_twice _, ?_⟩
  simp only [unnumbered, hlive, map_unnumbered_twice]

/-- So does a move. -/
theorem move_unnumbered (numbers numbers' : Numbering) (new old : Address) (size : ByteCount)
    (kind : ObjectKind) (site : Option Site) :
    unnumberedResult (Option.map Registration.unnumbered)
          (q.unnumbered.move numbers' new old size kind site).1 =
        unnumberedResult (Option.map Registration.unnumbered)
          (q.move numbers new old size kind site).1 ∧
      (q.unnumbered.move numbers' new old size kind site).2.1.unnumbered =
        (q.move numbers new old size kind site).2.1.unnumbered := by
  unfold move
  by_cases hfailed : old ≠ 0 ∧ size ≠ 0 ∧ new = 0
  · rw [if_pos hfailed, if_pos hfailed]
    exact ⟨rfl, q.unnumbered_unnumbered⟩
  rw [if_neg hfailed, if_neg hfailed]
  obtain ⟨hanswer, hstate⟩ := q.free_unnumbered numbers numbers' old site
  rcases heq' : q.unnumbered.free numbers' old site with ⟨r', q', n'⟩
  rcases heq : q.free numbers old site with ⟨r, q₁, n⟩
  rw [heq', heq] at hanswer hstate
  cases r' with
  | error v' =>
    cases r with
    | error v => exact ⟨congrArg Except.error (Except.error.inj hanswer), hstate⟩
    | ok freed => cases hanswer
  | ok freed' =>
    cases r with
    | error v => cases hanswer
    | ok freed =>
      -- both pools are registered in after the free, and are the same without numbers
      have hfirst := q'.registerBytes_unnumbered n' {} new size kind site
      have hsecond := q₁.registerBytes_unnumbered n {} new size kind site
      have hstate' : q'.unnumbered = q₁.unnumbered := hstate
      rw [hstate'] at hfirst
      exact ⟨congrArg Except.ok (hfirst.1.symm.trans hsecond.1), hfirst.2.symm.trans hsecond.2⟩

/-- What is said to an access does not depend on numbers. -/
theorem checkAccess_unnumbered (a : Address) (length : ByteCount) (mode : CheckMode) :
    unnumberedResult id (q.unnumbered.checkAccess a length mode) =
      unnumberedResult id (q.checkAccess a length mode) := by
  unfold checkAccess
  by_cases hlength : length = 0
  · rw [if_pos hlength, if_pos hlength]
  rw [if_neg hlength, if_neg hlength, objectAt_unnumbered, retainedAt_unnumbered]
  cases q.objectAt a with
  | some o =>
    simp only [Option.map_some, Object.unnumbered_span]
    split
    · rfl
    · simp only [unnumberedResult_error, Pool.overflow, Violation.unnumbered_ofWeakness,
        Violation.unnumbered_about, Object.unnumbered_kind]
  | none =>
    simp only [Option.map_none]
    cases q.retainedAt a with
    | none => rfl
    | some o =>
      cases mode.provenance with
      | incomplete =>
        simp only [Option.map_some, unnumberedResult_error, Violation.unnumbered_about]
      | complete =>
        -- the null address is judged before the retained object is shown
        simp only [Option.map_some]
        split
        · rfl
        · simp only [unnumberedResult_error, Violation.unnumbered_about]

/-- Nor does what is said to an aligned pointer. -/
theorem checkAlignment_unnumbered (a : Address) (elementSize : ByteCount) :
    unnumberedResult id (q.unnumbered.checkAlignment a elementSize) =
      unnumberedResult id (q.checkAlignment a elementSize) := by
  unfold checkAlignment
  by_cases htrivial : a = 0 ∨ elementSize = 0
  · rw [if_pos htrivial, if_pos htrivial]
  rw [if_neg htrivial, if_neg htrivial, objectAt_unnumbered]
  cases q.objectAt a with
  | none => rfl
  | some o =>
    simp only [Option.map_some, Object.unnumbered_span]
    split
    · rfl
    · simp only [unnumberedResult_error, Violation.unnumbered_about]

/-- Nor does what is said to arithmetic. -/
theorem checkArithmetic_unnumbered (source dest : Address) (mode : CheckMode) :
    unnumberedResult id (q.unnumbered.checkArithmetic source dest mode) =
      unnumberedResult id (q.checkArithmetic source dest mode) := by
  unfold checkArithmetic
  rw [objectAt_unnumbered, retainedAt_unnumbered]
  cases q.objectAt source with
  | some o =>
    simp only [Option.map_some, Object.unnumbered_span]
    split
    · rfl
    · simp only [unnumberedResult_error, Violation.unnumbered_ofWeakness,
        Violation.unnumbered_about, Object.unnumbered_kind]
  | none =>
    simp only [Option.map_none]
    split
    · rfl
    · -- only with complete provenance the retained object is shown
      cases mode.provenance with
      | incomplete => rfl
      | complete =>
        cases q.retainedAt source with
        | none => rfl
        | some o =>
          simp only [Option.map_some, unnumberedResult_error, Violation.unnumbered_about]

/-- Without its numbers a pool answers the same without numbers and becomes the same without
numbers. -/
theorem perform_unnumbered (numbers numbers' : Numbering) (c : Pool.Command) :
    (q.unnumbered.perform numbers' c).1.unnumbered = (q.perform numbers c).1.unnumbered ∧
      (q.unnumbered.perform numbers' c).2.1.unnumbered = (q.perform numbers c).2.1.unnumbered := by
  cases c with
  | register s kind site =>
    obtain ⟨hanswer, hstate⟩ := q.register_unnumbered numbers numbers' s kind site
    exact ⟨congrArg (Pool.Answer.registration ∘ some) hanswer, hstate⟩
  | registerBytes a size kind site =>
    obtain ⟨hanswer, hstate⟩ := q.registerBytes_unnumbered numbers numbers' a size kind site
    exact ⟨congrArg Pool.Answer.registration hanswer, hstate⟩
  | free a site =>
    obtain ⟨hanswer, hstate⟩ := q.free_unnumbered numbers numbers' a site
    exact ⟨congrArg Pool.Answer.freed hanswer, hstate⟩
  | endScope a =>
    obtain ⟨hanswer, hstate⟩ := q.endScope_unnumbered a
    exact ⟨congrArg Pool.Answer.object hanswer, hstate⟩
  | move new old size kind site =>
    obtain ⟨hanswer, hstate⟩ := q.move_unnumbered numbers numbers' new old size kind site
    exact ⟨congrArg Pool.Answer.moved hanswer, hstate⟩
  | checkAccess a length mode =>
    exact ⟨congrArg Pool.Answer.verdict (q.checkAccess_unnumbered a length mode),
      q.unnumbered_unnumbered⟩
  | checkAlignment a elementSize =>
    exact ⟨congrArg Pool.Answer.aligned (q.checkAlignment_unnumbered a elementSize),
      q.unnumbered_unnumbered⟩
  | checkArithmetic source dest mode =>
    exact ⟨congrArg Pool.Answer.verdict (q.checkArithmetic_unnumbered source dest mode),
      q.unnumbered_unnumbered⟩
  | objectAt a =>
    refine ⟨congrArg Pool.Answer.object ?_, q.unnumbered_unnumbered⟩
    rw [objectAt_unnumbered, Object.option_unnumbered_twice]
  | retainedAt a =>
    refine ⟨congrArg Pool.Answer.object ?_, q.unnumbered_unnumbered⟩
    rw [retainedAt_unnumbered, Object.option_unnumbered_twice]
  | objects => exact ⟨congrArg Pool.Answer.objects (map_unnumbered_twice q.live),
      q.unnumbered_unnumbered⟩
  | stats =>
    refine ⟨?_, q.unnumbered_unnumbered⟩
    simp only [perform, unnumbered, List.length_map]
  | reset => exact ⟨rfl, rfl⟩

end

end LinearPool

/-! ### What is at hand -/

namespace AtHand

variable (h : AtHand) (live : List Object)

theorem covering?_unnumbered (o : Option Object) (a : Address) :
    (Pool.covering? (o.map Object.unnumbered) a).isSome = (Pool.covering? o a).isSome := by
  cases o with
  | none => rfl
  | some o =>
    simp only [Pool.covering?, Option.map_some, Option.filter_some, Object.unnumbered_span]
    split <;> rfl

/-- What a look-up leaves at hand does not depend on numbers. -/
theorem lookup_unnumbered (a : Address) :
    h.unnumbered.lookup (live.map Object.unnumbered) a = (h.lookup live a).unnumbered := by
  unfold lookup
  simp only [unnumbered, covering?_unnumbered, LinearPool.covering_unnumbered]
  split
  · rfl
  · split
    · rfl
    · cases LinearPool.covering live a <;> rfl

/-- Nor does it, whether a free finds its object. -/
theorem frees_unnumbered (a : Address) :
    frees (live.map Object.unnumbered) a = frees live a := by
  simp only [frees, LinearPool.covering_unnumbered]
  cases LinearPool.covering live a <;> rfl

/-- A registration leaves the same at hand, whatever the numbers are. -/
theorem registerBytes_unnumbered (a : Address) (size : ByteCount) :
    h.unnumbered.registerBytes a size = (h.registerBytes a size).unnumbered := by
  unfold registerBytes
  split <;> rfl

/-- So does a free. -/
theorem free_unnumbered (a : Address) :
    h.unnumbered.free (live.map Object.unnumbered) a = (h.free live a).unnumbered := by
  unfold free
  rw [frees_unnumbered, lookup_unnumbered]
  split
  · rfl
  · split <;> rfl

/-- So does every operation. -/
theorem after_unnumbered (c : Pool.Command) :
    h.unnumbered.after (live.map Object.unnumbered) c = (h.after live c).unnumbered := by
  cases c with
  | register | endScope | reset | retainedAt | objects | stats => rfl
  | registerBytes a size kind site => exact h.registerBytes_unnumbered a size
  | free a site => exact h.free_unnumbered live a
  | move new old size kind site =>
    simp only [after, registerBytes_unnumbered, free_unnumbered]
    split
    · rfl
    · split <;> rfl
  | checkAccess a length mode =>
    simp only [after, lookup_unnumbered]
    split <;> rfl
  | checkAlignment a elementSize =>
    simp only [after, lookup_unnumbered]
    split <;> rfl
  | checkArithmetic source dest mode => exact h.lookup_unnumbered live source
  | objectAt a => exact h.lookup_unnumbered live a

end AtHand

/-! ### Pools that differ only in numbers -/

namespace Pool

/-- The two pools hold the same objects but for their numbers. -/
def SameObjects (p p' : Pool) : Prop :=
  ∃ q q', p.Refines q ∧ p'.Refines q' ∧ q.unnumbered = q'.unnumbered

/-- The two pools hold the same objects but for their numbers, and have the same ones at hand. -/
structure Alike (p p' : Pool) : Prop where
  objects : p.SameObjects p'
  atHand : p.atHand.unnumbered = p'.atHand.unnumbered

/-- Pools without objects are alike. -/
theorem alike_empty (retention : Retention) : Alike { retention } { retention } :=
  ⟨⟨_, _, refines_empty retention, refines_empty retention, rfl⟩, rfl⟩

variable {p p' : Pool}

namespace SameObjects

/-- Pools with the same objects go on to have the same objects. -/
theorem perform (h : p.SameObjects p') (numbers numbers' : Numbering) (c : Command) :
    (p.perform numbers c).2.1.SameObjects (p'.perform numbers' c).2.1 := by
  obtain ⟨q, q', hq, hq', hsame⟩ := h
  have hstate := (q.perform_unnumbered numbers {} c).2
  have hstate' := (q'.perform_unnumbered numbers' {} c).2
  rw [hsame] at hstate
  exact ⟨_, _, (perform_refines hq numbers c).2.1, (perform_refines hq' numbers' c).2.1,
    hstate.symm.trans hstate'⟩

/-- Pools with the same objects answer the same, unless they count. -/
theorem answer (h : p.SameObjects p') (numbers numbers' : Numbering) {c : Command}
    (hc : c ≠ .stats) :
    (p.perform numbers c).1.unnumbered = (p'.perform numbers' c).1.unnumbered := by
  obtain ⟨q, q', hq, hq', hsame⟩ := h
  have hanswer := (q.perform_unnumbered numbers {} c).1
  have hanswer' := (q'.perform_unnumbered numbers' {} c).1
  rw [hsame] at hanswer
  rw [hq.perform_answer numbers hc, hq'.perform_answer numbers' hc]
  exact hanswer.symm.trans hanswer'

/-- Pools with the same objects say the same to an access, apart from numbers. -/
theorem checkAccess (h : p.SameObjects p') (a : Address) (length : ByteCount) (mode : CheckMode) :
    unnumberedResult id (p.checkAccess a length mode).1 =
      unnumberedResult id (p'.checkAccess a length mode).1 :=
  Answer.verdict.inj (h.answer {} {} (c := .checkAccess a length mode) (by simp))

/-- They say the same to arithmetic. -/
theorem checkArithmetic (h : p.SameObjects p') (source dest : Address) (mode : CheckMode) :
    unnumberedResult id (p.checkArithmetic source dest mode).1 =
      unnumberedResult id (p'.checkArithmetic source dest mode).1 :=
  Answer.verdict.inj (h.answer {} {} (c := .checkArithmetic source dest mode) (by simp))

/-- They find the same live object at an address. -/
theorem objectAt (h : p.SameObjects p') (a : Address) :
    (p.objectAt a).1.map Object.unnumbered = (p'.objectAt a).1.map Object.unnumbered :=
  Answer.object.inj (h.answer {} {} (c := .objectAt a) (by simp))

end SameObjects

namespace Alike

/-- Pools that are alike are alike after an operation, whatever numbers it draws. -/
theorem perform (h : p.Alike p') (numbers numbers' : Numbering) (c : Command) :
    (p.perform numbers c).2.1.Alike (p'.perform numbers' c).2.1 := by
  refine ⟨h.objects.perform numbers numbers' c, ?_⟩
  obtain ⟨q, q', hq, hq', hsame⟩ := h.objects
  have hlive : q.live.map Object.unnumbered = q'.live.map Object.unnumbered :=
    congrArg LinearPool.live hsame
  rw [perform_atHand hq, perform_atHand hq', ← AtHand.after_unnumbered,
    ← AtHand.after_unnumbered, hlive, h.atHand]

/-- Pools that are alike answer the same, and count the same. -/
theorem answer (h : p.Alike p') (numbers numbers' : Numbering) (c : Command) :
    (p.perform numbers c).1.unnumbered = (p'.perform numbers' c).1.unnumbered := by
  by_cases hc : c = .stats
  · subst hc
    obtain ⟨q, q', hq, hq', hsame⟩ := h.objects
    have hlive := congrArg (fun r => r.live.length) hsame
    have hretained := congrArg (fun r => r.retained.length) hsame
    have hhits : p.hits = p'.hits := congrArg AtHand.hits h.atHand
    simp only [LinearPool.unnumbered, List.length_map] at hlive hretained
    simp only [Pool.perform, Answer.unnumbered, hq.stats, hq'.stats, hlive, hretained, hhits]
  · exact h.objects.answer numbers numbers' hc

end Alike

end Pool

end MemorySentry
