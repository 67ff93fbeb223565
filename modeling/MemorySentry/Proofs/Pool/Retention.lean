import MemorySentry.Proofs.Pool.AtHand
import MemorySentry.Proofs.Pool.Family

/-!
# What the retention of a pool shows

Two families of pools that differ only in how many freed objects they may retain are given the same
run. At every moment they hold the same live objects, and the first retains the most recently freed
ones of those that the second retains (`Pool.Trails`). So they answer alike, unless the pointer of
an operation points into an object that only the second retains; then the first answers as if the
object had never been there (`Command.forgetful`). Both are said in `performAll_retention`.

Behind it is a relation between linear pools: the retained objects of one are the last ones of the
other (`LinearPool.Trails`). A registration takes the same objects out of both ends, and a free puts
the same object behind both.
-/

namespace MemorySentry

namespace Pool

/-- The retained objects. -/
def retainedObjects (p : Pool) : List Object :=
  p.retained.toList.map Prod.snd

/-- One pool holds the live objects of another one, and of its retained objects the most recently
freed ones. -/
structure Trails (p p' : Pool) : Prop where
  /-- The live objects are the same. -/
  live : p.live.toList = p'.live.toList
  /-- Nothing is retained that the other does not retain. -/
  retained : p.retainedObjects ⊆ p'.retainedObjects
  /-- What only the other retains was freed earlier. -/
  newest : ∀ o ∈ p'.retainedObjects, o ∉ p.retainedObjects →
    ∀ o' ∈ p.retainedObjects, o.freeId < o'.freeId

/-- The pointer that an operation is about. -/
def Command.pointer? : Command → Option Address
  | .free a _ | .endScope a | .checkAccess a _ _ | .checkAlignment a _ | .objectAt a
  | .retainedAt a => some a
  | .checkArithmetic source _ _ => some source
  | .move _ old _ _ _ => some old
  | .register .. | .registerBytes .. | .objects | .stats | .reset => none

/-- The pointer of an operation points into an object. -/
def Command.PointsInto (c : Command) (o : Object) : Prop :=
  ∃ a, c.pointer? = some a ∧ o.span.contains a = true

/-- The pointer of an operation points into an object that one pool does not retain and another one
does. -/
def Misses (p p' : Pool) (c : Command) : Prop :=
  ∃ o ∈ p'.retainedObjects, o ∉ p.retainedObjects ∧ c.PointsInto o

/-- What is said of a free at a place where no object is known. -/
def forgetfulFree {α : Type} (a : Address) (r : Except Violation α) : Except Violation α :=
  r.mapError fun v => match v.kind with
    | .doubleFree | .invalidFree => { kind := .freeOutsideHeap, pointer := a }
    | _ => v

/-- What an operation would have answered if no object had been retained at its pointer: an answer
that tells of the use of a freed object gives way to what is said where no object is known. -/
def Command.forgetful : Command → Answer → Answer
  | .checkAccess a _ _, .verdict (.error v) =>
    match v.kind with
    | .danglingPointer => .verdict (.error { kind := .outOfBounds, pointer := a })
    | .suspectAccess => .verdict (.ok .unknown)
    | _ => .verdict (.error v)
  | .checkArithmetic _ dest _, .verdict (.error v) =>
    match v.kind with
    | .danglingPointer => .verdict (.error { kind := .outOfBounds, pointer := dest })
    | _ => .verdict (.error v)
  | .free a _, .freed r => .freed (forgetfulFree a r)
  | .move _ old _ _ _, .moved r => .moved (forgetfulFree old r)
  | .retainedAt _, .object _ => .object none
  | _, answer => answer

/-- Whether a registration, a free or a move is carried out, or a check finds its pointer in
bounds. -/
def Answer.succeeds : Answer → Bool
  | .registration _ | .freed (.ok _) | .moved (.ok _) | .verdict (.ok (.inBounds _))
  | .aligned (.ok _) => true
  | _ => false

/-- An answer with another number of retained objects. -/
def Answer.recounted (retained : Nat) : Answer → Answer
  | .stats s => .stats { s with retained }
  | answer => answer

/-- A pool that forgets a retained object neither refuses nor grants anything else. -/
theorem Command.succeeds_forgetful (c : Command) (answer : Answer) :
    (c.forgetful answer).succeeds = answer.succeeds := by
  unfold forgetful
  split
  · split <;> rfl
  · split <;> rfl
  · next r => cases r <;> rfl
  · next r => cases r <;> rfl
  · rfl
  · rfl

/-- Nothing that succeeds is a matter of a retained object. -/
theorem Command.forgetful_of_succeeds (c : Command) {answer : Answer}
    (h : answer.succeeds = true) : c.forgetful answer = answer := by
  unfold forgetful
  split
  · cases h
  · cases h
  · next r =>
    cases r with
    | ok freed => rfl
    | error v => cases h
  · next r =>
    cases r with
    | ok registration => rfl
    | error v => cases h
  · cases h
  · rfl

/-- How many objects are retained has no part in whether an operation succeeds. -/
theorem Answer.succeeds_recounted (retained : Nat) (answer : Answer) :
    (answer.recounted retained).succeeds = answer.succeeds := by
  cases answer <;> rfl

/-- An answer of an operation that succeeds says nothing of how many objects are retained. -/
theorem Answer.recounted_of_succeeds (retained : Nat) {answer : Answer}
    (h : answer.succeeds = true) : answer.recounted retained = answer := by
  cases answer with
  | stats s => cases h
  | _ => rfl

end Pool

namespace LinearPool

open Pool (Command)

/-- One linear pool has the live objects of another one, and of its retained objects the last
ones. -/
structure Trails (q q' : LinearPool) : Prop where
  capacity : q.retention.capacity ≤ q'.retention.capacity
  live : q.live = q'.live
  retained : q.retained <:+ q'.retained

/-- Only the sizes of a pool tell how many objects it retains. -/
theorem recounted_perform (q : LinearPool) (numbers : Numbering) {c : Command} (hc : c ≠ .stats)
    (retained : Nat) : (q.perform numbers c).1.recounted retained = (q.perform numbers c).1 := by
  cases c with
  | stats => exact absurd rfl hc
  | _ => rfl

/-- Of fewer objects at the end of a list, fewer newest ones are at the end. -/
theorem newest_suffix {n n' : Nat} (hle : n ≤ n') {os os' : List Object} (h : os <:+ os') :
    newest n os <:+ newest n' os' := by
  have hsuffix : newest n os <:+ os' := (List.drop_suffix _ _).trans h
  have hsuffix' : newest n' os' <:+ os' := List.drop_suffix _ _
  refine List.suffix_of_suffix_length_le hsuffix hsuffix' ?_
  simp only [newest, List.length_drop]
  have := h.length_le
  omega

namespace Trails

variable {q q' : LinearPool}

/-- A registration says the same in both pools, and one trails the other still. -/
theorem register (h : q.Trails q') (numbers : Numbering) (s : Span) (kind : ObjectKind)
    (site : Option Site) :
    (q.register numbers s kind site).1 = (q'.register numbers s kind site).1 ∧
      (q.register numbers s kind site).2.1.Trails (q'.register numbers s kind site).2.1 ∧
      (q.register numbers s kind site).2.2 = (q'.register numbers s kind site).2.2 := by
  obtain ⟨hcapacity, hlive, hretained⟩ := h
  unfold LinearPool.register
  rw [hlive]
  exact ⟨rfl, ⟨hcapacity, rfl, hretained.filter _⟩, rfl⟩

/-- So does one of some bytes from an address on. -/
theorem registerBytes (h : q.Trails q') (numbers : Numbering) (a : Address) (size : ByteCount)
    (kind : ObjectKind) (site : Option Site) :
    (q.registerBytes numbers a size kind site).1 = (q'.registerBytes numbers a size kind site).1 ∧
      (q.registerBytes numbers a size kind site).2.1.Trails
        (q'.registerBytes numbers a size kind site).2.1 ∧
      (q.registerBytes numbers a size kind site).2.2 =
        (q'.registerBytes numbers a size kind site).2.2 := by
  unfold LinearPool.registerBytes
  cases Span.ofLength a size with
  | error e => exact ⟨rfl, h, rfl⟩
  | ok s =>
    by_cases ha : a = 0
    · simp only [ha, if_true]
      exact ⟨trivial, h, trivial⟩
    · simp only [ha, if_false]
      obtain ⟨hanswer, hstate, hnumbers⟩ := h.register numbers s kind site
      exact ⟨congrArg some hanswer, hstate, hnumbers⟩

/-- Both pools find the same live object. -/
theorem objectAt (h : q.Trails q') (a : Address) : q.objectAt a = q'.objectAt a := by
  rw [LinearPool.objectAt, h.live, LinearPool.objectAt]

/-- A free frees the same object in both pools, or is a violation in both, and only where nothing is
live does it depend on the retained objects what is said of it. -/
theorem free_cases (h : q.Trails q') (numbers : Numbering) (a : Address) (site : Option Site) :
    (∃ freed numbers' q₁ q₁', q.free numbers a site = (.ok freed, q₁, numbers') ∧
      q'.free numbers a site = (.ok freed, q₁', numbers') ∧ q₁.Trails q₁') ∨
    (∃ v o, q'.objectAt a = some o ∧ q.free numbers a site = (.error v, q, numbers) ∧
      q'.free numbers a site = (.error v, q', numbers)) ∨
    q.free numbers a site = (.error (Pool.strayFree a (q.retainedAt a)), q, numbers) ∧
      q'.free numbers a site = (.error (Pool.strayFree a (q'.retainedAt a)), q', numbers) := by
  unfold LinearPool.free
  by_cases ha : a = 0
  · rw [if_pos ha, if_pos ha]
    exact Or.inl ⟨none, numbers, q, q', rfl, rfl, h⟩
  rw [if_neg ha, if_neg ha, h.objectAt]
  cases q'.objectAt a with
  | none =>
    refine Or.inr (Or.inr ⟨?_, ?_⟩)
    · cases q.retainedAt a <;> rfl
    · cases q'.retainedAt a <;> rfl
  | some o =>
    by_cases hheap : o.kind.isHeap = true
    · by_cases hstart : o.span.start = a
      · -- the freed object is retained last in both pools
        have hsuffix : q.retained ++ [o.retire numbers.nextFree site] <:+
            q'.retained ++ [o.retire numbers.nextFree site] := by
          obtain ⟨older, holder⟩ := h.retained
          exact ⟨older, by rw [← List.append_assoc, holder]⟩
        simp only [hheap, hstart, Bool.not_true, Bool.false_eq_true, if_false, ne_eq,
          not_true_eq_false, h.live]
        exact Or.inl ⟨_, _, _, _, rfl, rfl, h.capacity, rfl, newest_suffix h.capacity hsuffix⟩
      · simp only [hheap, hstart, Bool.not_true, Bool.false_eq_true, if_false, ne_eq,
          not_false_eq_true, if_true]
        exact Or.inr (Or.inl ⟨_, o, rfl, rfl, rfl⟩)
    · simp only [hheap]
      exact Or.inr (Or.inl ⟨_, o, rfl, rfl, rfl⟩)

/-- A move registers the same in both pools, or ends with what is said of the free. -/
theorem move_cases (h : q.Trails q') (numbers : Numbering) (new old : Address) (size : ByteCount)
    (kind : ObjectKind) (site : Option Site) :
    (∃ registration numbers' q₁ q₁',
      q.move numbers new old size kind site = (.ok registration, q₁, numbers') ∧
      q'.move numbers new old size kind site = (.ok registration, q₁', numbers') ∧ q₁.Trails q₁') ∨
    ∃ v v', q.free numbers old site = (.error v, q, numbers) ∧
      q'.free numbers old site = (.error v', q', numbers) ∧
      q.move numbers new old size kind site = (.error v, q, numbers) ∧
      q'.move numbers new old size kind site = (.error v', q', numbers) := by
  unfold LinearPool.move
  by_cases hfailed : old ≠ 0 ∧ size ≠ 0 ∧ new = 0
  · rw [if_pos hfailed, if_pos hfailed]
    exact Or.inl ⟨none, numbers, q, q', rfl, rfl, h⟩
  rw [if_neg hfailed, if_neg hfailed]
  rcases h.free_cases numbers old site with
    ⟨freed, numbers', q₁, q₁', heq, heq', h₁⟩ | ⟨v, o, -, heq, heq'⟩ | ⟨heq, heq'⟩
  · obtain ⟨hanswer, hstate, hnumbers⟩ := h₁.registerBytes numbers' new size kind site
    rw [heq, heq']
    simp only [hanswer, hnumbers]
    exact Or.inl ⟨_, _, _, _, rfl, rfl, hstate⟩
  · rw [heq, heq']
    exact Or.inr ⟨v, v, rfl, rfl, rfl, rfl⟩
  · rw [heq, heq']
    exact Or.inr ⟨_, _, rfl, rfl, rfl, rfl⟩

/-- Every operation draws the same numbers for both pools and keeps one behind the other. -/
theorem perform (h : q.Trails q') (numbers : Numbering) (c : Command) :
    (q.perform numbers c).2.1.Trails (q'.perform numbers c).2.1 ∧
      (q.perform numbers c).2.2 = (q'.perform numbers c).2.2 := by
  cases c with
  | register s kind site => exact (h.register numbers s kind site).2
  | registerBytes a size kind site => exact (h.registerBytes numbers a size kind site).2
  | free a site =>
    simp only [LinearPool.perform]
    rcases h.free_cases numbers a site with
      ⟨freed, numbers', q₁, q₁', heq, heq', h₁⟩ | ⟨v, o, -, heq, heq'⟩ | ⟨heq, heq'⟩
    · rw [heq, heq']
      exact ⟨h₁, rfl⟩
    · rw [heq, heq']
      exact ⟨h, rfl⟩
    · rw [heq, heq']
      exact ⟨h, rfl⟩
  | endScope a =>
    simp only [LinearPool.perform, LinearPool.endScope_eq, h.live]
    exact ⟨⟨h.capacity, rfl, h.retained⟩, trivial⟩
  | move new old size kind site =>
    simp only [LinearPool.perform]
    rcases h.move_cases numbers new old size kind site with
      ⟨registration, numbers', q₁, q₁', heq, heq', h₁⟩ | ⟨v, v', -, -, heq, heq'⟩
    · rw [heq, heq']
      exact ⟨h₁, rfl⟩
    · rw [heq, heq']
      exact ⟨h, rfl⟩
  | reset => exact ⟨⟨h.capacity, rfl, List.suffix_refl []⟩, rfl⟩
  | checkAccess | checkAlignment | checkArithmetic | objectAt | retainedAt | objects | stats =>
    exact ⟨h, rfl⟩

/-! ### What a pool answers that retains less -/

/-- If the retained object at its pointer is the same, a free is answered the same. -/
theorem free_answer (h : q.Trails q') (numbers : Numbering) {a : Address} (site : Option Site)
    (hretained : q.retainedAt a = q'.retainedAt a) :
    (q.free numbers a site).1 = (q'.free numbers a site).1 := by
  rcases h.free_cases numbers a site with
    ⟨freed, numbers', q₁, q₁', heq, heq', -⟩ | ⟨v, o, -, heq, heq'⟩ | ⟨heq, heq'⟩
  · rw [heq, heq']
  · rw [heq, heq']
  · rw [heq, heq', hretained]

/-- If the retained object at its pointer is the same, an operation answers the same, unless it
counts. -/
theorem perform_answer (h : q.Trails q') (numbers : Numbering) {c : Command} (hc : c ≠ .stats)
    (hretained : ∀ a, c.pointer? = some a → q.retainedAt a = q'.retainedAt a) :
    (q.perform numbers c).1 = (q'.perform numbers c).1 := by
  cases c with
  | register s kind site =>
    simp only [LinearPool.perform, (h.register numbers s kind site).1]
  | registerBytes a size kind site =>
    simp only [LinearPool.perform, (h.registerBytes numbers a size kind site).1]
  | free a site =>
    simp only [LinearPool.perform, h.free_answer numbers site (hretained a rfl)]
  | endScope a =>
    simp only [LinearPool.perform, LinearPool.endScope_eq, h.live]
  | move new old size kind site =>
    have hfree := h.free_answer numbers site (hretained old rfl)
    simp only [LinearPool.perform]
    rcases h.move_cases numbers new old size kind site with
      ⟨registration, numbers', q₁, q₁', heq, heq', -⟩ | ⟨v, v', hv, hv', heq, heq'⟩
    · rw [heq, heq']
    · rw [hv, hv'] at hfree
      rw [heq, heq', Except.error.inj hfree]
  | checkAccess a length mode =>
    simp only [LinearPool.perform, LinearPool.checkAccess, h.objectAt, hretained a rfl]
  | checkAlignment a elementSize =>
    simp only [LinearPool.perform, LinearPool.checkAlignment, h.objectAt]
  | checkArithmetic source dest mode =>
    simp only [LinearPool.perform, LinearPool.checkArithmetic, h.objectAt, hretained source rfl]
  | objectAt a => simp only [LinearPool.perform, h.objectAt]
  | retainedAt a => simp only [LinearPool.perform, hretained a rfl]
  | objects => simp only [LinearPool.perform, h.live]
  | stats => exact absurd rfl hc
  | reset => rfl

/-- Unless only the other pool retains an object at an address, both retain the same there. -/
theorem retainedAt (h : q.Trails q') (hvalid : q'.Valid) {a : Address}
    (hkept : ∀ o ∈ q'.retained, o.span.contains a = true → o ∈ q.retained) :
    q.retainedAt a = q'.retainedAt a := by
  have hapart : Apart q.retained := hvalid.apart_retained.sublist h.retained.sublist
  unfold LinearPool.retainedAt
  cases hfind : covering q'.retained a with
  | none =>
    rw [covering_eq_none_iff] at hfind ⊢
    exact fun o ho => hfind o (h.retained.subset ho)
  | some o =>
    obtain ⟨hmem, hcontains⟩ := (covering_eq_some_iff hvalid.apart_retained).mp hfind
    exact (covering_eq_some_iff hapart).mpr ⟨hkept o hmem hcontains, hcontains⟩

/-- Where only the other pool retains an object, this pool knows of none. -/
theorem lost (h : q.Trails q') (hvalid : q'.Valid) {o : Object} (hretained : o ∈ q'.retained)
    (hlost : o ∉ q.retained) {a : Address} (ha : o.span.contains a = true) :
    q'.objectAt a = none ∧ q.retainedAt a = none ∧ q'.retainedAt a = some o := by
  refine ⟨covering_eq_none_iff.mpr fun e he => ?_, covering_eq_none_iff.mpr fun e he => ?_,
    (covering_eq_some_iff hvalid.apart_retained).mpr ⟨hretained, ha⟩⟩
  · rw [← Bool.not_eq_true]
    intro hcontains
    have hov := Span.overlaps_of_contains hcontains ha
    rw [hvalid.live_retained he hretained] at hov
    cases hov
  · rw [← Bool.not_eq_true]
    intro hcontains
    -- the other pool retains the object as well, where the two would share an address
    obtain rfl :=
      hvalid.apart_retained.eq_of_contains (h.retained.subset he) hretained hcontains ha
    exact hlost he

/-- Without the history of an object, a stray free is one of an unknown address. -/
theorem forgetfulFree_strayFree {α : Type} (a : Address) (o : Object) :
    Pool.forgetfulFree a (.error (Pool.strayFree a (some o)) : Except Violation α) =
      .error (Pool.strayFree a none) := by
  by_cases hstart : o.span.start = a <;>
    simp [Pool.forgetfulFree, Pool.strayFree, Except.mapError, hstart, Violation.about]

/-- If only the other pool retains an object at its pointer, a free is answered as if no object had
been there. -/
theorem free_forgetful (h : q.Trails q') (numbers : Numbering) {a : Address} (site : Option Site)
    {o : Object} (hlive : q'.objectAt a = none) (hlost : q.retainedAt a = none)
    (hretained : q'.retainedAt a = some o) :
    (q.free numbers a site).1 = Pool.forgetfulFree a (q'.free numbers a site).1 := by
  rcases h.free_cases numbers a site with
    ⟨freed, numbers', q₁, q₁', heq, heq', -⟩ | ⟨v, o', hlive', -, -⟩ | ⟨heq, heq'⟩
  · rw [heq, heq']
    rfl
  · rw [hlive] at hlive'
    cases hlive'
  · rw [heq, heq', hlost, hretained, forgetfulFree_strayFree]

/-- If only the other pool retains an object at its pointer, an operation answers as if no object
had been there. -/
theorem perform_forgetful (h : q.Trails q') (hvalid : q'.Valid) (numbers : Numbering)
    {c : Command} {o : Object} (hretained : o ∈ q'.retained) (hlost : o ∉ q.retained)
    (hpointer : c.PointsInto o) :
    (q.perform numbers c).1 = c.forgetful (q'.perform numbers c).1 := by
  obtain ⟨a, hc, ha⟩ := hpointer
  -- no live object is there, and only the second pool finds one among the retained
  obtain ⟨hlive, hnone, hsome⟩ := h.lost hvalid hretained hlost ha
  have hlive' := hlive
  rw [← h.objectAt] at hlive'
  cases c with
  | free b site =>
    cases hc
    exact congrArg Pool.Answer.freed (h.free_forgetful numbers site hlive hnone hsome)
  | endScope b =>
    simp only [LinearPool.perform, LinearPool.endScope_eq, h.live]
    rfl
  | move new old size kind site =>
    cases hc
    have hfree := h.free_forgetful numbers site hlive hnone hsome
    simp only [LinearPool.perform]
    rcases h.move_cases numbers new a size kind site with
      ⟨registration, numbers', q₁, q₁', heq, heq', -⟩ | ⟨v, v', hv, hv', heq, heq'⟩
    · rw [heq, heq']
      rfl
    · rw [hv, hv'] at hfree
      rw [heq, heq']
      exact congrArg (fun v => Pool.Answer.moved (.error v)) (Except.error.inj hfree)
  | checkAccess b length mode =>
    cases hc
    simp only [LinearPool.perform, LinearPool.checkAccess, hlive, hlive', hnone, hsome]
    by_cases hlength : length = 0
    · rw [if_pos hlength, if_pos hlength]
      rfl
    rw [if_neg hlength, if_neg hlength]
    cases mode.provenance with
    | incomplete => rfl
    | complete =>
      by_cases hnull : a = 0
      · simp only [hnull, if_true]
        rfl
      · simp only [hnull, if_false]
        rfl
  | checkAlignment b elementSize =>
    cases hc
    simp only [LinearPool.perform, LinearPool.checkAlignment, hlive, hlive']
    rfl
  | checkArithmetic source dest mode =>
    cases hc
    simp only [LinearPool.perform, LinearPool.checkArithmetic, hlive, hlive', hnone, hsome]
    split
    · rfl
    · cases mode.provenance <;> rfl
  | objectAt b => simp only [LinearPool.perform, h.objectAt, Command.forgetful]
  | retainedAt b =>
    cases hc
    simp only [LinearPool.perform, hnone, Command.forgetful]
  | register | registerBytes | objects | stats | reset => cases hc

end Trails

/-! ### The order of frees -/

/-- The retained objects stand in the order of their frees. -/
structure Ordered (q : LinearPool) (numbers : Numbering) : Prop where
  ascending : q.freeIds.Pairwise (· < ·)
  below : ∀ n ∈ q.freeIds, n < numbers.nextFree

/-- Numbers that are drawn later leave the retained objects in order. -/
theorem Ordered.later {q : LinearPool} {numbers numbers' : Numbering} (h : q.Ordered numbers)
    (hle : numbers.nextFree ≤ numbers'.nextFree) : q.Ordered numbers' :=
  ⟨h.ascending, fun n hn => Nat.lt_of_lt_of_le (h.below n hn) hle⟩

/-- A mutation keeps the retained objects in the order of their frees. -/
theorem Step.ordered {q q' : LinearPool} {numbers numbers' : Numbering} {μ : Mutation}
    (h : q.Step numbers μ q' numbers') (hq : q.Ordered numbers) : q'.Ordered numbers' := by
  cases h with
  | register s kind site =>
    have hsub := (List.filter_sublist (p := fun o : Object => !o.span.overlaps s)
      (l := q.retained)).map Object.freeId
    exact ⟨hq.ascending.sublist hsub, fun n hn => hq.below n (hsub.subset hn)⟩
  | free o site =>
    -- the number of the free is the next one, and the oldest objects may be forgotten
    have hsub := (newest_sublist q.retention.capacity
      (q.retained ++ [o.retire numbers.nextFree site])).map Object.freeId
    rw [List.map_append, List.map_singleton] at hsub
    have hnew : (o.retire numbers.nextFree site).freeId = numbers.nextFree := rfl
    rw [hnew] at hsub
    refine ⟨List.Pairwise.sublist hsub (List.pairwise_append.mpr
      ⟨hq.ascending, List.pairwise_singleton _ _, ?_⟩), ?_⟩
    · intro n hn n' hn'
      rw [List.mem_singleton.mp hn']
      exact hq.below n hn
    · intro n hn
      rcases List.mem_append.mp (hsub.subset hn) with hold | hnext
      · exact Nat.lt_succ_of_lt (hq.below n hold)
      · rw [List.mem_singleton.mp hnext]
        exact Nat.lt_succ_self _
  | drop a => exact ⟨hq.ascending, hq.below⟩
  | reset => exact ⟨List.Pairwise.nil, by simp [freeIds]⟩

/-- So do mutations one after another. -/
theorem Steps.ordered {q q' : LinearPool} {numbers numbers' : Numbering} {ms : List Mutation}
    (h : q.Steps numbers ms q' numbers') (hq : q.Ordered numbers) : q'.Ordered numbers' := by
  induction h with
  | nil => exact hq
  | cons hstep _ ih => exact ih (hstep.ordered hq)

end LinearPool

namespace Pool

variable {p p' : Pool} {q q' : LinearPool}

/-- The pool retains the objects that the linear one retains. -/
theorem Refines.mem_retainedObjects (h : p.Refines q) {o : Object} :
    o ∈ p.retainedObjects ↔ o ∈ q.retained := by
  obtain ⟨sorted, hperm, hlists⟩ := h.retained
  have hobjects : (sorted.map Object.entry).map Prod.snd = sorted := by
    rw [List.map_map]
    exact List.map_id' _
  rw [retainedObjects, hlists.toList, hobjects, hperm.mem_iff]

/-- It retains as many. -/
theorem Refines.length_retainedObjects (h : p.Refines q) :
    p.retainedObjects.length = q.retained.length := by
  obtain ⟨sorted, hperm, hlists⟩ := h.retained
  rw [retainedObjects, List.length_map, hlists.toList, List.length_map, hperm.length_eq]

/-- Of two pools that are refined by linear ones, one trails the other as these do. -/
theorem Refines.trails (h : p.Refines q) (h' : p'.Refines q') (htrails : q.Trails q')
    {numbers : Numbering} (hordered : q'.Ordered numbers) : p.Trails p' := by
  refine ⟨?_, ?_, ?_⟩
  · rw [h.live.toList, h'.live.toList, htrails.live]
  · intro o ho
    exact h'.mem_retainedObjects.mpr (htrails.retained.subset (h.mem_retainedObjects.mp ho))
  · intro o ho hlost o' ho'
    rw [h.mem_retainedObjects] at hlost ho'
    rw [h'.mem_retainedObjects] at ho
    obtain ⟨older, heq⟩ := htrails.retained
    have hascending := hordered.ascending
    rw [LinearPool.freeIds, ← heq, List.map_append, List.pairwise_append] at hascending
    rw [← heq] at ho
    rcases List.mem_append.mp ho with holder | hkept
    · exact hascending.2.2 _ (List.mem_map_of_mem holder) _ (List.mem_map_of_mem ho')
    · exact absurd hkept hlost

end Pool

namespace Pools

variable {ι : Type}

/-- Families that differ only in what their pools retain, with the linear pools that they refine. -/
structure Trails (ps ps' : Pools ι) (qs qs' : ι → LinearPool) : Prop where
  first : ps.Refines qs
  second : ps'.Refines qs'
  numbers : ps.numbers = ps'.numbers
  pools : ∀ i, (qs i).Trails (qs' i)
  ordered : ∀ i, (qs' i).Ordered ps'.numbers
  atHand : ∀ i, (ps.pool i).atHand = (ps'.pool i).atHand

/-- New pools that are to retain fewer objects trail new ones that are to retain more. -/
theorem trails_fresh {r r' : ι → Retention} (hle : ∀ i, (r i).capacity ≤ (r' i).capacity) :
    Trails (fresh r) (fresh r') (fun i => { retention := r i }) fun i => { retention := r' i } :=
  ⟨refines_fresh r, refines_fresh r', rfl, fun i => ⟨hle i, rfl, List.suffix_refl []⟩,
    fun i => ⟨List.Pairwise.nil, by simp [LinearPool.freeIds]⟩, fun i => rfl⟩

section

variable [DecidableEq ι] {ps ps' : Pools ι} {qs qs' : ι → LinearPool}

/-- Families of pools trail each other still after an operation on one pool in each. -/
theorem Trails.perform (h : Trails ps ps' qs qs') (i : ι) (c : Pool.Command) :
    Trails (ps.perform i c).2 (ps'.perform i c).2
      (Function.update qs i ((qs i).perform ps.numbers c).2.1)
      (Function.update qs' i ((qs' i).perform ps'.numbers c).2.1) := by
  obtain ⟨-, -, hnumbers⟩ := Pool.perform_refines (h.first.pools i) ps.numbers c
  obtain ⟨-, -, hnumbers'⟩ := Pool.perform_refines (h.second.pools i) ps'.numbers c
  obtain ⟨hpool, hsame⟩ := (h.pools i).perform ps.numbers c
  obtain ⟨ms, hsteps, -⟩ := (qs' i).perform_steps ps'.numbers c
  refine ⟨perform_refines h.first i c, perform_refines h.second i c, ?_, ?_, ?_, ?_⟩
  · calc (ps.perform i c).2.numbers = ((qs i).perform ps.numbers c).2.2 := hnumbers
      _ = ((qs' i).perform ps.numbers c).2.2 := hsame
      _ = ((qs' i).perform ps'.numbers c).2.2 := by rw [h.numbers]
      _ = (ps'.perform i c).2.numbers := hnumbers'.symm
  · intro j
    by_cases hj : j = i
    · subst hj
      rw [Function.update_self, Function.update_self, ← h.numbers]
      exact hpool
    · rw [Function.update_of_ne hj, Function.update_of_ne hj]
      exact h.pools j
  · intro j
    by_cases hj : j = i
    · subst hj
      rw [Function.update_self]
      rw [← hnumbers'] at hsteps
      exact hsteps.ordered (h.ordered j)
    · -- the numbers that another pool draws are later ones
      rw [Function.update_of_ne hj]
      rw [← hnumbers'] at hsteps
      exact (h.ordered j).later hsteps.draws_freeIds.le
  · intro j
    by_cases hj : j = i
    · subst hj
      simp only [Pools.perform, Function.update_self]
      rw [Pool.perform_atHand (h.first.pools j), Pool.perform_atHand (h.second.pools j),
        h.atHand j, (h.pools j).live]
    · simp only [Pools.perform, Function.update_of_ne hj]
      exact h.atHand j

/-- So they do after a run. -/
theorem Trails.performAll (h : Trails ps ps' qs qs') (cs : List (ι × Pool.Command)) :
    ∃ qs₁ qs₁', Trails (ps.performAll cs).2 (ps'.performAll cs).2 qs₁ qs₁' := by
  induction cs generalizing ps ps' qs qs' with
  | nil => exact ⟨qs, qs', h⟩
  | cons e rest ih => exact ih (h.perform e.1 e.2)

/-- The answers of two pools that differ only in what they retain. -/
theorem Trails.answers (h : Trails ps ps' qs qs') (i : ι) (c : Pool.Command) :
    (¬ (ps.pool i).Misses (ps'.pool i) c →
      (ps.perform i c).1 =
        (ps'.perform i c).1.recounted (ps.pool i).retainedObjects.length) ∧
    ((ps.pool i).Misses (ps'.pool i) c →
      (ps.perform i c).1 = c.forgetful (ps'.perform i c).1) := by
  have hp := h.first.pools i
  have hp' := h.second.pools i
  have hperform : (ps'.perform i c).1 = ((ps'.pool i).perform ps.numbers c).1 := by
    rw [h.numbers]
    rfl
  rw [hperform]
  by_cases hc : c = .stats
  · -- the sizes differ only in the number of retained objects, and are asked without a pointer
    subst hc
    refine ⟨fun _ => ?_, fun ⟨o, _, _, a, hpointer, _⟩ => by cases hpointer⟩
    have hhits : (ps.pool i).hits = (ps'.pool i).hits := congrArg AtHand.hits (h.atHand i)
    change Pool.Answer.stats (ps.pool i).stats =
      Pool.Answer.recounted _ (.stats (ps'.pool i).stats)
    rw [hp.stats, hp'.stats, (h.pools i).live, hhits, hp.length_retainedObjects]
    rfl
  have hanswer : (ps.perform i c).1 = ((qs i).perform ps.numbers c).1 :=
    hp.perform_answer ps.numbers hc
  rw [hanswer, hp'.perform_answer ps.numbers hc]
  refine ⟨fun hkept => ?_, ?_⟩
  · rw [(qs' i).recounted_perform ps.numbers hc]
    refine (h.pools i).perform_answer ps.numbers hc fun a hpointer => ?_
    refine (h.pools i).retainedAt hp'.valid fun o ho hcontains => ?_
    by_contra hlost
    rw [← hp.mem_retainedObjects] at hlost
    exact hkept ⟨o, hp'.mem_retainedObjects.mpr ho, hlost, a, hpointer, hcontains⟩
  · rintro ⟨o, ho, hlost, hpointer⟩
    rw [hp.mem_retainedObjects] at hlost
    rw [hp'.mem_retainedObjects] at ho
    exact (h.pools i).perform_forgetful hp'.valid ps.numbers ho hlost hpointer

end

variable [DecidableEq ι]

/-- Two families whose pools may retain differently many freed objects are given the same run. Then
they draw the same numbers, and each pool of the first family has the live objects of its
counterpart and, of the retained ones, those that were freed last. An operation answers the same in
both families, where each pool counts the objects that it retains, unless its pointer points into an
object that only the second retains; then the first answers as if no object had been there. Whatever
succeeds in one of them succeeds in the other one with the same answer. -/
theorem performAll_retention (r r' : ι → Retention)
    (hle : ∀ i, (r i).capacity ≤ (r' i).capacity) (cs : List (ι × Pool.Command)) (i : ι)
    (c : Pool.Command) :
    let ps := ((fresh r).performAll cs).2
    let ps' := ((fresh r').performAll cs).2
    let answer := (ps.perform i c).1
    let answer' := (ps'.perform i c).1
    (ps.numbers = ps'.numbers ∧ (ps.pool i).Trails (ps'.pool i)) ∧
      (¬ (ps.pool i).Misses (ps'.pool i) c →
        answer = answer'.recounted (ps.pool i).retainedObjects.length) ∧
      ((ps.pool i).Misses (ps'.pool i) c → answer = c.forgetful answer') ∧
      (answer.succeeds = true ∨ answer'.succeeds = true → answer = answer') := by
  intro ps ps' answer answer'
  obtain ⟨qs, qs', h⟩ := (trails_fresh hle).performAll cs
  obtain ⟨hsame, hforgetful⟩ := h.answers i c
  refine ⟨⟨h.numbers, (h.first.pools i).trails (h.second.pools i) (h.pools i) (h.ordered i)⟩,
    hsame, hforgetful, fun hsucceeds => ?_⟩
  by_cases hmisses : (ps.pool i).Misses (ps'.pool i) c
  · have heq : answer = c.forgetful answer' := hforgetful hmisses
    rw [heq, Pool.Command.succeeds_forgetful, or_self] at hsucceeds
    rw [heq, Pool.Command.forgetful_of_succeeds c hsucceeds]
  · have heq : answer = answer'.recounted (ps.pool i).retainedObjects.length := hsame hmisses
    rw [heq, answer'.succeeds_recounted, or_self] at hsucceeds
    rw [heq, Pool.Answer.recounted_of_succeeds _ hsucceeds]

/-- A pool that retains nothing does not recognise the second free of an object at 4096, which a
pool that retains one object recognises. -/
theorem performAll_retention_double_free :
    (((fresh fun _ : Unit => .immediate).performAll
        [((), .registerBytes 4096 64 .heap none), ((), .free 4096 none)]).2.perform ()
      (.free 4096 none)).1 = .freed (.error { kind := .freeOutsideHeap, pointer := 4096 }) := by
  have hretention := performAll_retention (fun _ : Unit => .immediate) (fun _ => .keep 1)
    (fun _ => Nat.zero_le 1) [((), .registerBytes 4096 64 .heap none), ((), .free 4096 none)] ()
    (.free 4096 none)
  let freed : Object :=
    { span := ⟨4096, 4160, by decide⟩, kind := .heap, allocId := 1, allocSite := none,
      release := some ⟨1, none⟩ }
  refine (hretention.2.2.1 ⟨freed, ?_, ?_, 4096, rfl, by decide⟩).trans rfl
  · decide +kernel
  · decide +kernel

end Pools

end MemorySentry
