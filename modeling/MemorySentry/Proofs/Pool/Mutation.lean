import MemorySentry.Pool.Command
import MemorySentry.Proofs.Pool.Objects

/-!
# The changes of a linear pool

Whatever operations do to the objects of a pool is a sequence of four kinds of steps: an object is
registered, a live object is freed, the object at a base is dropped, or the pool is reset. `Step`
says once what each of them does. An operation is taken apart into steps once (`perform_steps`), so
that an invariant needs one argument per kind of step; operations that only ask take none.
-/

namespace MemorySentry

/-- A change of a pool. -/
inductive Mutation where
  /-- A span is registered. -/
  | register (s : Span) (kind : ObjectKind) (site : Option Site)
  /-- A live object is freed. -/
  | free (o : Object) (site : Option Site)
  /-- The live object at a base is dropped, if there is one. -/
  | drop (a : Address)
  /-- All objects are forgotten. -/
  | reset

/-- Whether an object is freed. -/
def Mutation.isFree : Mutation → Bool
  | free .. => true
  | _ => false

namespace Pool

/-- The span that an operation has registered, if its answer tells that it has registered one. -/
def Command.registered : Command → Answer → Option Span
  | .register s _ _, _ => some s
  | .registerBytes a size _ _, .registration (some _) => (Span.ofLength a size).toOption
  | .move new _ size _ _, .moved (.ok (some _)) => (Span.ofLength new size).toOption
  | _, _ => none

/-- Whether the answer of an operation tells that it has freed an object. -/
def Command.hasFreed : Command → Answer → Bool
  | .free _ _, .freed (.ok (some _)) => true
  | .move new old size _ _, .moved (.ok _) => old ≠ 0 && (size = 0 || new ≠ 0)
  | _, _ => false

end Pool

namespace LinearPool

/-- The live objects that merge with a new one, in ascending order. -/
def members (q : LinearPool) (s : Span) (kind : ObjectKind) : List Object :=
  (q.live.filter fun o => o.span.overlaps s).filter fun o => kind.merges && o.kind.merges

/-- The object that the registration of a span leaves. -/
def newcomer (q : LinearPool) (numbers : Numbering) (s : Span) (kind : ObjectKind)
    (site : Option Site) : Object :=
  match (q.members s kind).getLast? with
  | some o => { o with span := hullOf s (q.members s kind) }
  | none =>
    { span := hullOf s (q.members s kind), kind, allocId := numbers.nextAlloc, allocSite := site }

/-- What a change does to the objects and to the numbers. -/
inductive Step (q : LinearPool) (numbers : Numbering) : Mutation → LinearPool → Numbering → Prop
  | register (s : Span) (kind : ObjectKind) (site : Option Site) :
    Step q numbers (.register s kind site)
      { q with
        live := place (q.newcomer numbers s kind site) (q.live.filter fun o => !o.span.overlaps s)
        retained := q.retained.filter fun o => !o.span.overlaps s }
      { numbers with nextAlloc := numbers.nextAlloc + 1 }
  | free (o : Object) (site : Option Site) (hlive : o ∈ q.live) (hheap : o.kind.isHeap = true) :
    Step q numbers (.free o site)
      { q with
        live := q.live.filter fun e => e.span.start ≠ o.span.start
        retained := newest q.retention.capacity (q.retained ++ [o.retire numbers.nextFree site]) }
      { numbers with nextFree := numbers.nextFree + 1 }
  | drop (a : Address) :
    Step q numbers (.drop a) { q with live := q.live.filter fun e => e.span.start ≠ a } numbers
  | reset : Step q numbers .reset { q with live := [], retained := [] } numbers

/-- A sequence of changes. -/
inductive Steps : LinearPool → Numbering → List Mutation → LinearPool → Numbering → Prop
  | nil (q : LinearPool) (numbers : Numbering) : Steps q numbers [] q numbers
  | cons {q q' q'' : LinearPool} {numbers numbers' numbers'' : Numbering} {μ : Mutation}
      {rest : List Mutation} (hstep : q.Step numbers μ q' numbers')
      (hsteps : Steps q' numbers' rest q'' numbers'') : Steps q numbers (μ :: rest) q'' numbers''

/-- A mutation is a sequence of mutations. -/
theorem Steps.one {q q' : LinearPool} {numbers numbers' : Numbering} {μ : Mutation}
    (h : q.Step numbers μ q' numbers') : q.Steps numbers [μ] q' numbers' :=
  .cons h (.nil q' numbers')

/-- What every step keeps, a sequence of steps keeps. -/
theorem Steps.invariant {P : LinearPool → Prop}
    (hstep : ∀ {q q' : LinearPool} {numbers numbers' : Numbering} {μ : Mutation},
      q.Step numbers μ q' numbers' → P q → P q')
    {q q' : LinearPool} {numbers numbers' : Numbering} {ms : List Mutation}
    (h : q.Steps numbers ms q' numbers') (hq : P q) : P q' := by
  induction h with
  | nil => exact hq
  | cons hfirst _ ih => exact ih (hstep hfirst hq)

/-! ### Operations as steps -/

/-- A free of the null address does nothing, a free of the base of a live object on the heap frees
the object, and every other free is a violation and changes nothing. -/
theorem free_cases (q : LinearPool) (numbers : Numbering) (a : Address) (site : Option Site) :
    (a = 0 ∧ q.free numbers a site = (.ok none, q, numbers)) ∨
    (a ≠ 0 ∧ ∃ o ∈ q.live, o.kind.isHeap = true ∧ o.span.start = a ∧
      q.free numbers a site = (.ok (some (o.retire numbers.nextFree site)),
        { q with
          live := q.live.filter fun e => e.span.start ≠ o.span.start
          retained :=
            newest q.retention.capacity (q.retained ++ [o.retire numbers.nextFree site]) },
        { numbers with nextFree := numbers.nextFree + 1 })) ∨
    ∃ v, q.free numbers a site = (.error v, q, numbers) := by
  unfold LinearPool.free
  by_cases ha : a = 0
  · exact Or.inl ⟨ha, if_pos ha⟩
  rw [if_neg ha]
  refine Or.inr ?_
  -- a live object at the address decides, and only without one the retained ones are asked
  cases hlive : q.objectAt a with
  | none =>
    cases hretained : q.retainedAt a with
    | none => exact Or.inr ⟨_, rfl⟩
    | some o => exact Or.inr ⟨_, rfl⟩
  | some o =>
    by_cases hheap : o.kind.isHeap = true
    · by_cases hstart : o.span.start = a
      · subst hstart
        refine Or.inl ⟨ha, o, List.mem_of_find?_eq_some hlive, hheap, rfl, ?_⟩
        simp [hheap]
      · exact Or.inr ⟨_, by simp [hheap, hstart]; rfl⟩
    · exact Or.inr ⟨_, by simp [hheap]; rfl⟩

/-- The end of a scope takes out the object at the base, if there is one. -/
theorem endScope_eq (q : LinearPool) (a : Address) :
    q.endScope a = (q.live.find? fun o => o.span.start == a,
      { q with live := q.live.filter fun e => e.span.start ≠ a }) := by
  unfold LinearPool.endScope
  cases hfind : q.live.find? fun o => o.span.start == a with
  | some o => rfl
  | none =>
    have hall : (q.live.filter fun e => e.span.start ≠ a) = q.live :=
      List.filter_eq_self.mpr fun e he => by simpa using List.find?_eq_none.mp hfind e he
    rw [hall]

/-- Bytes that make a span at a place other than the null address are registered, and all others
change nothing. -/
theorem registerBytes_cases (q : LinearPool) (numbers : Numbering) (a : Address) (size : ByteCount)
    (kind : ObjectKind) (site : Option Site) :
    (∃ s, Span.ofLength a size = .ok s ∧
      q.registerBytes numbers a size kind site =
        (some (q.register numbers s kind site).1, (q.register numbers s kind site).2)) ∨
    q.registerBytes numbers a size kind site = (none, q, numbers) := by
  unfold LinearPool.registerBytes
  cases hspan : Span.ofLength a size with
  | error e => exact Or.inr rfl
  | ok s =>
    by_cases ha : a = 0
    · exact Or.inr (by simp [ha])
    · exact Or.inl ⟨s, rfl, by simp [ha]⟩

/-- A registration is a mutation. -/
theorem register_step (q : LinearPool) (numbers : Numbering) (s : Span) (kind : ObjectKind)
    (site : Option Site) :
    q.Step numbers (.register s kind site) (q.register numbers s kind site).2.1
      (q.register numbers s kind site).2.2 :=
  .register s kind site

/-- The steps of an operation, as its answer tells them. -/
structure Describes (ms : List Mutation) (c : Pool.Command) (answer : Pool.Answer) : Prop where
  /-- At most one span is registered, the one that the answer tells. -/
  registered : ∀ s kind site, .register s kind site ∈ ms → c.registered answer = some s
  /-- At most one object is freed, if the answer tells so. -/
  freed : ms.countP Mutation.isFree = if c.hasFreed answer then 1 else 0
  /-- Only a reset resets the pool. -/
  reset : .reset ∈ ms → c = .reset

namespace Describes

variable {c : Pool.Command} {answer : Pool.Answer}

/-- An operation that frees nothing and registers nothing is described by no mutation. -/
theorem nil (hfreed : c.hasFreed answer = false) : Describes [] c answer :=
  ⟨by simp, by simp [hfreed], by simp⟩

/-- One that registers something is described by the registration. -/
theorem register {s : Span} (hregistered : c.registered answer = some s)
    (hfreed : c.hasFreed answer = false) (kind : ObjectKind) (site : Option Site) :
    Describes [.register s kind site] c answer := by
  refine ⟨?_, by simp [hfreed, Mutation.isFree], by simp⟩
  intro s' kind' site' hmem
  cases List.mem_singleton.mp hmem
  exact hregistered

/-- One that frees something is described by the free. -/
theorem free (hfreed : c.hasFreed answer = true) (o : Object) (site : Option Site) :
    Describes [.free o site] c answer :=
  ⟨by simp, by simp [hfreed, Mutation.isFree], by simp⟩

/-- One that does both is described by both, the free first. -/
theorem free_register {s : Span} (hregistered : c.registered answer = some s)
    (hfreed : c.hasFreed answer = true) (o : Object) (kind : ObjectKind) (site : Option Site) :
    Describes [.free o site, .register s kind site] c answer := by
  refine ⟨?_, by rw [hfreed]; rfl, by simp⟩
  intro s' kind' site' hmem
  rcases List.mem_cons.mp hmem with hmem | hmem
  · cases hmem
  · cases List.mem_singleton.mp hmem
    exact hregistered

end Describes

/-- A move frees the old object and registers the new one, and may do only one of the two or
none. -/
theorem move_steps (q : LinearPool) (numbers : Numbering) (new old : Address) (size : ByteCount)
    (kind : ObjectKind) (site : Option Site) :
    ∃ ms, q.Steps numbers ms (q.move numbers new old size kind site).2.1
        (q.move numbers new old size kind site).2.2 ∧
      Describes ms (.move new old size kind site)
        (.moved (q.move numbers new old size kind site).1) := by
  unfold LinearPool.move
  by_cases hfailed : old ≠ 0 ∧ size ≠ 0 ∧ new = 0
  · -- a reallocation that failed leaves the old object alone
    rw [if_pos hfailed]
    refine ⟨[], .nil q numbers, .nil ?_⟩
    simp [Pool.Command.hasFreed, hfailed]
  · rw [if_neg hfailed]
    rcases free_cases q numbers old site with
      ⟨hold, heq⟩ | ⟨hold, o, hlive, hheap, -, heq⟩ | ⟨v, heq⟩
    · -- without an old address nothing is freed, and only the registration counts
      rw [heq]
      simp only
      rcases registerBytes_cases q numbers new size kind site with ⟨s, hspan, heq'⟩ | heq'
      · rw [heq']
        refine ⟨[.register s kind site], .one (register_step q numbers s kind site),
          .register ?_ ?_ kind site⟩
        · simp [Pool.Command.registered, hspan, Except.toOption]
        · simp [Pool.Command.hasFreed, hold]
      · rw [heq']
        refine ⟨[], .nil q numbers, .nil ?_⟩
        simp [Pool.Command.hasFreed, hold]
    · -- whatever the registration does, the answer tells of the free
      have hfreed : ∀ r,
          (Pool.Command.move new old size kind site).hasFreed (.moved (.ok r)) = true := by
        intro r
        simp only [Pool.Command.hasFreed, Bool.and_eq_true, Bool.or_eq_true, decide_eq_true_eq]
        tauto
      rw [heq]
      simp only
      rcases registerBytes_cases
          { q with
            live := q.live.filter fun e => e.span.start ≠ o.span.start
            retained :=
              newest q.retention.capacity (q.retained ++ [o.retire numbers.nextFree site]) }
          { numbers with nextFree := numbers.nextFree + 1 } new size kind site with
        ⟨s, hspan, heq'⟩ | heq'
      · rw [heq']
        refine ⟨[.free o site, .register s kind site],
          .cons (.free o site hlive hheap) (.one (register_step _ _ s kind site)), ?_⟩
        exact .free_register (by simp [Pool.Command.registered, hspan, Except.toOption])
          (hfreed _) o kind site
      · rw [heq']
        exact ⟨[.free o site], .one (.free o site hlive hheap), .free (hfreed _) o site⟩
    · -- a refused free ends the move, and nothing is registered
      rw [heq]
      exact ⟨[], .nil q numbers, .nil rfl⟩

/-- Every operation is a sequence of steps. -/
theorem perform_steps (q : LinearPool) (numbers : Numbering) (c : Pool.Command) :
    ∃ ms, q.Steps numbers ms (q.perform numbers c).2.1 (q.perform numbers c).2.2 ∧
      Describes ms c (q.perform numbers c).1 := by
  cases c with
  | register s kind site =>
    exact ⟨[.register s kind site], .one (register_step q numbers s kind site),
      .register rfl rfl kind site⟩
  | registerBytes a size kind site =>
    simp only [perform]
    rcases registerBytes_cases q numbers a size kind site with ⟨s, hspan, heq⟩ | heq
    · rw [heq]
      refine ⟨[.register s kind site], .one (register_step q numbers s kind site),
        .register ?_ rfl kind site⟩
      simp [Pool.Command.registered, hspan, Except.toOption]
    · rw [heq]
      exact ⟨[], .nil q numbers, .nil rfl⟩
  | free a site =>
    simp only [perform]
    rcases free_cases q numbers a site with ⟨-, heq⟩ | ⟨-, o, hlive, hheap, -, heq⟩ | ⟨v, heq⟩
    · rw [heq]
      exact ⟨[], .nil q numbers, .nil rfl⟩
    · rw [heq]
      exact ⟨[.free o site], .one (.free o site hlive hheap), .free rfl o site⟩
    · rw [heq]
      exact ⟨[], .nil q numbers, .nil rfl⟩
  | endScope a =>
    simp only [perform, endScope_eq]
    exact ⟨[.drop a], .one (.drop a), ⟨by simp, rfl, by simp⟩⟩
  | move new old size kind site => exact move_steps q numbers new old size kind site
  | reset => exact ⟨[.reset], .one .reset, ⟨by simp, rfl, by simp⟩⟩
  -- what only asks takes no step
  | checkAccess a length mode => exact ⟨[], .nil q numbers, .nil rfl⟩
  | checkAlignment a elementSize => exact ⟨[], .nil q numbers, .nil rfl⟩
  | checkArithmetic source dest mode => exact ⟨[], .nil q numbers, .nil rfl⟩
  | objectAt a => exact ⟨[], .nil q numbers, .nil rfl⟩
  | retainedAt a => exact ⟨[], .nil q numbers, .nil rfl⟩
  | objects => exact ⟨[], .nil q numbers, .nil rfl⟩
  | stats => exact ⟨[], .nil q numbers, .nil rfl⟩

end LinearPool

end MemorySentry
