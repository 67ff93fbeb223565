import MemorySentry.Proofs.Monitor.Operations
import MemorySentry.Proofs.Pool.Renumbering

/-!
# Pools do not disturb each other

All pools of a monitor draw from the same numbers, fall back on the same objects from outside, and
report to the same log. Still the operations on other pools can be taken out of a run without
changing what the operations on a pool answer, but for the numbers in it (`performAll_isolated`).

The two runs are related by `AlikeFor`: the pool is in both the same but for the numbers of its
objects, and so are the objects from outside. An operation on another pool is a step of one of the
runs alone (`AlikeFor.perform_other`), and every other operation is a step of both
(`AlikeFor.perform`).
-/

namespace MemorySentry.Monitor

/-- The answer without the numbers of the objects in it. -/
def Answer.unnumbered : Answer → Answer
  | .objects os => .objects (os.map (List.map Object.unnumbered))
  | .object o => .object (o.map Object.unnumbered)
  | .registration r => .registration (r.map Registration.unnumbered)
  | .moved r => .moved (unnumberedResult (Option.map Registration.unnumbered) r)
  | .freed r => .freed (unnumberedResult (Option.map Object.unnumbered) r)
  | .verdict r => .verdict (unnumberedResult id r)
  | .checked r => .checked (unnumberedResult id r)
  | .derived r => .derived (unnumberedResult id r)
  | .string r => .string (unnumberedResult id r)
  | answer => answer

/-- Whether an operation stays in a run when the operations on pools other than `id` are taken
out. -/
def Command.staysFor (id : PoolId) (c : Command) : Bool :=
  c.pool?.all fun named => named == id

/-- Whether an operation is one on the pool `id` or registers what comes from outside. -/
def Command.isAbout (id : PoolId) : Command → Bool
  | .registerExternal .. => true
  | c => c.pool? == some id

/-- The answers, without numbers, to the operations on the pool `id` and to those that register what
comes from outside. -/
def answersAbout (id : PoolId) (cs : List Command) (answers : List Answer) : List Answer :=
  ((cs.zip answers).filter fun e => e.1.isAbout id).map fun e => e.2.unnumbered

/-- The answer of an operation is about a pool if the operation is. -/
theorem answersAbout_cons (id : PoolId) (c : Command) (cs : List Command) (answer : Answer)
    (answers : List Answer) :
    answersAbout id (c :: cs) (answer :: answers) =
      if c.isAbout id then answer.unnumbered :: answersAbout id cs answers
      else answersAbout id cs answers := by
  simp only [answersAbout, List.zip_cons_cons, List.filter_cons]
  split <;> rfl

/-- Only operations on other pools are taken out of a run. -/
theorem Command.pool?_of_not_staysFor {id : PoolId} {c : Command} (h : c.staysFor id = false) :
    ∃ named, c.pool? = some named ∧ named ≠ id := by
  unfold staysFor at h
  cases hpool : c.pool? with
  | none =>
    rw [hpool] at h
    cases h
  | some named =>
    rw [hpool] at h
    exact ⟨named, rfl, by simpa using h⟩

/-- An operation that names one pool is not about another. -/
theorem Command.not_isAbout {id named : PoolId} {c : Command} (hpool : c.pool? = some named)
    (hnamed : named ≠ id) : ¬ c.isAbout id := by
  cases c with
  | registerExternal => cases hpool
  | _ => simp [isAbout, hpool, hnamed]

/-! ### Conclusions from the same answers -/

section

/-- To place a violation does not depend on numbers. -/
theorem located_unnumbered {α : Type} (f : α → α) (r : Except Violation α) (site : Option Site) :
    unnumberedResult f (located r site) = located (unnumberedResult f r) site := by
  cases r with
  | ok a => rfl
  | error v => cases site <;> rfl

/-- Nor does it, whether a pool knows nothing. -/
theorem missed_unnumbered (a : Address) (r : Except Violation Verdict) :
    missed a (unnumberedResult id r) = missed a r := by
  rcases r with v | s | _ | _
  · simp [missed, unnumberedResult, Except.map, Except.mapError, Violation.unnumbered]
  · rfl
  · rfl
  · rfl

/-- Nor does it, who decides. -/
theorem settle_unnumbered (a : Address) (r fromOutside : Except Violation Verdict) :
    unnumberedResult id (settle a r fromOutside) =
      settle a (unnumberedResult id r) (unnumberedResult id fromOutside) := by
  unfold settle
  rw [missed_unnumbered]
  split
  · rcases fromOutside with v | s | _ | _ <;> rfl
  · rfl

/-- Nor does what a string is found to be. -/
theorem readString_unnumbered (memory : Address → UInt8) (a : Address) (function : String)
    (o : Option Object) :
    unnumberedResult id (readString memory a function (o.map Object.unnumbered)) =
      unnumberedResult id (readString memory a function o) := by
  cases o with
  | none => rfl
  | some o =>
    simp only [readString, Option.map_some, Object.unnumbered_span]
    cases stringLength? memory a (o.span.stop - a).toNat with
    | some n => rfl
    | none =>
      simp only [unnumberedResult_error, Violation.unnumbered_calling,
        Violation.unnumbered_about]

variable (answer : Option Pool.Answer)

theorem objectIn_unnumbered :
    objectIn (answer.map Pool.Answer.unnumbered) = (objectIn answer).map Object.unnumbered := by
  rcases answer with _ | answer
  · rfl
  · cases answer <;> rfl

theorem registrationIn_unnumbered :
    registrationIn (answer.map Pool.Answer.unnumbered) =
      (registrationIn answer).map Registration.unnumbered := by
  rcases answer with _ | answer
  · rfl
  · cases answer <;> rfl

theorem freedIn_unnumbered :
    freedIn (answer.map Pool.Answer.unnumbered) =
      unnumberedResult (Option.map Object.unnumbered) (freedIn answer) := by
  rcases answer with _ | answer
  · rfl
  · cases answer <;> rfl

theorem movedIn_unnumbered :
    movedIn (answer.map Pool.Answer.unnumbered) =
      unnumberedResult (Option.map Registration.unnumbered) (movedIn answer) := by
  rcases answer with _ | answer
  · rfl
  · cases answer <;> rfl

theorem verdictIn_unnumbered :
    verdictIn (answer.map Pool.Answer.unnumbered) = unnumberedResult id (verdictIn answer) := by
  rcases answer with _ | answer
  · rfl
  · cases answer <;> rfl

theorem alignedIn_unnumbered :
    alignedIn (answer.map Pool.Answer.unnumbered) = unnumberedResult id (alignedIn answer) := by
  rcases answer with _ | answer
  · rfl
  · cases answer <;> rfl

end

/-- From answers that are the same without numbers the same is concluded without numbers. -/
theorem conclude_unnumbered {external external' : Pool} (h : external.SameObjects external')
    {answer answer' : Option Pool.Answer}
    (hanswer : answer.map Pool.Answer.unnumbered = answer'.map Pool.Answer.unnumbered)
    (c : Command) :
    (c.conclude external answer).unnumbered = (c.conclude external' answer').unnumbered := by
  have hobject : (objectIn answer).map Object.unnumbered =
      (objectIn answer').map Object.unnumbered := by
    rw [← objectIn_unnumbered, hanswer, objectIn_unnumbered]
  have hverdict : unnumberedResult id (verdictIn answer) =
      unnumberedResult id (verdictIn answer') := by
    rw [← verdictIn_unnumbered, hanswer, verdictIn_unnumbered]
  have hfreed : unnumberedResult (Option.map Object.unnumbered) (freedIn answer) =
      unnumberedResult (Option.map Object.unnumbered) (freedIn answer') := by
    rw [← freedIn_unnumbered, hanswer, freedIn_unnumbered]
  have hmoved : unnumberedResult (Option.map Registration.unnumbered) (movedIn answer) =
      unnumberedResult (Option.map Registration.unnumbered) (movedIn answer') := by
    rw [← movedIn_unnumbered, hanswer, movedIn_unnumbered]
  cases c with
  | poolStats id =>
    have hstats : ∀ external answer, (Command.conclude external answer (.poolStats id)).unnumbered =
        Command.conclude external' (answer.map Pool.Answer.unnumbered) (.poolStats id) := by
      rintro external (_ | answer)
      · rfl
      · cases answer <;> rfl
    rw [hstats, hstats, hanswer]
  | objects id =>
    have hobjects : ∀ external answer, (Command.conclude external answer (.objects id)).unnumbered =
        Command.conclude external' (answer.map Pool.Answer.unnumbered) (.objects id) := by
      rintro external (_ | answer)
      · rfl
      · cases answer <;> rfl
    rw [hobjects, hobjects, hanswer]
  | objectAt | retainedAt | endScope => exact congrArg Answer.object hobject
  | register id a size kind site =>
    refine congrArg Answer.registration ?_
    rw [← registrationIn_unnumbered, hanswer, registrationIn_unnumbered]
  | free | deallocated =>
    refine congrArg Answer.freed ?_
    rw [located_unnumbered, hfreed, located_unnumbered]
  | move | allocated =>
    refine congrArg Answer.moved ?_
    rw [located_unnumbered, hmoved, located_unnumbered]
  | checkAccess id a length mode site =>
    -- whether the objects from outside decide is the same without numbers, and so is what they say
    refine congrArg Answer.verdict ?_
    rw [located_unnumbered, settle_unnumbered, hverdict, h.checkAccess, ← settle_unnumbered,
      located_unnumbered]
  | checkArithmetic id source dest mode site =>
    refine congrArg Answer.verdict ?_
    rw [located_unnumbered, settle_unnumbered, hverdict, h.checkArithmetic, ← settle_unnumbered,
      located_unnumbered]
  | checkAlignment id a elementSize site =>
    refine congrArg Answer.checked ?_
    rw [located_unnumbered, ← alignedIn_unnumbered, hanswer, alignedIn_unnumbered,
      located_unnumbered]
  | checkString memory id a function site =>
    -- the object may come from outside, but only its span is read
    have hfound : ((objectIn answer).or (external.objectAt a).1).map Object.unnumbered =
        ((objectIn answer').or (external'.objectAt a).1).map Object.unnumbered := by
      rw [Option.map_or, Option.map_or, hobject, h.objectAt]
    simp only [Command.conclude]
    split
    · rfl
    · refine congrArg Answer.string ?_
      rw [located_unnumbered, ← readString_unnumbered, hfound, readString_unnumbered,
        located_unnumbered]
  | _ => rfl

/-! ### Monitors that are alike for a pool -/

/-- The two monitors have the same pool `id` and the same objects from outside, but for the numbers
of these objects. What other pools there are and what was counted and reported may differ. -/
structure AlikeFor (id : PoolId) (m m' : Monitor) : Prop where
  retention : m.settings.retention = m'.settings.retention
  nextPool : m.nextPool = m'.nextPool
  allocators : m.allocators = m'.allocators
  pool : Option.Rel Pool.Alike (m.pool? id) (m'.pool? id)
  external : m.external.SameObjects m'.external
  numbered : m.Numbered
  numbered' : m'.Numbered

/-- New monitors are alike for every pool. -/
theorem alikeFor_start (settings : Settings) (sink : Sink) (page : UInt64) (id : PoolId) :
    AlikeFor id (start settings sink page) (start settings sink page) where
  retention := rfl
  nextPool := rfl
  allocators := rfl
  pool := .none
  external := (Pool.alike_empty .immediate).objects
  numbered := numbered_start settings sink page
  numbered' := numbered_start settings sink page

namespace AlikeFor

variable {id : PoolId} {m m' n n' : Monitor}

/-- What is counted and reported makes no difference. -/
theorem tracks (h : AlikeFor id m m') (ht : Tracks m n) (ht' : Tracks m' n') :
    AlikeFor id n n' where
  retention := by rw [ht.settings, ht'.settings, h.retention]
  nextPool := by rw [ht.nextPool, ht'.nextPool, h.nextPool]
  allocators := by rw [ht.allocators, ht'.allocators, h.allocators]
  pool := by
    rw [ht.pools, ht'.pools]
    exact h.pool
  external := by
    obtain ⟨q, q', hq, hq', hsame⟩ := h.external
    exact ⟨q, q', ht.external q hq, ht'.external q' hq', hsame⟩
  numbered := ht.numbered h.numbered
  numbered' := ht'.numbered h.numbered'

/-- The pool is in both monitors or in neither. -/
theorem pool_cases (h : AlikeFor id m m') :
    (m.pool? id = none ∧ m'.pool? id = none) ∨
      ∃ p p', m.pool? id = some p ∧ m'.pool? id = some p' ∧ p.Alike p' := by
  have hpool := h.pool
  revert hpool
  cases m.pool? id with
  | none => cases m'.pool? id <;> simp
  | some p => cases m'.pool? id <;> simp

/-- What pools there are besides, and which numbers are drawn, makes no difference. -/
theorem ofPools (h : AlikeFor id m m') (hn : SameApartFromPools m n)
    (hn' : SameApartFromPools m' n')
    (hpool : Option.Rel Pool.Alike (n.pool? id) (n'.pool? id)) (hnumbered : n.Numbered)
    (hnumbered' : n'.Numbered) : AlikeFor id n n' where
  retention := by rw [hn.settings, hn'.settings, h.retention]
  nextPool := by rw [hn.nextPool, hn'.nextPool, h.nextPool]
  allocators := by rw [hn.allocators, hn'.allocators, h.allocators]
  pool := hpool
  external := by
    rw [hn.external, hn'.external]
    exact h.external
  numbered := hnumbered
  numbered' := hnumbered'

/-! #### Operations on another pool -/

/-- An operation on another pool leaves the monitors alike for this one. -/
theorem onPool_other (h : AlikeFor id m m') {named : PoolId} (hnamed : named ≠ id)
    (pc : Pool.Command) : AlikeFor id (m.onPool named pc) m' := by
  refine h.ofPools (m.sameApartFromPools_onPool named pc) (.refl m') ?_ (h.numbered.onPool named pc)
    h.numbered'
  rw [pool?_onPool, if_neg hnamed.symm]
  exact h.pool

/-- So does it to destroy another pool. -/
theorem destroyPool_other (h : AlikeFor id m m') {named : PoolId} (hnamed : named ≠ id) :
    AlikeFor id (m.destroyPool named).2 m' := by
  refine h.ofPools (m.sameApartFromPools_destroyPool named) (.refl m') ?_
    (h.numbered.destroyPool named) h.numbered'
  rw [pool?_destroyPool, if_neg hnamed.symm]
  exact h.pool

/-- An operation that names another pool leaves nothing behind that matters for this one. -/
theorem perform_other (h : AlikeFor id m m') {c : Command} {named : PoolId}
    (hc : c.pool? = some named) (hnamed : named ≠ id) : AlikeFor id (m.perform c).2 m' := by
  cases hs : c.isStructural with
  | true =>
    cases c with
    | destroyPool named' =>
      cases hc
      exact h.destroyPool_other hnamed
    -- the other ones name no pool
    | createPool | registerExternal | announce => cases hc
    | _ => cases hs
  | false =>
    refine tracks ?_ (m.perform_tracks hs) (.refl m')
    unfold afterPool
    cases hin : c.inPool m.allocators with
    | none => exact h
    | some e =>
      obtain ⟨named', pc⟩ := e
      have hsame := (Command.pool?_of_inPool hin).symm.trans hc
      cases hsame
      exact h.onPool_other hnamed pc

/-! #### Operations that stay -/

/-- The same operation on this pool leaves them alike. -/
theorem onPool (h : AlikeFor id m m') (pc : Pool.Command) :
    AlikeFor id (m.onPool id pc) (m'.onPool id pc) := by
  refine h.ofPools (m.sameApartFromPools_onPool id pc) (m'.sameApartFromPools_onPool id pc) ?_
    (h.numbered.onPool id pc) (h.numbered'.onPool id pc)
  rw [pool?_onPool, pool?_onPool, if_pos rfl, if_pos rfl]
  obtain ⟨hp, hp'⟩ | ⟨p, p', hp, hp', halike⟩ := h.pool_cases <;> rw [hp, hp']
  · exact .none
  · exact .some (halike.perform m.numbers m'.numbers pc)

/-- So does it to destroy this pool in both. -/
theorem destroyPool (h : AlikeFor id m m') :
    AlikeFor id (m.destroyPool id).2 (m'.destroyPool id).2 := by
  refine h.ofPools (m.sameApartFromPools_destroyPool id) (m'.sameApartFromPools_destroyPool id) ?_
    (h.numbered.destroyPool id) (h.numbered'.destroyPool id)
  rw [pool?_destroyPool, pool?_destroyPool, if_pos rfl, if_pos rfl]
  exact .none

/-- So does it to create a pool in both. -/
theorem createPool (h : AlikeFor id m m') : AlikeFor id m.createPool.2 m'.createPool.2 where
  retention := h.retention
  nextPool := congrArg (· + 1) h.nextPool
  allocators := h.allocators
  pool := by
    rw [pool?_createPool h.numbered, pool?_createPool h.numbered', ← h.nextPool, ← h.retention]
    split
    · exact .some (Pool.alike_empty _)
    · exact h.pool
  external := h.external
  numbered := h.numbered.createPool
  numbered' := h.numbered'.createPool

/-- So does it to register memory from outside in both. -/
theorem registerExternal (h : AlikeFor id m m') (a : Address) (size : ByteCount)
    (site : Option Site) :
    AlikeFor id (m.registerExternal a size site).2 (m'.registerExternal a size site).2 := by
  obtain ⟨numbers, counters, heq⟩ := m.registerExternal_eq a size site
  obtain ⟨numbers', counters', heq'⟩ := m'.registerExternal_eq a size site
  rw [heq, heq']
  exact { h with
    external := h.external.perform m.numbers m'.numbers (.registerBytes a size _ site) }

/-- An operation that stays in the run keeps monitors alike. -/
theorem perform (h : AlikeFor id m m') {c : Command} (hc : c.staysFor id) :
    AlikeFor id (m.perform c).2 (m'.perform c).2 := by
  cases hs : c.isStructural with
  | true =>
    -- one by one, since each changes something else than a pool
    cases c with
    | createPool => exact h.createPool
    | destroyPool named =>
      have hnamed : named = id := by simpa [Command.staysFor, Command.pool?] using hc
      rw [hnamed]
      exact h.destroyPool
    | registerExternal a size site => exact h.registerExternal a size site
    | announce f =>
      exact { h with allocators := congrArg (fun t => AllocatorTable.announce t f) h.allocators }
    | _ => cases hs
  | false =>
    refine tracks ?_ (m.perform_tracks hs) (m'.perform_tracks hs)
    unfold afterPool
    rw [← h.allocators]
    cases hin : c.inPool m.allocators with
    | none => exact h
    | some e =>
      obtain ⟨named, pc⟩ := e
      have hnamed : named = id := by
        simpa [Command.staysFor, Command.pool?_of_inPool hin] using hc
      rw [hnamed]
      exact h.onPool pc

/-- What the pool answers is the same but for numbers. -/
theorem poolAnswer? (h : AlikeFor id m m') {c : Command} (hc : c.pool? = some id) :
    (m.poolAnswer? c).map Pool.Answer.unnumbered =
      (m'.poolAnswer? c).map Pool.Answer.unnumbered := by
  unfold Monitor.poolAnswer?
  rw [← h.allocators]
  cases hin : c.inPool m.allocators with
  | none => rfl
  | some e =>
    obtain ⟨named, pc⟩ := e
    have hnamed := (Command.pool?_of_inPool hin).symm.trans hc
    cases hnamed
    simp only [Option.bind_some]
    obtain ⟨hp, hp'⟩ | ⟨p, p', hp, hp', halike⟩ := h.pool_cases <;> rw [hp, hp']
    · rfl
    · exact congrArg some (halike.answer m.numbers m'.numbers pc)

/-- What an operation on the pool answers depends on nothing that may differ. -/
theorem answer (h : AlikeFor id m m') {c : Command} (hc : c.isAbout id) :
    (m.perform c).1.unnumbered = (m'.perform c).1.unnumbered := by
  cases hs : c.isStructural with
  | true =>
    cases c with
    | destroyPool named =>
      have hnamed : named = id := by simpa [Command.isAbout, Command.pool?] using hc
      rw [hnamed]
      simp only [Monitor.perform, Monitor.destroyPool]
      obtain ⟨hp, hp'⟩ | ⟨p, p', hp, hp', -⟩ := h.pool_cases <;> rw [hp, hp']
    | registerExternal a size site =>
      have hanswer := h.external.answer m.numbers m'.numbers
        (c := .registerBytes a size .external site) (by simp)
      obtain ⟨numbers, counters, heq⟩ := m.registerExternal_eq a size site
      obtain ⟨numbers', counters', heq'⟩ := m'.registerExternal_eq a size site
      simp only [Monitor.perform, heq, heq']
      exact congrArg Answer.registration (Pool.Answer.registration.inj hanswer)
    | createPool | announce => cases hc
    | _ => cases hs
  | false =>
    -- the answer is concluded from that of the pool and from the objects from outside
    have hpool : c.pool? = some id := by
      cases c with
      | registerExternal => cases hs
      | _ => simpa [Command.isAbout] using hc
    rw [(m.perform_spec hs hpool).answer, (m'.perform_spec hs hpool).answer]
    exact conclude_unnumbered h.external (h.poolAnswer? hpool) c

/-- Runs from monitors that are alike for a pool, one of them without the operations on other
pools. -/
theorem performAll (h : AlikeFor id m m') (cs : List Command) :
    answersAbout id cs (m.performAll cs).1 =
      answersAbout id (cs.filter (·.staysFor id))
        (m'.performAll (cs.filter (·.staysFor id))).1 := by
  induction cs generalizing m m' with
  | nil => rfl
  | cons c rest ih =>
    cases hc : c.staysFor id with
    | true =>
      rw [List.filter_cons_of_pos hc]
      simp only [Monitor.performAll, answersAbout_cons, ih (h.perform hc)]
      cases habout : c.isAbout id with
      | true => rw [if_pos rfl, if_pos rfl, h.answer habout]
      | false => rfl
    | false =>
      -- only the run with all operations takes a step
      obtain ⟨named, hpool, hnamed⟩ := Command.pool?_of_not_staysFor hc
      rw [List.filter_cons_of_neg (by simp [hc])]
      simp only [Monitor.performAll, answersAbout_cons]
      rw [if_neg (Command.not_isAbout hpool hnamed)]
      exact ih (h.perform_other hpool hnamed)

end AlikeFor

/-- Pools do not disturb each other: the operations on a pool, and those that register what comes
from outside, answer the same but for numbers when all operations on other pools are taken out of
the run. -/
theorem performAll_isolated (settings : Settings) (sink : Sink) (page : UInt64) (id : PoolId)
    (cs : List Command) :
    answersAbout id cs ((start settings sink page).performAll cs).1 =
      answersAbout id (cs.filter (·.staysFor id))
        ((start settings sink page).performAll (cs.filter (·.staysFor id))).1 :=
  (alikeFor_start settings sink page id).performAll cs

end MemorySentry.Monitor
