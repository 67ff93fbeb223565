import MemorySentry.Proofs.Pool.Refinement

/-!
# A pool answers like a linear pool

No answer of a pool but the number of hits shows the maps, the quarantine or what is kept at hand:
every run of operations answers what it answers on the linear pool (`performAll_refines`). An
operation that only asks changes nothing of a linear pool, so it can be put into a run or taken out
of it anywhere, and all other answers stay what they were.
-/

namespace MemorySentry.Pool

/-- An answer without the number of hits. -/
def Answer.withoutHits : Answer → Answer
  | .stats s => .stats { s with hits := 0 }
  | answer => answer

namespace Refines

variable {p : Pool} {q : LinearPool}

/-- The live objects are those of the linear pool, in its order. -/
theorem objects (h : p.Refines q) : p.objects = q.live := by
  rw [Pool.objects, h.live.toList, List.map_map]
  exact List.map_id' _

/-- The statistics count the objects of the linear pool. -/
theorem stats (h : p.Refines q) : p.stats = ⟨q.live.length, q.retained.length, p.hits⟩ := by
  rw [Pool.stats, h.live.size, h.retained.size]

/-! ### Checks -/

/-- An access is judged as the linear pool judges it. -/
theorem checkAccess (h : p.Refines q) (a : Address) (length : ByteCount) (mode : CheckMode) :
    (p.checkAccess a length mode).1 = q.checkAccess a length mode ∧
      (p.checkAccess a length mode).2.Refines q := by
  unfold Pool.checkAccess LinearPool.checkAccess
  by_cases hlength : length = 0
  · rw [if_pos hlength, if_pos hlength]
    exact ⟨rfl, h⟩
  rw [if_neg hlength, if_neg hlength]
  obtain ⟨p₁, hfind, h₁⟩ := h.find a
  rw [hfind]
  cases hlive : q.objectAt a with
  | none =>
    -- the search for a retained object splays its map, which the linear pool does not show
    obtain ⟨p₂, hfindr, h₂⟩ := h₁.findRetained a
    simp only [hfindr, judgeMiss]
    refine ⟨?_, h₂⟩
    cases q.retainedAt a <;> cases mode.provenance <;> rfl
  | some o =>
    obtain ⟨-, hcontains⟩ := (LinearPool.covering_eq_some_iff h.valid.apart_live).mp hlive
    simp only [Span.containsBytes_iff, (Span.contains_iff.mp hcontains).1, true_and]
    split
    · exact ⟨rfl, h₁⟩
    · exact ⟨rfl, h₁⟩

/-- So is an aligned pointer. -/
theorem checkAlignment (h : p.Refines q) (a : Address) (elementSize : ByteCount) :
    (p.checkAlignment a elementSize).1 = q.checkAlignment a elementSize ∧
      (p.checkAlignment a elementSize).2.Refines q := by
  unfold Pool.checkAlignment LinearPool.checkAlignment
  by_cases htrivial : a = 0 ∨ elementSize = 0
  · rw [if_pos htrivial, if_pos htrivial]
    exact ⟨rfl, h⟩
  rw [if_neg htrivial, if_neg htrivial]
  obtain ⟨p₁, hfind, h₁⟩ := h.find a
  rw [hfind]
  cases hlive : q.objectAt a with
  | none => exact ⟨rfl, h₁⟩
  | some o =>
    obtain ⟨-, hcontains⟩ := (LinearPool.covering_eq_some_iff h.valid.apart_live).mp hlive
    -- the address is not below the base, so the difference of words is the difference of numbers
    have hmod : (a - o.span.start) % elementSize = 0 ↔
        (a.toNat - o.span.start.toNat) % elementSize.toNat = 0 := by
      rw [← UInt64.toNat_inj, UInt64.toNat_mod,
        UInt64.toNat_sub_of_le _ _ (Span.contains_iff.mp hcontains).1]
      rfl
    simp only [hmod]
    split
    · exact ⟨rfl, h₁⟩
    · exact ⟨rfl, h₁⟩

/-- So is arithmetic. -/
theorem checkArithmetic (h : p.Refines q) (source dest : Address) (mode : CheckMode) :
    (p.checkArithmetic source dest mode).1 = q.checkArithmetic source dest mode ∧
      (p.checkArithmetic source dest mode).2.Refines q := by
  unfold Pool.checkArithmetic LinearPool.checkArithmetic
  obtain ⟨p₁, hfind, h₁⟩ := h.find source
  rw [hfind]
  cases hlive : q.objectAt source with
  | none =>
    obtain ⟨p₂, hfindr, h₂⟩ := h₁.findRetained source
    simp only [hfindr, judgeStrayArithmetic]
    split
    · exact ⟨rfl, h₁⟩
    · refine ⟨?_, h₂⟩
      cases q.retainedAt source <;> cases mode.provenance <;> rfl
  | some o =>
    simp only
    split
    · exact ⟨rfl, h₁⟩
    · exact ⟨rfl, h₁⟩

end Refines

/-! ### Runs -/

/-- An operation answers on a pool what it answers on the linear pool, hits apart, and keeps the two
together. -/
theorem perform_refines {p : Pool} {q : LinearPool} (h : p.Refines q) (numbers : Numbering)
    (c : Command) :
    (p.perform numbers c).1.withoutHits = (q.perform numbers c).1 ∧
      (p.perform numbers c).2.1.Refines (q.perform numbers c).2.1 ∧
      (p.perform numbers c).2.2 = (q.perform numbers c).2.2 := by
  cases c with
  | register s kind site =>
    obtain ⟨hanswer, hrefines, hnumbers⟩ := h.register numbers s kind site
    exact ⟨congrArg (Answer.registration ∘ some) hanswer, hrefines, hnumbers⟩
  | registerBytes a size kind site =>
    obtain ⟨hanswer, hrefines, hnumbers⟩ := h.registerBytes numbers a size kind site
    exact ⟨congrArg Answer.registration hanswer, hrefines, hnumbers⟩
  | free a site =>
    obtain ⟨hanswer, hrefines, hnumbers⟩ := h.free numbers a site
    exact ⟨congrArg Answer.freed hanswer, hrefines, hnumbers⟩
  | endScope a => exact ⟨congrArg Answer.object (h.endScope a).1, (h.endScope a).2, rfl⟩
  | move new old size kind site =>
    obtain ⟨hanswer, hrefines, hnumbers⟩ := h.move numbers new old size kind site
    exact ⟨congrArg Answer.moved hanswer, hrefines, hnumbers⟩
  | checkAccess a length mode =>
    obtain ⟨hanswer, hrefines⟩ := h.checkAccess a length mode
    exact ⟨congrArg Answer.verdict hanswer, hrefines, rfl⟩
  | checkAlignment a elementSize =>
    obtain ⟨hanswer, hrefines⟩ := h.checkAlignment a elementSize
    exact ⟨congrArg Answer.aligned hanswer, hrefines, rfl⟩
  | checkArithmetic source dest mode =>
    obtain ⟨hanswer, hrefines⟩ := h.checkArithmetic source dest mode
    exact ⟨congrArg Answer.verdict hanswer, hrefines, rfl⟩
  | objectAt a =>
    obtain ⟨p', hfind, h'⟩ := h.find a
    simp only [perform, Pool.objectAt, hfind]
    exact ⟨rfl, h', rfl⟩
  | retainedAt a =>
    obtain ⟨p', hfind, h'⟩ := h.findRetained a
    simp only [perform, hfind]
    exact ⟨rfl, h', rfl⟩
  | objects =>
    exact ⟨congrArg Answer.objects h.objects, h, rfl⟩
  | stats =>
    have hstats : { p.stats with hits := 0 } = (⟨q.live.length, q.retained.length, 0⟩ : Stats) := by
      rw [h.stats]
    exact ⟨congrArg Answer.stats hstats, h, rfl⟩
  | reset =>
    -- the maps are emptied, and what was at hand is forgotten with them
    refine ⟨rfl, ?_, rfl⟩
    exact { h.forgetRecent with
      live := SpanMap.Represents.clear p.live
      retained := SpanMap.stores_clear p.retained
      quarantine := rfl
      recent := by simp [perform, Pool.reset, Pool.forgetRecent]
      earlier := by simp [perform, Pool.reset, Pool.forgetRecent]
      distinct := by simp [perform, Pool.reset, Pool.forgetRecent]
      valid := (LinearPool.Step.reset : q.Step numbers .reset _ numbers).valid h.valid }

/-- An operation that does not count answers what it answers on the linear pool. -/
theorem Refines.perform_answer {p : Pool} {q : LinearPool} (h : p.Refines q) (numbers : Numbering)
    {c : Command} (hc : c ≠ .stats) : (p.perform numbers c).1 = (q.perform numbers c).1 := by
  rw [← (perform_refines h numbers c).1]
  cases c with
  | stats => exact absurd rfl hc
  | _ => rfl

/-- A run answers on a pool what it answers on the linear pool, hits apart. -/
theorem performAll_refines {p : Pool} {q : LinearPool} (h : p.Refines q) (numbers : Numbering)
    (cs : List Command) :
    (p.performAll numbers cs).1.map Answer.withoutHits = (q.performAll numbers cs).1 ∧
      (p.performAll numbers cs).2.1.Refines (q.performAll numbers cs).2.1 ∧
      (p.performAll numbers cs).2.2 = (q.performAll numbers cs).2.2 := by
  induction cs generalizing p q numbers with
  | nil => exact ⟨rfl, h, rfl⟩
  | cons c rest ih =>
    -- both runs go on with the same numbers, from pools that belong together
    obtain ⟨hanswer, hstep, hnumbers⟩ := perform_refines h numbers c
    obtain ⟨hanswers, hrest, hnumbers'⟩ := ih hstep (p.perform numbers c).2.2
    rw [hnumbers] at hanswers hrest hnumbers'
    simp only [performAll, LinearPool.performAll, hnumbers]
    exact ⟨congrArg₂ List.cons hanswer hanswers, hrest, hnumbers'⟩

/-! ### Taking out operations that only ask -/

/-- Whether an operation stays in a run. An operation that only asks stays if it is marked, and all
others stay in any case. -/
def stays (e : Bool × Command) : Bool :=
  e.1 || !e.2.isReading

/-- The answers to the operations that stay in a run. -/
def stayingAnswers (marked : List (Bool × Command)) (answers : List Answer) : List Answer :=
  ((marked.zip answers).filter fun e => stays e.1).map Prod.snd

/-- The answer of an operation is kept if the operation stays. -/
theorem stayingAnswers_cons (e : Bool × Command) (marked : List (Bool × Command)) (answer : Answer)
    (answers : List Answer) :
    stayingAnswers (e :: marked) (answer :: answers) =
      if stays e then answer :: stayingAnswers marked answers
      else stayingAnswers marked answers := by
  simp only [stayingAnswers, List.zip_cons_cons, List.filter_cons]
  split <;> rfl

theorem stayingAnswers_map (f : Answer → Answer) (marked : List (Bool × Command))
    (answers : List Answer) :
    (stayingAnswers marked answers).map f = stayingAnswers marked (answers.map f) := by
  rw [stayingAnswers, stayingAnswers, List.zip_map_right, List.filter_map, List.map_map,
    List.map_map]
  rfl

end MemorySentry.Pool

namespace MemorySentry.LinearPool

open Pool (Command stays stayingAnswers)

/-- An operation that only asks changes nothing. -/
theorem perform_of_isReading (q : LinearPool) (numbers : Numbering) {c : Command}
    (hc : c.isReading = true) : (q.perform numbers c).2 = (q, numbers) := by
  cases c with
  | checkAccess | checkAlignment | checkArithmetic | objectAt | retainedAt | objects | stats => rfl
  | register | registerBytes | free | endScope | move | reset => cases hc

/-- Neither does a run of operations that only ask. -/
theorem performAll_of_isReading (q : LinearPool) (numbers : Numbering) {cs : List Command}
    (hcs : ∀ c ∈ cs, c.isReading = true) : (q.performAll numbers cs).2 = (q, numbers) := by
  induction cs with
  | nil => rfl
  | cons c rest ih =>
    obtain ⟨hc, hrest⟩ := List.forall_mem_cons.mp hcs
    have hstep := q.perform_of_isReading numbers hc
    simp only [performAll, hstep]
    exact ih hrest

/-- Without operations that only ask, a run answers to the others what it answered before. -/
theorem performAll_stays (q : LinearPool) (numbers : Numbering) (marked : List (Bool × Command)) :
    stayingAnswers marked (q.performAll numbers (marked.map Prod.snd)).1 =
      (q.performAll numbers ((marked.filter stays).map Prod.snd)).1 := by
  induction marked generalizing q numbers with
  | nil => rfl
  | cons e rest ih =>
    have hrest := ih (q.perform numbers e.2).2.1 (q.perform numbers e.2).2.2
    rw [List.map_cons, performAll, Pool.stayingAnswers_cons, hrest]
    by_cases hstays : stays e = true
    · rw [if_pos hstays, List.filter_cons_of_pos hstays]
      rfl
    · -- an operation that is taken out only asks, so the rest of the run starts from the same pool
      have hreading : e.2.isReading = true := by
        simp only [stays, Bool.or_eq_true, not_or, Bool.not_eq_true', Bool.not_eq_false] at hstays
        exact hstays.2
      rw [if_neg hstays, List.filter_cons_of_neg hstays, perform_of_isReading q numbers hreading]

end MemorySentry.LinearPool

namespace MemorySentry.Pool

/-- In every run from an empty pool, all operations answer what they answer on a linear pool, which
searches plain lists and keeps nothing at hand, and draw the same numbers; only the hits differ. An
operation that only asks can be put in or taken out anywhere without changing another answer. -/
theorem performAll_empty_eq_linear (retention : Retention) (numbers : Numbering)
    (cs : List Command) (marked : List (Bool × Command)) :
    ((({ retention } : Pool).performAll numbers cs).1.map Answer.withoutHits =
        (({ retention } : LinearPool).performAll numbers cs).1 ∧
      (({ retention } : Pool).performAll numbers cs).2.2 =
        (({ retention } : LinearPool).performAll numbers cs).2.2) ∧
    (stayingAnswers marked
        (({ retention } : Pool).performAll numbers (marked.map Prod.snd)).1).map
          Answer.withoutHits =
      (({ retention } : Pool).performAll numbers ((marked.filter stays).map Prod.snd)).1.map
        Answer.withoutHits := by
  have hempty := refines_empty retention
  obtain ⟨hanswers, -, hnumbers⟩ := performAll_refines hempty numbers cs
  refine ⟨⟨hanswers, hnumbers⟩, ?_⟩
  rw [stayingAnswers_map, (performAll_refines hempty numbers _).1,
    (performAll_refines hempty numbers _).1, LinearPool.performAll_stays]

end MemorySentry.Pool
