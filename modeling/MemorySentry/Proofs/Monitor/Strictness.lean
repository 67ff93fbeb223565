import MemorySentry.Proofs.Monitor.Fallback
import MemorySentry.Proofs.Monitor.UnknownPools

/-!
# What complete provenance adds to a check

A check with complete provenance is stricter than the same check with incomplete provenance. What it
passes, the other one passes with the same verdict; where the other one finds a fault, it finds one
too; and where the other one warns or does not know, it finds out why. The two part only where the
pointer is in no live object of the pool (`LinearPool.checkAccess_cases`,
`LinearPool.checkArithmetic_cases`), and both may be overruled there by the objects from outside,
which are asked for different reasons: one has an unknown pointer, the other one a violation that
names no object. The null address is where the reasons could come apart, but no object that was
freed has it (`Reachable.sparesNull`), and neither has one from outside.

Whether the program reads or writes matters only to the name of a violation (`Violation.asWrite`).
-/

namespace MemorySentry

/-- The violation as it is called where the program writes: only an access that leaves its object is
called something else. -/
def Violation.asWrite (v : Violation) : Violation :=
  if v.kind = .outOfBounds ∧ v.history.isSome then { v with kind := .writeOutOfBounds } else v

namespace Monitor

/-- How the result of a check of an access with complete provenance compares to the one with
incomplete provenance. -/
structure AccessStricter (a : Address) (site : Option Site)
    (complete incomplete : Except Violation Verdict) : Prop where
  /-- What passes with complete provenance passes in the same way. -/
  passes : ∀ verdict, complete = .ok verdict → incomplete = .ok verdict
  /-- A fault is the same fault. -/
  fault : ∀ v, incomplete = .error v → v.isWarning = false → complete = .error v
  /-- A suspect access is one through a dangling pointer. -/
  suspect : ∀ v, incomplete = .error v → v.kind = .suspectAccess →
    complete = .error { v with kind := .danglingPointer }
  /-- A pointer that is not known is the null pointer or points to nothing. -/
  unknown : incomplete = .ok .unknown →
    complete = .error (({ kind := if a = 0 then .uninitialized else .outOfBounds, pointer := a } :
      Violation).atSite? site)

/-- How the result of a check of pointer arithmetic with complete provenance compares to the one
with incomplete provenance. -/
structure ArithmeticStricter (complete incomplete : Except Violation Verdict) : Prop where
  /-- What passes with complete provenance passes in the same way. -/
  passes : ∀ verdict, complete = .ok verdict → incomplete = .ok verdict
  /-- Where there is a fault there is one with complete provenance. -/
  fault : ∀ v, incomplete = .error v → v.isWarning = false →
    ∃ w, complete = .error w ∧ w.isWarning = false

/-- A result that a pool comes to whatever is known of the pointer: the objects from outside are not
asked, and it is no warning. -/
structure Decided (a : Address) (r : Except Violation Verdict) : Prop where
  /-- The pool knows something about the pointer. -/
  known : missed a r = false
  /-- The result is no warning. -/
  fault : ∀ v, r = .error v → v.isWarning = false

end Monitor

/-! ### What the pool says -/

namespace LinearPool

open Monitor (Decided)

variable (q : LinearPool)

/-- What is known of the pointer decides an access only if it starts in no live object. -/
theorem checkAccess_cases (a : Address) (length : ByteCount) (access : Access) :
    (∃ r, (∀ provenance, q.checkAccess a length ⟨provenance, access⟩ = r) ∧ Decided a r) ∨
      length ≠ 0 ∧ ∀ provenance,
        q.checkAccess a length ⟨provenance, access⟩ =
          Pool.judgeMiss provenance a (q.retainedAt a) := by
  unfold checkAccess
  by_cases hlength : length = 0
  · exact .inl ⟨.ok .empty, fun _ => if_pos hlength, rfl, by simp⟩
  simp only [if_neg hlength]
  cases q.objectAt a with
  | some o =>
    left
    by_cases hend : a.toNat + length.toNat ≤ o.span.stop.toNat
    · exact ⟨.ok (.inBounds o.span), fun _ => if_pos hend, rfl, by simp⟩
    · -- the violation names the object
      refine ⟨.error (Pool.overflow access a length o), fun _ => if_neg hend, ?_, ?_⟩
      · simp [Monitor.missed, Pool.overflow, Violation.about, Violation.ofWeakness]
      · rintro v ⟨⟩
        cases access <;> rfl
  | none =>
    right
    refine ⟨hlength, fun provenance => ?_⟩
    cases provenance <;> cases q.retainedAt a <;> rfl

/-- What is known of the pointer decides pointer arithmetic only if it starts in no live object. -/
theorem checkArithmetic_cases (source dest : Address) :
    (∃ r, (∀ mode, q.checkArithmetic source dest mode = r) ∧ Decided source r) ∨
      ∀ mode, q.checkArithmetic source dest mode =
        Pool.judgeStrayArithmetic mode.provenance source dest (q.retainedAt source) := by
  unfold checkArithmetic
  cases q.objectAt source with
  | some o =>
    -- a live object decides in every mode
    left
    by_cases hdest : o.span.start ≤ dest ∧ dest ≤ o.span.stop
    · exact ⟨.ok (.inBounds o.span), fun _ => if_pos hdest, rfl, by simp⟩
    · refine ⟨_, fun _ => if_neg hdest, ?_, ?_⟩
      · simp [Monitor.missed, Violation.about, Violation.ofWeakness]
      · rintro v ⟨⟩
        rfl
  | none =>
    -- without one, only moves within the first page are decided
    by_cases hpage : source < Pool.nullPageEnd ∧ dest < Pool.nullPageEnd
    · exact .inl ⟨.ok .empty, fun _ => if_pos hpage, rfl, by simp⟩
    · right
      intro mode
      simp only [if_neg hpage]
      rcases mode with ⟨_ | _, access⟩ <;> cases q.retainedAt source <;> rfl

variable {q}

/-- Without retained objects no access is suspect. -/
theorem isWarning_checkAccess (hretained : q.retained = []) {a : Address} {length : ByteCount}
    {access : Access} {v : Violation}
    (hv : q.checkAccess a length ⟨.incomplete, access⟩ = .error v) : v.isWarning = false := by
  rcases q.checkAccess_cases a length access with ⟨r, hr, hdecided⟩ | ⟨-, hmiss⟩
  · exact hdecided.fault v ((hr .incomplete).symm.trans hv)
  · have hnone : q.retainedAt a = none := by rw [retainedAt, hretained]; rfl
    rw [hmiss, hnone] at hv
    cases hv

/-- Nothing is known of the null pointer where no object has the null address. -/
theorem checkAccess_null (hlive : q.AvoidsNull) (hretained : q.SparesNull) {length : ByteCount}
    (hlength : length ≠ 0) (access : Access) :
    q.checkAccess 0 length ⟨.incomplete, access⟩ = .ok .unknown := by
  have hat : q.objectAt 0 = none := covering_eq_none_iff.mpr hlive
  simp only [checkAccess, if_neg hlength, hat, hretained.retainedAt_null]

end LinearPool

/-! ### What the objects from outside make of it -/

namespace Monitor

/-- Where the pool has decided, the objects from outside have no say. -/
theorem settle_of_decided {a : Address} {r : Except Violation Verdict} (h : Decided a r)
    (fromOutside : Except Violation Verdict) : settle a r fromOutside = r := by
  simp only [settle, h.known, Bool.false_eq_true, if_false]

/-- A violation that names no object stays only if the objects from outside know nothing either. -/
theorem settle_stray {a : Address} (ha : a ≠ 0) {v : Violation} (hspan : v.span = none)
    (hhistory : v.history = none) (fromOutside : Except Violation Verdict) :
    settle a (.error v) fromOutside =
      if fromOutside = .ok .unknown then .error v else fromOutside := by
  have hmissed : missed a (.error v) = true := by simp [missed, ha, hspan, hhistory]
  split
  · next hunknown =>
    subst hunknown
    unfold settle
    rw [if_pos hmissed]
  · next hknown => exact settle_of_missed hmissed hknown

/-- A violation at the null address is decided by the pool. -/
theorem settle_null (v : Violation) (fromOutside : Except Violation Verdict) :
    settle 0 (.error v) fromOutside = .error v := by
  simp [settle, missed]

/-- So is one about an object. -/
theorem settle_about (a : Address) (v : Violation) (o : Object)
    (fromOutside : Except Violation Verdict) :
    settle a (.error (v.about o)) fromOutside = .error (v.about o) := by
  simp [settle, missed, Violation.about]

variable {q outside : LinearPool}

/-- What the pool has decided is decided alike in both modes. -/
theorem accessStricter_of_decided {a : Address} {r : Except Violation Verdict} (h : Decided a r) :
    AccessStricter a none r r := by
  refine ⟨fun _ hr => hr, fun _ hr _ => hr, ?_, ?_⟩
  · intro v hv hkind
    have hwarning := h.fault v hv
    rw [Violation.isWarning, hkind] at hwarning
    cases hwarning
  · rintro rfl
    cases h.known

/-- Complete provenance makes the check of an access stricter before its site is told. -/
theorem accessStricter_settle (hq : q.SparesNull) (hnull : outside.AvoidsNull)
    (hretained : outside.retained = []) (a : Address) (length : ByteCount) (access : Access) :
    AccessStricter a none
      (settle a (q.checkAccess a length ⟨.complete, access⟩)
        (outside.checkAccess a length ⟨.incomplete, access⟩))
      (settle a (q.checkAccess a length ⟨.incomplete, access⟩)
        (outside.checkAccess a length ⟨.incomplete, access⟩)) := by
  have houtside : outside.SparesNull := by simp [LinearPool.SparesNull, hretained]
  rcases q.checkAccess_cases a length access with ⟨r, hr, hdecided⟩ | ⟨hlength, hmiss⟩
  · rw [hr, hr, settle_of_decided hdecided]
    exact accessStricter_of_decided hdecided
  rw [hmiss, hmiss]
  cases hfreed : q.retainedAt a with
  | some o =>
    -- an object was freed there, so the pointer is not the null pointer
    have ha : a ≠ 0 := by
      rintro rfl
      rw [hq.retainedAt_null] at hfreed
      cases hfreed
    simp only [Pool.judgeMiss, if_neg ha, settle_about]
    refine ⟨by simp, ?_, ?_, by simp⟩
    · rintro v ⟨⟩ hwarning
      cases hwarning
    · rintro v ⟨⟩ -
      rfl
  | none =>
    simp only [Pool.judgeMiss, settle_unknown]
    by_cases ha : a = 0
    · -- nobody knows the null pointer
      subst ha
      rw [if_pos rfl, settle_null, LinearPool.checkAccess_null hnull houtside hlength]
      exact ⟨by simp, by simp, by simp, fun _ => rfl⟩
    · -- the objects from outside decide, and without a verdict of theirs the pool does
      simp only [if_neg ha]
      rw [settle_stray ha rfl rfl]
      split
      · next hunknown =>
        rw [hunknown]
        exact ⟨by simp, by simp, by simp, by simp [Violation.atSite?, ha]⟩
      · next hknown =>
        refine ⟨fun _ hv => hv, fun _ hv _ => hv, ?_, fun hv => absurd hv hknown⟩
        intro v hv hkind
        have hwarning := LinearPool.isWarning_checkAccess hretained hv
        rw [Violation.isWarning, hkind] at hwarning
        cases hwarning

/-- Complete provenance makes the check of pointer arithmetic stricter before its site is told. -/
theorem arithmeticStricter_settle (source dest : Address) (access : Access) :
    ArithmeticStricter
      (settle source (q.checkArithmetic source dest ⟨.complete, access⟩)
        (outside.checkArithmetic source dest ⟨.incomplete, .read⟩))
      (settle source (q.checkArithmetic source dest ⟨.incomplete, access⟩)
        (outside.checkArithmetic source dest ⟨.incomplete, .read⟩)) := by
  rcases q.checkArithmetic_cases source dest with ⟨r, hr, hdecided⟩ | hstray
  · rw [hr, hr, settle_of_decided hdecided]
    exact ⟨fun _ hv => hv, fun v hv hwarning => ⟨v, hv, hwarning⟩⟩
  rw [hstray, hstray]
  cases hfreed : q.retainedAt source with
  | some o =>
    -- with complete provenance the freed object is named, whatever else is there
    simp only [Pool.judgeStrayArithmetic, settle_about]
    exact ⟨by simp, fun _ _ _ => ⟨_, rfl, rfl⟩⟩
  | none =>
    simp only [Pool.judgeStrayArithmetic, settle_unknown]
    by_cases ha : source = 0
    · subst ha
      rw [settle_null]
      exact ⟨by simp, fun _ _ _ => ⟨_, rfl, rfl⟩⟩
    · rw [settle_stray ha rfl rfl]
      split
      · exact ⟨by simp, fun _ _ _ => ⟨_, rfl, rfl⟩⟩
      · exact ⟨fun _ hv => hv, fun v hv hwarning => ⟨v, hv, hwarning⟩⟩

/-! ### Sites -/

/-- To place violations does not change what passes. -/
theorem located_eq_ok_iff {α : Type} {r : Except Violation α} {site : Option Site} {x : α} :
    located r site = .ok x ↔ r = .ok x := by
  cases r <;> simp [located, Except.mapError]

/-- A placed violation is one that was found, at the site. -/
theorem located_eq_error_iff {α : Type} {r : Except Violation α} {site : Option Site}
    {v : Violation} : located r site = .error v ↔ ∃ w, r = .error w ∧ w.atSite? site = v := by
  cases r <;> simp [located, Except.mapError]

theorem kind_atSite? (v : Violation) (site : Option Site) : (v.atSite? site).kind = v.kind := by
  cases site <;> rfl

theorem isWarning_atSite? (v : Violation) (site : Option Site) :
    (v.atSite? site).isWarning = v.isWarning := by
  rw [Violation.isWarning, kind_atSite?, Violation.isWarning]

/-- Of two results one is stricter than the other also after they are placed. -/
theorem AccessStricter.located {a : Address} {complete incomplete : Except Violation Verdict}
    (h : AccessStricter a none complete incomplete) (site : Option Site) :
    AccessStricter a site (located complete site) (located incomplete site) := by
  refine ⟨?_, ?_, ?_, ?_⟩
  · intro verdict hok
    exact located_eq_ok_iff.mpr (h.passes verdict (located_eq_ok_iff.mp hok))
  · intro v hv hwarning
    obtain ⟨w, hw, rfl⟩ := located_eq_error_iff.mp hv
    rw [isWarning_atSite?] at hwarning
    exact located_eq_error_iff.mpr ⟨w, h.fault w hw hwarning, rfl⟩
  · intro v hv hkind
    obtain ⟨w, hw, rfl⟩ := located_eq_error_iff.mp hv
    rw [kind_atSite?] at hkind
    refine located_eq_error_iff.mpr ⟨_, h.suspect w hw hkind, ?_⟩
    cases site <;> rfl
  · intro hunknown
    exact located_eq_error_iff.mpr ⟨_, h.unknown (located_eq_ok_iff.mp hunknown), rfl⟩

/-- So it is with results of arithmetic. -/
theorem ArithmeticStricter.located {complete incomplete : Except Violation Verdict}
    (h : ArithmeticStricter complete incomplete) (site : Option Site) :
    ArithmeticStricter (located complete site) (located incomplete site) := by
  refine ⟨?_, ?_⟩
  · intro verdict hok
    exact located_eq_ok_iff.mpr (h.passes verdict (located_eq_ok_iff.mp hok))
  · intro v hv hwarning
    obtain ⟨w, hw, rfl⟩ := located_eq_error_iff.mp hv
    rw [isWarning_atSite?] at hwarning
    obtain ⟨w', hw', hwarning'⟩ := h.fault w hw hwarning
    refine ⟨_, located_eq_error_iff.mpr ⟨w', hw', rfl⟩, ?_⟩
    rw [isWarning_atSite?, hwarning']

end Monitor

/-! ### Reading and writing -/

/-- The site of a check does not matter to what its violation is called. -/
theorem Violation.atSite?_asWrite (v : Violation) (site : Option Site) :
    v.asWrite.atSite? site = (v.atSite? site).asWrite := by
  have hsame : (v.atSite? site).kind = v.kind ∧ (v.atSite? site).history = v.history := by
    cases site <;> exact ⟨rfl, rfl⟩
  unfold asWrite
  rw [hsame.1, hsame.2]
  split
  · cases site <;> rfl
  · rfl

namespace Pool

/-- An access that starts in no live object is called the same whether it reads or writes. -/
theorem judgeMiss_asWrite (provenance : Provenance) (a : Address) (freed : Option Object) :
    (judgeMiss provenance a freed).mapError Violation.asWrite = judgeMiss provenance a freed := by
  cases provenance with
  | incomplete => cases freed <;> rfl
  | complete =>
    by_cases ha : a = 0
    · simp only [judgeMiss, if_pos ha]
      rfl
    · simp only [judgeMiss, if_neg ha]
      cases freed <;> rfl

/-- A write is judged as a read is, but for what a violation is called. -/
theorem checkAccess_write (p : Pool) (a : Address) (length : ByteCount) (provenance : Provenance) :
    p.checkAccess a length ⟨provenance, .write⟩ =
      ((p.checkAccess a length ⟨provenance, .read⟩).1.mapError Violation.asWrite,
        (p.checkAccess a length ⟨provenance, .read⟩).2) := by
  unfold Pool.checkAccess
  split
  · rfl
  · rcases p.find a with ⟨_ | o, p'⟩
    · simp only [judgeMiss_asWrite]
    · simp only
      split <;> rfl

end Pool

namespace Monitor

/-- Whether the pool knows nothing does not depend on what a violation is called. -/
theorem missed_asWrite (a : Address) (r : Except Violation Verdict) :
    missed a (r.mapError Violation.asWrite) = missed a r := by
  cases r with
  | ok verdict => cases verdict <;> rfl
  | error v =>
    show missed a (.error v.asWrite) = missed a (.error v)
    unfold Violation.asWrite
    split <;> rfl

variable (m : Monitor) (id : PoolId) (a : Address)

/-- Two ways to judge that differ in what they call an access that leaves its object leave the same
monitor. -/
theorem judgeIn_asWrite {judge judge' : Pool → Except Violation Verdict × Pool}
    (hjudge : ∀ p, judge' p = ((judge p).1.mapError Violation.asWrite, (judge p).2)) :
    m.judgeIn id .unknown judge' =
      ((m.judgeIn id .unknown judge).1.mapError Violation.asWrite,
        (m.judgeIn id .unknown judge).2) := by
  unfold judgeIn
  cases m.pool? id with
  | none => rfl
  | some p => simp only [hjudge p]

/-- Nor does it, who decides. -/
theorem orExternal_asWrite (r : Except Violation Verdict)
    {judge judge' : Pool → Except Violation Verdict × Pool}
    (hjudge : ∀ p, judge' p = ((judge p).1.mapError Violation.asWrite, (judge p).2)) :
    m.orExternal a (r.mapError Violation.asWrite) judge' =
      ((m.orExternal a r judge).1.mapError Violation.asWrite, (m.orExternal a r judge).2) := by
  unfold orExternal
  rw [missed_asWrite, hjudge]
  split
  · rcases judge m.external with ⟨fromOutside, external⟩
    rcases fromOutside with v | s | _ | _
    · rfl
    · rfl
    · rfl
    · -- nobody knows anything, and the verdict of the pool counts
      rcases r with v | s | _ | _ <;> rfl
  · rfl

/-- A violation is placed alike whatever it is called. -/
theorem located_asWrite (r : Except Violation Verdict) (site : Option Site) :
    located (r.mapError Violation.asWrite) site = (located r site).mapError Violation.asWrite := by
  cases r with
  | ok verdict => rfl
  | error v => exact congrArg Except.error (v.atSite?_asWrite site)

/-- A check of a write comes to what the check of a read comes to, with another name for an access
that leaves its object, and reports it to the same monitor. -/
theorem checkAccess_write (length : ByteCount) (provenance : Provenance) (site : Option Site) :
    ∃ (n : Monitor) (r : Except Violation Verdict),
      m.checkAccess id a length ⟨provenance, .read⟩ site = n.reported r site ∧
      m.checkAccess id a length ⟨provenance, .write⟩ site =
        n.reported (r.mapError Violation.asWrite) site := by
  unfold checkAccess
  simp only [m.countCheck.judgeIn_asWrite id fun p => p.checkAccess_write a length provenance,
    orExternal_asWrite _ a _ fun p => p.checkAccess_write a length .incomplete]
  exact ⟨_, _, rfl, rfl⟩

/-! ### The checks -/

variable {m id}

/-- The result of a check of an access, in terms of linear pools. -/
theorem checkAccess_fst {p : Pool} (hp : m.pool? id = some p) {q outside : LinearPool}
    (hq : p.Refines q) (houtside : m.external.Refines outside) (length : ByteCount)
    (mode : CheckMode) (site : Option Site) :
    (m.checkAccess id a length mode site).1 =
      located (settle a (q.checkAccess a length mode)
        (outside.checkAccess a length { mode with provenance := .incomplete })) site := by
  have hanswer : Answer.verdict (m.checkAccess id a length mode site).1 =
      .verdict (located (settle a (p.checkAccess a length mode).1
        (m.external.checkAccess a length { mode with provenance := .incomplete }).1) site) := by
    have hspec := (m.perform_spec (c := .checkAccess id a length mode site) rfl rfl).answer
    rw [poolAnswer?_of_inPool rfl hp] at hspec
    exact hspec
  rw [Answer.verdict.inj hanswer, (hq.checkAccess a length mode).1,
    (houtside.checkAccess a length _).1]

/-- The result of a check of pointer arithmetic, in terms of linear pools. -/
theorem checkArithmetic_fst {p : Pool} (hp : m.pool? id = some p) {q outside : LinearPool}
    (hq : p.Refines q) (houtside : m.external.Refines outside) (source dest : Address)
    (mode : CheckMode) (site : Option Site) :
    (m.checkArithmetic id source dest mode site).1 =
      located (settle source (q.checkArithmetic source dest mode)
        (outside.checkArithmetic source dest ⟨.incomplete, .read⟩)) site := by
  have hanswer : Answer.verdict (m.checkArithmetic id source dest mode site).1 =
      .verdict (located (settle source (p.checkArithmetic source dest mode).1
        (m.external.checkArithmetic source dest ⟨.incomplete, .read⟩).1) site) := by
    have hspec := (m.perform_spec (c := .checkArithmetic id source dest mode site) rfl rfl).answer
    rw [poolAnswer?_of_inPool rfl hp] at hspec
    exact hspec
  rw [Answer.verdict.inj hanswer, (hq.checkArithmetic source dest mode).1,
    (houtside.checkArithmetic source dest _).1]

/-- In every monitor that a program can come to, and for every pool that exists: complete provenance
makes the checks of accesses and of pointer arithmetic stricter. Whether a check of an access is one
of a read or of a write changes neither what it comes to nor what it leaves, apart from the name of
a violation of the bounds of an object; for pointer arithmetic it changes nothing at all. -/
theorem stricter_of_reachable {settings : Settings} {sink : Sink} {m : Monitor}
    (hm : Reachable settings sink m) {id : PoolId} (hexists : (m.pool? id).isSome = true)
    (site : Option Site) :
    (∀ a length access,
      AccessStricter a site (m.checkAccess id a length ⟨.complete, access⟩ site).1
        (m.checkAccess id a length ⟨.incomplete, access⟩ site).1) ∧
    (∀ source dest access,
      ArithmeticStricter (m.checkArithmetic id source dest ⟨.complete, access⟩ site).1
        (m.checkArithmetic id source dest ⟨.incomplete, access⟩ site).1) ∧
    (∀ a length provenance,
      (m.checkAccess id a length ⟨provenance, .write⟩ site).1 =
        (m.checkAccess id a length ⟨provenance, .read⟩ site).1.mapError Violation.asWrite) ∧
    (∀ a length provenance, ∃ (n : Monitor) (r : Except Violation Verdict),
      m.checkAccess id a length ⟨provenance, .read⟩ site = n.reported r site ∧
      m.checkAccess id a length ⟨provenance, .write⟩ site =
        n.reported (r.mapError Violation.asWrite) site) ∧
    (∀ source dest provenance,
      m.checkArithmetic id source dest ⟨provenance, .write⟩ site =
        m.checkArithmetic id source dest ⟨provenance, .read⟩ site) := by
  obtain ⟨p, hp⟩ : ∃ p, m.pool? id = some p := Option.isSome_iff_exists.mp hexists
  obtain ⟨q, hq, hspares⟩ := hm.sparesNull id p hp
  obtain ⟨outside, houtside, hnull, hretained, -⟩ := hm.holdsExternal
  refine ⟨?_, ?_, ?_, fun a length provenance => m.checkAccess_write id a length provenance site,
    fun _ _ _ => rfl⟩
  · -- both checks see the same pool and the same objects from outside, and differ in what they ask
    intro a length access
    rw [checkAccess_fst a hp hq houtside, checkAccess_fst a hp hq houtside]
    exact (accessStricter_settle hspares hnull hretained a length access).located site
  · intro source dest access
    rw [checkArithmetic_fst hp hq houtside, checkArithmetic_fst hp hq houtside]
    exact (arithmeticStricter_settle source dest access).located site
  · -- the report adds the site, which does not matter to the name
    intro a length provenance
    obtain ⟨n, r, hread, hwrite⟩ := m.checkAccess_write id a length provenance site
    rw [hread, hwrite, reported_fst, reported_fst, located_asWrite]

/-- A read of a freed block is suspect, and with complete provenance it is one through a dangling
pointer, of which the same is known. That the program has got hold of the pool and registered a span
at the null address there does not matter. -/
theorem stricter_of_reachable_freed_block :
    let run := ((start {} (.buffer 0) 4096).performAll
      [.createPool, .register 1 4096 64 .heap none, .free 1 4096 none]).2
    let m := run.onPool 1 (.register ⟨0, 16, by decide⟩ .global none)
    (m.pool? 1).isSome = true ∧
      ∃ v, (m.checkAccess 1 4100 8 ⟨.incomplete, .read⟩ none).1 = .error v ∧
        v.kind = .suspectAccess ∧
        (m.checkAccess 1 4100 8 ⟨.complete, .read⟩ none).1 =
          .error { v with kind := .danglingPointer } := by
  intro run m
  have hm : Reachable {} (.buffer 0) m := ((Reachable.start 4096).performAll _).onPool 1 _
  have hexists : (m.pool? 1).isSome = true := rfl
  have hstricter := (stricter_of_reachable hm hexists none).1 4100 8 .read
  obtain ⟨v, hv, hkind⟩ : ∃ v, (m.checkAccess 1 4100 8 ⟨.incomplete, .read⟩ none).1 = .error v ∧
      v.kind = .suspectAccess := ⟨_, rfl, rfl⟩
  exact ⟨hexists, v, hv, hkind, hstricter.suspect v hv hkind⟩

end Monitor

end MemorySentry
