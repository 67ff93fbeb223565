import MemorySentry.Proofs.Monitor.Strictness
import MemorySentry.Proofs.Pool.Verdicts

/-!
# Who decides about an access

A monitor asks the pool about an access, and where the pool knows nothing about the first byte it
asks the objects from outside. It tells whether the pool knows something by the shape of what the
pool says: a violation of the pool that names no object, or no verdict at all. This is right since
every violation of a byte that the pool knows names the object, unless the byte is the one at the
null address, which no object from outside has (`Pool.Refines.missed_iff`).

`Monitor.Decides` lists who decides and what is said, one rule for each case, and
`decides_of_reachable` says that the check of an access keeps to it and counts the case.
-/

namespace MemorySentry

namespace Pool

/-- A live or a retained object has the byte at an address. -/
def Knows (p : Pool) (a : Address) : Prop :=
  ∃ o, (o ∈ p.objects ∨ o ∈ p.retainedObjects) ∧ a.toNat ∈ o.span.bytes

/-- A pool does not know an address if no object has the byte there, live or retained. -/
theorem not_knows_iff {p : Pool} {a : Address} :
    ¬ p.Knows a ↔
      (∀ o ∈ p.objects, a.toNat ∉ o.span.bytes) ∧
        ∀ r ∈ p.retainedObjects, a.toNat ∉ r.span.bytes := by
  simp only [Knows, not_exists, not_and, or_imp, forall_and]

/-- Others are asked about an access exactly if the pool does not know its first byte, unless it is
clear that the pointer is the null pointer and can point to nothing else. -/
theorem Refines.missed_iff {p : Pool} {q : LinearPool} (h : p.Refines q) {a : Address}
    {length : ByteCount} (hlength : length ≠ 0) (mode : CheckMode) :
    Monitor.missed a (p.checkAccess a length mode).1 = true ↔
      ¬ p.Knows a ∧ (a = 0 → mode.provenance = .incomplete) := by
  have hjudges := h.judges a length mode
  generalize (p.checkAccess a length mode).1 = r at hjudges ⊢
  -- a rule that names an object of the pool says that the object has the byte
  cases hjudges with
  | empty hempty => exact absurd hempty hlength
  | inBounds _ ho hbytes =>
    have hknows : p.Knows a := ⟨_, .inl ho, hbytes (Span.mem_accessed hlength)⟩
    simp [Monitor.missed, hknows]
  | overflow _ ho hfirst =>
    have hknows : p.Knows a := ⟨_, .inl ho, hfirst⟩
    simp [Monitor.missed, hknows]
  | dangling _ _ _ _ hr hfirst | suspect _ _ _ hr hfirst =>
    have hknows : p.Knows a := ⟨_, .inr hr, hfirst⟩
    simp [Monitor.missed, hknows]
  | uninitialized _ _ hmode ha => simp [Monitor.missed, ha, hmode]
  | outOfBounds _ hmiss _ ha hforgotten =>
    simp [Monitor.missed, ha, not_knows_iff.mpr ⟨hmiss, hforgotten⟩]
  | unknown _ hmiss hmode hforgotten =>
    simp [Monitor.missed, hmode, not_knows_iff.mpr ⟨hmiss, hforgotten⟩]

end Pool

/-- What was counted, apart from the violations. -/
def Counters.apartFromViolations (c : Counters) : Counters :=
  { c with warnings := 0, faults := 0 }

namespace Monitor

/-! ### What is counted -/

/-- Where the objects from outside know nothing, what the pool says counts. -/
theorem settle_of_unknown (a : Address) (r : Except Violation Verdict) :
    settle a r (.ok .unknown) = r := by
  unfold settle
  split <;> rfl

/-- The objects from outside are counted where they decide, and a pass for want of knowledge where
nobody knows anything. -/
theorem counters_orExternal (m : Monitor) (a : Address) (r : Except Violation Verdict)
    (judge : Pool → Except Violation Verdict × Pool) :
    (m.orExternal a r judge).2.counters =
      { m.counters with
        externalHits := m.counters.externalHits +
          if missed a r = true ∧ (judge m.external).1 ≠ .ok .unknown then 1 else 0
        incompletePasses := m.counters.incompletePasses +
          if settle a r (judge m.external).1 = .ok .unknown then 1 else 0 } := by
  unfold orExternal
  cases hmissed : missed a r with
  | false =>
    -- a pool that says nothing at all would have been passed over
    have hr : r ≠ .ok .unknown := by
      rintro rfl
      cases hmissed
    simp [settle, hmissed, hr]
  | true =>
    rcases judge m.external with ⟨fromOutside, external⟩
    by_cases hunknown : fromOutside = .ok .unknown
    · -- nobody knows anything, which counts only if the pool had no verdict either
      subst hunknown
      rw [settle_of_unknown]
      by_cases hr : r = .ok .unknown
      · simp [hr, count]
      · rcases r with v | s | _ | _ <;> simp_all
    · rw [settle_of_missed hmissed hunknown]
      rcases fromOutside with v | s | _ | _ <;> simp_all [count]

/-- A report counts a violation and nothing else. -/
theorem counters_reported {α : Type} (m : Monitor) (r : Except Violation α) (site : Option Site) :
    (m.reported r site).2.counters.apartFromViolations = m.counters.apartFromViolations := by
  cases r with
  | ok a => rfl
  | error v =>
    show (m.report (v.atSite? site)).2.counters.apartFromViolations =
      m.counters.apartFromViolations
    cases hwarning : (v.atSite? site).isWarning <;>
      simp [report, count, Counters.apartFromViolations, hwarning]

/-- What the check of an access counts. -/
theorem counters_checkAccess {m : Monitor} {id : PoolId} {p : Pool} (hp : m.pool? id = some p)
    (a : Address) (length : ByteCount) (mode : CheckMode) (site : Option Site) :
    let r := (p.checkAccess a length mode).1
    let fromOutside :=
      (m.external.checkAccess a length { mode with provenance := .incomplete }).1
    (m.checkAccess id a length mode site).2.counters.apartFromViolations =
      Counters.apartFromViolations { m.counters with
        checks := m.counters.checks + 1
        externalHits := m.counters.externalHits +
          if missed a r = true ∧ fromOutside ≠ .ok .unknown then 1 else 0
        incompletePasses := m.counters.incompletePasses +
          if settle a r fromOutside = .ok .unknown then 1 else 0 } := by
  intro r fromOutside
  have hjudged : m.countCheck.judgeIn id .unknown (fun p => p.checkAccess a length mode) =
      (r, m.countCheck.setPool id (p.checkAccess a length mode).2) := by
    have hsame : m.countCheck.pool? id = some p := hp
    simp only [judgeIn, hsame]
    rfl
  simp only [checkAccess, hjudged, counters_reported, counters_orExternal]
  rfl

/-! ### Who decides -/

/-- Who can decide about an access. -/
inductive Judge where
  /-- The pool that is asked. -/
  | pool
  /-- The objects from outside. -/
  | outside
  /-- Nobody, and what is said depends on the pointer alone. -/
  | nobody
deriving DecidableEq

/-- Who decides about an access, and what is said. -/
inductive Decides (m : Monitor) (p : Pool) (a : Address) (length : ByteCount) (mode : CheckMode) :
    Judge → Except Violation Verdict → Prop
  /-- The pool knows the first byte. -/
  | pool (hknows : p.Knows a) : Decides m p a length mode .pool (p.checkAccess a length mode).1
  /-- An object from outside has all bytes of the access. -/
  | inBounds {x : Object} (hmiss : ¬ p.Knows a) (hx : x ∈ m.external.objects)
      (hbytes : accessed a length ⊆ x.span.bytes) :
      Decides m p a length mode .outside (.ok (.inBounds x.span))
  /-- An object from outside has the first byte but not all of them. The violation is at the last
  byte, or at the last byte of the address space. -/
  | overflow {x : Object} {last : Address} (hmiss : ¬ p.Knows a) (hx : x ∈ m.external.objects)
      (hfirst : a.toNat ∈ x.span.bytes) (hbytes : ¬ accessed a length ⊆ x.span.bytes)
      (hlast : last.toNat = min (a.toNat + length.toNat - 1) (UInt64.size - 1)) :
      Decides m p a length mode .outside (.error
        { kind := Pool.overflowKind mode.access, pointer := last,
          weakness := some .bufferOverflow, span := some x.span, history := some x })
  /-- Nobody knows the null pointer, which cannot point anywhere. -/
  | uninitialized (hmiss : ¬ p.Knows a) (hnone : ∀ x ∈ m.external.objects, a.toNat ∉ x.span.bytes)
      (hmode : mode.provenance = .complete) (ha : a = 0) :
      Decides m p a length mode .nobody (.error { kind := .uninitialized, pointer := a })
  /-- Nobody knows the first byte, and the pointer can point to nothing else. -/
  | outOfBounds (hmiss : ¬ p.Knows a) (hnone : ∀ x ∈ m.external.objects, a.toNat ∉ x.span.bytes)
      (hmode : mode.provenance = .complete) (ha : a ≠ 0) :
      Decides m p a length mode .nobody (.error { kind := .outOfBounds, pointer := a })
  /-- Nobody knows the first byte, and the pointer may point elsewhere. -/
  | unknown (hmiss : ¬ p.Knows a) (hnone : ∀ x ∈ m.external.objects, a.toNat ∉ x.span.bytes)
      (hmode : mode.provenance = .incomplete) :
      Decides m p a length mode .nobody (.ok .unknown)

/-- What the pool and the objects from outside say comes to a result, and these are asked and know
an answer exactly if they are the ones who decide. -/
structure Settles (m : Monitor) (p : Pool) (a : Address) (length : ByteCount) (mode : CheckMode)
    (judge : Judge) (v : Except Violation Verdict) : Prop where
  /-- What the two say comes to the result. -/
  result : settle a (p.checkAccess a length mode).1
    (m.external.checkAccess a length { mode with provenance := .incomplete }).1 = v
  /-- The objects from outside are asked, and they know an answer. -/
  outside : missed a (p.checkAccess a length mode).1 = true ∧
    (m.external.checkAccess a length { mode with provenance := .incomplete }).1 ≠ .ok .unknown ↔
      judge = .outside

section

variable {m : Monitor} {p : Pool} {q outside : LinearPool} {a : Address} {length : ByteCount}
  {mode : CheckMode} {v : Except Violation Verdict}

/-- Somebody decides about every access, or nobody does. -/
theorem exists_decides (m : Monitor) (p : Pool) (a : Address) {length : ByteCount}
    (hlength : length ≠ 0) (mode : CheckMode) : ∃ judge r, m.Decides p a length mode judge r := by
  -- the cases follow the order in which the monitor asks
  by_cases hknows : p.Knows a
  · exact ⟨_, _, .pool hknows⟩
  by_cases houtside : ∃ x ∈ m.external.objects, a.toNat ∈ x.span.bytes
  · obtain ⟨x, hx, hfirst⟩ := houtside
    by_cases hbytes : accessed a length ⊆ x.span.bytes
    · exact ⟨_, _, .inBounds hknows hx hbytes⟩
    · exact ⟨_, _, .overflow hknows hx hfirst hbytes (Pool.toNat_lastByte hlength)⟩
  · have hnone : ∀ x ∈ m.external.objects, a.toNat ∉ x.span.bytes := fun x hx hfirst =>
      houtside ⟨x, hx, hfirst⟩
    cases hmode : mode.provenance with
    | incomplete => exact ⟨_, _, .unknown hknows hnone hmode⟩
    | complete =>
      by_cases ha : a = 0
      · exact ⟨_, _, .uninitialized hknows hnone hmode ha⟩
      · exact ⟨_, _, .outOfBounds hknows hnone hmode ha⟩

/-- A pool that knows the first byte is believed. -/
theorem settles_of_knows (hq : p.Refines q) (hlength : length ≠ 0) (hknows : p.Knows a) :
    m.Settles p a length mode .pool (p.checkAccess a length mode).1 := by
  have hmissed : missed a (p.checkAccess a length mode).1 = false := by
    rw [Bool.eq_false_iff]
    exact fun hasked => ((hq.missed_iff hlength mode).mp hasked).1 hknows
  refine ⟨?_, iff_of_false (by simp [hmissed]) (by decide)⟩
  simp only [settle, hmissed, Bool.false_eq_true, if_false]

/-- Where the pool does not know the first byte and an object from outside has it, the objects from
outside are asked, and what they know counts. -/
theorem settles_of_external (hq : p.Refines q) (houtside : m.external.Refines outside)
    (hholds : outside.HoldsExternal) (hlength : length ≠ 0) (hmiss : ¬ p.Knows a) {x : Object}
    (hx : x ∈ m.external.objects) (hfirst : a.toNat ∈ x.span.bytes)
    (hsaid : (m.external.checkAccess a length { mode with provenance := .incomplete }).1 = v)
    (hv : v ≠ .ok .unknown) : m.Settles p a length mode .outside v := by
  have hmissed : missed a (p.checkAccess a length mode).1 = true := by
    refine (hq.missed_iff hlength mode).mpr ⟨hmiss, ?_⟩
    -- no object from outside has the null address, the only one that the pool could know better
    rintro rfl
    rw [houtside.objects] at hx
    rw [Span.mem_bytes_iff, hholds.avoidsNull x hx] at hfirst
    cases hfirst
  refine ⟨?_, iff_of_true ⟨hmissed, hsaid ▸ hv⟩ rfl⟩
  rw [hsaid, settle_of_missed hmissed hv]

/-- Where no object from outside has the first byte, what the pool says counts. -/
theorem settles_of_nobody (houtside : m.external.Refines outside)
    (hholds : outside.HoldsExternal) (hlength : length ≠ 0)
    (hnone : ∀ x ∈ m.external.objects, a.toNat ∉ x.span.bytes)
    (hsaid : (p.checkAccess a length mode).1 = v) : m.Settles p a length mode .nobody v := by
  have hforgotten : ∀ o ∈ m.external.retainedObjects, a.toNat ∉ o.span.bytes := by
    intro o ho
    rw [houtside.mem_retainedObjects, hholds.retained] at ho
    cases ho
  have hunknown : (m.external.checkAccess a length { mode with provenance := .incomplete }).1 =
      .ok .unknown :=
    houtside.checkAccess_of_judges (.unknown hlength hnone rfl hforgotten)
  refine ⟨?_, iff_of_false (fun hasked => hasked.2 hunknown) (by decide)⟩
  rw [hunknown, settle_of_unknown, hsaid]

/-- What the rules say is what the pool and the objects from outside come to. -/
theorem Decides.settles {judge : Judge} (h : m.Decides p a length mode judge v)
    (hq : p.Refines q) (houtside : m.external.Refines outside) (hholds : outside.HoldsExternal)
    (hlength : length ≠ 0) : m.Settles p a length mode judge v := by
  cases h with
  | pool hknows => exact settles_of_knows hq hlength hknows
  | inBounds hmiss hx hbytes =>
    have hjudges : m.external.Judges a length { mode with provenance := .incomplete } _ :=
      .inBounds hlength hx hbytes
    exact settles_of_external hq houtside hholds hlength hmiss hx
      (hbytes (Span.mem_accessed hlength)) (houtside.checkAccess_of_judges hjudges) (by simp)
  | @overflow x last hmiss hx hfirst hbytes hlast =>
    -- the weakness is that of the kind with which all objects from outside were registered
    have hweakness : Weakness.bufferOverflow.IsOverflowOf x.kind := by
      rw [hholds.kind x (houtside.objects ▸ hx), Weakness.isOverflowOf_iff]
      rfl
    have hjudges : m.external.Judges a length { mode with provenance := .incomplete } _ :=
      .overflow hlength hx hfirst hbytes hlast hweakness
    exact settles_of_external hq houtside hholds hlength hmiss hx hfirst
      (houtside.checkAccess_of_judges hjudges) (by simp)
  | uninitialized hmiss hnone hmode ha =>
    obtain ⟨hlive, -⟩ := Pool.not_knows_iff.mp hmiss
    exact settles_of_nobody houtside hholds hlength hnone
      (hq.checkAccess_of_judges (.uninitialized hlength hlive hmode ha))
  | outOfBounds hmiss hnone hmode ha =>
    obtain ⟨hlive, hretained⟩ := Pool.not_knows_iff.mp hmiss
    exact settles_of_nobody houtside hholds hlength hnone
      (hq.checkAccess_of_judges (.outOfBounds hlength hlive hmode ha hretained))
  | unknown hmiss hnone hmode =>
    obtain ⟨hlive, hretained⟩ := Pool.not_knows_iff.mp hmiss
    exact settles_of_nobody houtside hholds hlength hnone
      (hq.checkAccess_of_judges (.unknown hlength hlive hmode hretained))

end

/-- In every monitor that a program can come to, and for every pool that exists, the check of an
access is decided by the pool if it knows the first byte, else by the objects from outside if one of
them has it, and else by nobody. What is said is what the rules say. One check is counted, one more
use of the objects from outside exactly where they decide, and one more pass for want of knowledge
exactly where nothing is known. -/
theorem decides_of_reachable {settings : Settings} {sink : Sink} {m : Monitor}
    (hm : Reachable settings sink m) {id : PoolId} {p : Pool} (hp : m.pool? id = some p)
    (a : Address) {length : ByteCount} (hlength : length ≠ 0) (mode : CheckMode)
    (site : Option Site) :
    (∃ judge v, m.Decides p a length mode judge v) ∧
    ∀ judge v, m.Decides p a length mode judge v →
      (m.checkAccess id a length mode site).1 = located v site ∧
      (m.checkAccess id a length mode site).2.counters.apartFromViolations =
        Counters.apartFromViolations { m.counters with
          checks := m.counters.checks + 1
          externalHits := m.counters.externalHits + if judge = .outside then 1 else 0
          incompletePasses :=
            m.counters.incompletePasses + if v = .ok .unknown then 1 else 0 } := by
  obtain ⟨q, hq⟩ := hm.wellFormed.pools id p hp
  obtain ⟨outside, houtside, hholds⟩ := hm.holdsExternal
  refine ⟨m.exists_decides p a hlength mode, fun judge v hdecides => ?_⟩
  -- what is said and what is counted depend on the same two answers
  obtain ⟨hsettled, hjudge⟩ := hdecides.settles hq houtside hholds hlength
  constructor
  · rw [checkAccess_fst a hp hq houtside, ← (hq.checkAccess a length mode).1,
      ← (houtside.checkAccess a length _).1, hsettled]
  · rw [counters_checkAccess hp, hsettled]
    simp only [hjudge]

/-- A write starts in an argument of the program and goes on past its end. The pool does not know
the argument, and although the pointer may point elsewhere the write is a violation. -/
theorem decides_of_reachable_argument :
    let m :=
      ((start {} (.buffer 0) 4096).performAll [.createPool, .registerExternal 4096 16 none]).2
    let argument : Object :=
      { span := ⟨4096, 4112, by decide⟩, kind := .external, allocId := 1, allocSite := none }
    let write := m.checkAccess 1 4108 8 ⟨.incomplete, .write⟩ none
    write.1 = .error
        { kind := .writeOutOfBounds, pointer := 4115, weakness := some .bufferOverflow,
          span := some argument.span, history := some argument } ∧
      write.2.counters.checks = 1 ∧ write.2.counters.externalHits = 1 ∧
      write.2.counters.incompletePasses = 0 := by
  intro m argument write
  have hm : Reachable {} (.buffer 0) m := (Reachable.start 4096).performAll _
  have hp : m.pool? 1 = some { retention := Settings.retention {} } := rfl
  have hmiss : ¬ ({ retention := Settings.retention {} } : Pool).Knows 4108 := by
    rintro ⟨o, ho | ho, -⟩ <;> cases ho
  have hargument : argument ∈ m.external.objects := by decide +kernel
  have hfirst : (4108 : Address).toNat ∈ argument.span.bytes := Span.mem_bytes_iff.mpr (by decide)
  have hpast : ¬ accessed 4108 8 ⊆ argument.span.bytes :=
    mt (Span.accessed_subset_bytes_iff (by decide)).mp (by decide)
  obtain ⟨-, hdecided⟩ := decides_of_reachable hm hp 4108 (show (8 : ByteCount) ≠ 0 by decide)
    ⟨.incomplete, .write⟩ none
  obtain ⟨hresult, hcounters⟩ := hdecided _ _
    (.overflow hmiss hargument hfirst hpast (show (4115 : Address).toNat = _ by decide))
  refine ⟨hresult, ?_, ?_, ?_⟩
  · exact congrArg Counters.checks hcounters
  · exact congrArg Counters.externalHits hcounters
  · exact congrArg Counters.incompletePasses hcounters

end Monitor

end MemorySentry
