import MemorySentry.Proofs.Monitor.Reachability

/-!
# Operations on pools that do not exist

An operation that names a pool that does not exist leaves all pools, all objects from outside and
the sequence numbers alone. Only the checks of accesses, of pointer arithmetic and of strings may
find a violation: they ask the objects from outside, and tell of a use that leaves one of them as if
a pool had been asked before (`unknownPool_of_reachable`).
-/

namespace MemorySentry

namespace Monitor

/-! ### What the objects from outside say -/

/-- The pointer about which a check asks the objects from outside, if no pool says anything. -/
def Command.pointer? : Command → Option Address
  | .checkAccess _ a .. => some a
  | .checkArithmetic _ source .. => some source
  | .checkString _ _ a .. => some a
  | _ => none

/-- What a check finds wrong with the use of an object. -/
def Command.misuse? (o : Object) : Command → Option Violation
  | .checkAccess _ a length mode _ =>
    if o.span.containsBytes a length then none else some (Pool.overflow mode.access a length o)
  | .checkArithmetic _ _ dest _ _ =>
    if o.span.start ≤ dest ∧ dest ≤ o.span.stop then none
    else some ((({ kind := .outOfBounds, pointer := dest } : Violation).about o).ofWeakness
      (.ofOverflow o.kind))
  | .checkString memory _ a function _ =>
    match stringLength? memory a (o.span.stop - a).toNat with
    | some _ => none
    | none =>
      some ((({ kind := .libraryMisuse, pointer := a } : Violation).about o).calling function)
  | _ => none

/-- What a check finds wrong with the object from outside at its pointer, if there is one there. -/
def misused? (m : Monitor) (c : Command) : Option Violation :=
  (c.pointer?.bind fun a => (m.externalAt a).1.bind c.misuse?).map fun v => v.atSite? c.site?

end Monitor

namespace LinearPool

open Monitor (violationIn)

variable {q : LinearPool}

/-- Where nothing is retained, an access is wrong only if it leaves the object in which it
starts. -/
theorem violationIn_checkAccess (hvalid : q.Valid) (hretained : q.retained = []) (id : PoolId)
    (a : Address) (length : ByteCount) (mode : CheckMode) (site : Option Site) :
    violationIn (q.checkAccess a length { mode with provenance := .incomplete }) =
      (q.objectAt a).bind (Monitor.Command.checkAccess id a length mode site).misuse? := by
  have hnone : q.retainedAt a = none := by rw [retainedAt, hretained]; rfl
  cases hat : q.objectAt a with
  | none =>
    by_cases hlength : length = 0
    · simp only [checkAccess, if_pos hlength]
      rfl
    · simp only [checkAccess, if_neg hlength, hat, hnone]
      rfl
  | some o =>
    obtain ⟨-, hcontains⟩ := (covering_eq_some_iff hvalid.apart_live).mp hat
    obtain ⟨hstart, hstop⟩ := Span.contains_iff.mp hcontains
    have hbytes : o.span.containsBytes a length = true ↔
        a.toNat + length.toNat ≤ o.span.stop.toNat := by
      rw [Span.containsBytes_iff, and_iff_right hstart]
    simp only [Option.bind_some, Monitor.Command.misuse?, hbytes]
    by_cases hlength : length = 0
    · -- no byte is accessed, and none lies past the end
      have hend : a.toNat + length.toNat ≤ o.span.stop.toNat := by
        rw [hlength]
        exact Nat.le_of_lt (UInt64.lt_iff_toNat_lt.mp hstop)
      simp only [checkAccess, if_pos hlength, if_pos hend]
      rfl
    · simp only [checkAccess, if_neg hlength, hat]
      split <;> rfl

/-- Of a pointer that may point anywhere, arithmetic is wrong only if it leaves the object in which
the pointer is. -/
theorem violationIn_checkArithmetic (id : PoolId) (source dest : Address) (mode : CheckMode)
    (site : Option Site) :
    violationIn (q.checkArithmetic source dest ⟨.incomplete, .read⟩) =
      (q.objectAt source).bind
        (Monitor.Command.checkArithmetic id source dest mode site).misuse? := by
  cases hat : q.objectAt source with
  | none =>
    simp only [checkArithmetic, hat]
    split <;> rfl
  | some o =>
    simp only [checkArithmetic, hat, Option.bind_some, Monitor.Command.misuse?]
    split <;> rfl

/-- A registration does not change what becomes of freed objects. -/
theorem retention_registerBytes (q : LinearPool) (numbers : Numbering) (a : Address)
    (size : ByteCount) (kind : ObjectKind) (site : Option Site) :
    (q.registerBytes numbers a size kind site).2.1.retention = q.retention := by
  unfold registerBytes
  split
  · split <;> rfl
  · rfl

end LinearPool

namespace Monitor

variable {m : Monitor} {id : PoolId} {c : Command}

/-! ### The objects from outside -/

namespace WellFormed

/-- What becomes of freed objects from outside stays as it is. -/
theorem retention_perform (h : m.WellFormed) (c : Command) :
    (m.perform c).2.external.retention = m.external.retention := by
  obtain ⟨q, hq, -⟩ := h.external
  have hsame : m.ExternalPool fun q' => q'.retention = q.retention := ⟨q, hq, rfl⟩
  obtain ⟨q', hq', hretention⟩ := hsame.perform (fun hkeep numbers a size site =>
    (LinearPool.retention_registerBytes _ numbers a size .external site).trans hkeep) c
  rw [hq'.retention, hretention, hq.retention]

/-- The objects from outside are those of a linear pool that retains nothing. -/
theorem outside (h : m.WellFormed) (hretention : m.external.retention = .immediate) :
    ∃ q, m.external.Refines q ∧ q.AvoidsNull ∧ q.retained = [] := by
  obtain ⟨q, hq, hnull⟩ := h.external
  have hbounded := hq.valid.bounded
  rw [← hq.retention, hretention] at hbounded
  exact ⟨q, hq, hnull, List.eq_nil_of_length_eq_zero (Nat.le_zero.mp hbounded)⟩

end WellFormed

/-- Objects from outside are not retained. -/
theorem Reachable.retention_external {settings : Settings} {sink : Sink}
    (h : Reachable settings sink m) : m.external.retention = .immediate := by
  induction h with
  | start => rfl
  | perform hm c ih => exact (hm.wellFormed.retention_perform c).trans ih
  | @onPool m _ id c ih => exact (m.sameApartFromPools_onPool id c).external ▸ ih

/-- The objects from outside find what the linear pool finds. -/
theorem externalAt_fst {q : LinearPool} (h : m.external.Refines q) (a : Address) :
    (m.externalAt a).1 = q.objectAt a :=
  h.objectAt_fst a

/-! ### What an operation finds -/

/-- Where the pool says that it knows nothing, the objects from outside decide. -/
theorem settle_unknown (a : Address) (r : Except Violation Verdict) :
    settle a (.ok .unknown) r = r := by
  rcases r with v | s | _ | _ <;> rfl

/-- To place a result places its violation. -/
theorem violationIn_located {α : Type} (r : Except Violation α) (site : Option Site) :
    violationIn (located r site) = (violationIn r).map fun v => v.atSite? site := by
  cases r <;> rfl

/-- What is wrong with a string is that its object is misused. -/
theorem violationIn_readString (memory : Address → UInt8) (id : PoolId) (a : Address)
    (function : String) (site : Option Site) (o : Option Object) :
    violationIn (readString memory a function o) =
      o.bind (Command.checkString memory id a function site).misuse? := by
  cases o with
  | none => rfl
  | some o =>
    simp only [readString, Option.bind_some, Command.misuse?]
    cases stringLength? memory a (o.span.stop - a).toNat <;> rfl

/-- A pool that does not exist answers nothing. -/
theorem poolAnswer?_of_unknown (hpool : c.pool? = some id) (hunknown : m.pool? id = none) :
    m.poolAnswer? c = none := by
  cases hin : c.inPool m.allocators with
  | none => rw [poolAnswer?, hin, Option.bind_none]
  | some e =>
    have hid : some e.1 = some id := (Command.pool?_of_inPool hin).symm.trans hpool
    rw [poolAnswer?, hin, Option.bind_some, Option.some.inj hid, hunknown, Option.map_none]

/-- An operation on an unknown pool finds what is wrong with the use of an object from outside, and
nothing else. -/
theorem violation?_of_unknown (h : m.WellFormed) (hretention : m.external.retention = .immediate)
    (hpool : c.pool? = some id) (hunknown : m.pool? id = none) :
    (m.perform c).1.violation? = m.misused? c := by
  obtain ⟨q, hq, hnull, hretained⟩ := h.outside hretention
  have hanswer : c.isStructural = false →
      (m.perform c).1 = c.conclude m.external none := fun hs => by
    rw [(m.perform_spec hs hpool).answer, poolAnswer?_of_unknown hpool hunknown]
  have hverdict : verdictIn none = .ok .unknown := rfl
  cases c with
  | checkAccess id' a length mode site =>
    have hfound := LinearPool.violationIn_checkAccess hq.valid hretained id' a length mode site
    rw [hanswer rfl, Command.conclude, Answer.violation?_verdict, hverdict, settle_unknown,
      violationIn_located, (hq.checkAccess a length _).1, hfound, ← externalAt_fst hq]
    rfl
  | checkArithmetic id' source dest mode site =>
    have hfound := LinearPool.violationIn_checkArithmetic (q := q) id' source dest mode site
    rw [hanswer rfl, Command.conclude, Answer.violation?_verdict, hverdict, settle_unknown,
      violationIn_located, (hq.checkArithmetic source dest _).1, hfound, ← externalAt_fst hq]
    rfl
  | checkString memory id' a function site =>
    by_cases ha : a = 0
    · -- the null pointer is in no object from outside
      have hnone : (m.externalAt a).1 = none := by
        rw [externalAt_fst hq, ha]
        exact List.find?_eq_none.mpr fun o ho => by rw [hnull o ho]; exact Bool.false_ne_true
      rw [hanswer rfl, Command.conclude, if_pos ha, misused?, Command.pointer?, Option.bind_some,
        hnone]
      rfl
    · have hobject : (objectIn none).or (m.external.objectAt a).1 = (m.externalAt a).1 := rfl
      rw [hanswer rfl, Command.conclude, if_neg ha, hobject, Answer.violation?_string,
        violationIn_located, violationIn_readString memory id' a function site]
      rfl
  | destroyPool id' =>
    simp only [perform]
    rfl
  | poolStats | objects | objectAt | retainedAt | register | free | endScope | move | checkAlignment
  | allocated | deallocated =>
    rw [hanswer rfl]
    rfl
  | _ => cases hpool

/-! ### What an operation changes -/

/-- Only objects from outside were looked at, violations reported and things counted. -/
def SameApartFromOutside (m m' : Monitor) : Prop :=
  ∃ external alerts counters, m' = { m with external, alerts, counters }

namespace SameApartFromOutside

variable {m' : Monitor}

theorem refl (m : Monitor) : SameApartFromOutside m m :=
  ⟨_, _, _, rfl⟩

/-- To count a check changes nothing from which a program could tell. -/
theorem countCheck (m : Monitor) : SameApartFromOutside m m.countCheck :=
  ⟨_, _, _, rfl⟩

/-- Nor does it to report what was found. -/
theorem reported {α : Type} (h : SameApartFromOutside m m') (r : Except Violation α)
    (site : Option Site) : SameApartFromOutside m (m'.reported r site).2 := by
  obtain ⟨external, alerts, counters, rfl⟩ := h
  cases r <;> exact ⟨_, _, _, rfl⟩

/-- Nor does it to ask the objects from outside, apart from their shape. -/
theorem orExternal (h : SameApartFromOutside m m') (a : Address) (r : Except Violation Verdict)
    (judge : Pool → Except Violation Verdict × Pool) :
    SameApartFromOutside m (m'.orExternal a r judge).2 := by
  obtain ⟨external, alerts, counters, rfl⟩ := h
  unfold Monitor.orExternal
  cases missed a r with
  | false => exact ⟨_, _, _, rfl⟩
  | true =>
    rcases judge external with ⟨fromOutside, external'⟩
    rcases fromOutside with v | s | _ | _
    · exact ⟨_, _, _, rfl⟩
    · exact ⟨_, _, _, rfl⟩
    · exact ⟨_, _, _, rfl⟩
    · rcases r with v | s | _ | _ <;> exact ⟨_, _, _, rfl⟩

/-- Nor does it to report what was found of a string. -/
theorem reportString (h : SameApartFromOutside m m') (memory : Address → UInt8) (a : Address)
    (function : String) (site : Option Site) (o : Option Object) :
    SameApartFromOutside m (m'.reportString memory a function site o).2 := by
  cases o with
  | none =>
    obtain ⟨external, alerts, counters, rfl⟩ := h
    exact ⟨_, _, _, rfl⟩
  | some o => exact h.reported _ site

end SameApartFromOutside

/-- An operation on an unknown pool that asks no object from outside does nothing, or it counts as a
check. -/
theorem perform_of_unknown (hpool : c.pool? = some id) (hunknown : m.pool? id = none)
    (hpointer : c.pointer? = none) : (m.perform c).2 = m ∨ (m.perform c).2 = m.countCheck := by
  have hcounted : m.countCheck.pool? id = none := hunknown
  have hregister : ∀ a size kind site, m.register id a size kind site = (none, m) := by
    simp [register, hunknown]
  have hfree : ∀ a site, m.free id a site = (.ok none, m) := by simp [free, hunknown]
  have hmove : ∀ new old size kind site, m.move id new old size kind site = (.ok none, m) := by
    simp [move, hunknown]
  cases c with
  | poolStats | objects => exact .inl rfl
  | destroyPool id' | objectAt id' a | retainedAt id' a | endScope id' a =>
    cases hpool
    simp [perform, destroyPool, askPool, endScope, hunknown]
  | register id' a size kind site =>
    cases hpool
    simp [perform, hregister]
  | free id' a site =>
    cases hpool
    simp [perform, hfree]
  | move id' new old size site =>
    cases hpool
    simp [perform, hmove]
  | allocated id' call measure site =>
    cases hpool
    -- whatever the call allocates would be registered or moved in the pool
    left
    simp only [perform, allocated]
    split
    · rfl
    · split
      · rfl
      · split
        · rw [hmove]
        · rw [hregister]
  | deallocated id' call site =>
    cases hpool
    left
    simp only [perform, deallocated]
    split
    · rfl
    · rw [hfree]
  | checkAlignment id' a elementSize site =>
    cases hpool
    right
    simp only [perform, checkAlignment, judgeIn, hcounted]
    rfl
  | checkAccess | checkArithmetic | checkString => cases hpointer
  | _ => cases hpool

/-- An operation on a pool that does not exist leaves pools and sequence numbers alone. -/
theorem sameApartFromOutside_perform (hpool : c.pool? = some id) (hunknown : m.pool? id = none) :
    SameApartFromOutside m (m.perform c).2 := by
  have hcounted : m.countCheck.pool? id = none := hunknown
  -- only operations with a pointer ask the objects from outside
  cases hpointer : c.pointer? with
  | none =>
    rcases perform_of_unknown hpool hunknown hpointer with heq | heq
    · rw [heq]
      exact .refl m
    · rw [heq]
      exact .countCheck m
  | some a =>
    cases c with
    | checkAccess id' a' length mode site =>
      cases hpool
      simp only [perform, checkAccess, judgeIn, hcounted]
      exact ((SameApartFromOutside.countCheck m).orExternal _ _ _).reported _ site
    | checkArithmetic id' source dest mode site =>
      cases hpool
      simp only [perform, checkArithmetic, judgeIn, hcounted]
      exact ((SameApartFromOutside.countCheck m).orExternal _ _ _).reported _ site
    | checkString memory id' a' function site =>
      cases hpool
      by_cases ha : a' = 0
      · simp only [perform, checkString, if_pos ha]
        exact .countCheck m
      · simp only [perform, checkString_eq m id memory ha, askPool, hcounted]
        exact SameApartFromOutside.reportString ⟨_, _, _, rfl⟩ memory a' function site _
    | _ => cases hpointer

/-- The objects from outside stay as they are, whether they are asked or not. -/
theorem objects_of_unknown (h : m.WellFormed) (hpool : c.pool? = some id)
    (hunknown : m.pool? id = none) : (m.perform c).2.external.objects = m.external.objects := by
  obtain ⟨q, hq, -⟩ := h.external
  cases hs : c.isStructural with
  | true =>
    cases c with
    | destroyPool id' =>
      exact congrArg Pool.objects (m.sameApartFromPools_destroyPool id').external
    | createPool | registerExternal | announce => cases hpool
    | _ => cases hs
  | false =>
    have hafter : m.afterPool c = m := by
      unfold afterPool
      split
      · rfl
      · next id' pc hin =>
        have hid : id' = id := Option.some.inj ((Command.pool?_of_inPool hin).symm.trans hpool)
        rw [hid, onPool, hunknown]
    have htracks := m.perform_tracks hs
    rw [hafter] at htracks
    rw [(htracks.external q hq).objects, hq.objects]

/-- In every state that a program can come to, an operation on a pool that does not exist leaves
everything as it is but the log of alerts, the counters and what is kept at hand of the objects from
outside. It finds a violation, and tells of it, exactly if it is a check whose pointer is in an
object from outside and whose use leaves that object. No other operation does more than to count as
a check. -/
theorem unknownPool_of_reachable {settings : Settings} {sink : Sink}
    (hm : Reachable settings sink m) {id : PoolId} {c : Command} (hpool : c.pool? = some id)
    (hunknown : m.pool? id = none) :
    SameApartFromOutside m (m.perform c).2 ∧
      (m.perform c).2.external.objects = m.external.objects ∧
      (m.perform c).1.violation? = m.misused? c ∧
      (m.perform c).2.told = m.told.after (m.misused? c) ∧
      (c.pointer? = none → (m.perform c).2 = m ∨ (m.perform c).2 = m.countCheck) := by
  have hfound := violation?_of_unknown hm.wellFormed hm.retention_external hpool hunknown
  have hdirect : ∀ v, c ≠ .report v := by
    rintro v rfl
    cases hpool
  refine ⟨sameApartFromOutside_perform hpool hunknown,
    objects_of_unknown hm.wellFormed hpool hunknown, hfound, ?_,
    perform_of_unknown hpool hunknown⟩
  rw [m.perform_told hdirect, hfound]

/-- An argument of the program is written to the end after the pool was destroyed. -/
theorem unknownPool_of_reachable_argument :
    let m := ((start {} (.buffer 0) 4096).performAll
      [.createPool, .destroyPool 1, .registerExternal 4096 16 none]).2
    let c : Command := .checkAccess 1 4096 16 ⟨.complete, .write⟩ none
    c.pool? = some 1 ∧ m.pool? 1 = none ∧ (m.perform c).1.violation? = none ∧
      (m.perform c).2.told = m.told := by
  intro m c
  have hm : Reachable {} (.buffer 0) m := (Reachable.start 4096).performAll _
  have hunknown : m.pool? 1 = none := rfl
  obtain ⟨-, -, hfound, htold, -⟩ := unknownPool_of_reachable hm (c := c) rfl hunknown
  exact ⟨rfl, hunknown, hfound, htold⟩

/-- A read that leaves the argument is a violation, although the pool does not exist. -/
theorem unknownPool_tells_of_argument :
    ¬∀ (settings : Settings) (sink : Sink) (page : UInt64) (cs : List Command) (id : PoolId)
        (c : Command),
      let m := ((start settings sink page).performAll cs).2
      c.pool? = some id → m.pool? id = none →
        (m.perform c).1.violation? = none ∧ (m.perform c).2.alerts.entries = m.alerts.entries := by
  intro hinert
  obtain ⟨hfound, -⟩ := hinert {} (.buffer 0) 4096
    [.createPool, .destroyPool 1, .registerExternal 4096 16 none] 1
    (.checkAccess 1 4108 8 ⟨.incomplete, .read⟩ none) rfl rfl
  revert hfound
  decide

end Monitor

end MemorySentry
