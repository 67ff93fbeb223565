import MemorySentry.Proofs.Monitor.Pools

/-!
# Operations of a monitor as operations on pools

What an operation answers that names a pool is a function of the pool's answer and of the objects
from outside (`Command.conclude`), and of the pools it changes only the one that it names, as the
pool does itself. `perform_spec` says so for all of them, so that what holds of the answers of pools
need not be proved again for monitors.
-/

namespace MemorySentry.Monitor

/-! ### Answers -/

/-- The verdict on a pointer that a pool and the objects from outside have judged. -/
def settle (a : Address) (r fromOutside : Except Violation Verdict) : Except Violation Verdict :=
  if missed a r then
    match fromOutside with
    | .ok .unknown => r
    | _ => fromOutside
  else r

/-- A result whose violation is found at a site. -/
def located {α : Type} (r : Except Violation α) (site : Option Site) : Except Violation α :=
  r.mapError fun v => v.atSite? site

/-- What is said of a string in an object, if the object is known. -/
def readString (memory : Address → UInt8) (a : Address) (function : String) :
    Option Object → Except Violation (Option ByteCount)
  | none => .ok none
  | some o =>
    match stringLength? memory a (o.span.stop - a).toNat with
    | some n => .ok (some n)
    | none =>
      .error ((({ kind := .libraryMisuse, pointer := a } : Violation).about o).calling function)

/-- The object in the answer of a pool, if there is one. -/
def objectIn : Option Pool.Answer → Option Object
  | some (.object o) => o
  | _ => none

/-- The registration in the answer of a pool, if there is one. -/
def registrationIn : Option Pool.Answer → Option Registration
  | some (.registration r) => r
  | _ => none

/-- The result of a free in the answer of a pool. -/
def freedIn : Option Pool.Answer → Except Violation (Option Object)
  | some (.freed r) => r
  | _ => .ok none

/-- The result of a move or of a registration in the answer of a pool. -/
def movedIn : Option Pool.Answer → Except Violation (Option Registration)
  | some (.moved r) => r
  | answer => .ok (registrationIn answer)

/-- The verdict in the answer of a pool. -/
def verdictIn : Option Pool.Answer → Except Violation Verdict
  | some (.verdict r) => r
  | _ => .ok .unknown

/-- The outcome of an alignment check in the answer of a pool. -/
def alignedIn : Option Pool.Answer → Except Violation Unit
  | some (.aligned r) => r
  | _ => .ok ()

/-- What an operation that names a pool answers if this is what the pool answers. There is nothing
that the pool answers if there is no such pool or nothing to ask of it. -/
def Command.conclude (external : Pool) (answer : Option Pool.Answer) : Command → Answer
  | .poolStats _ =>
    .stats (match answer with
      | some (.stats s) => some s
      | _ => none)
  | .objects _ =>
    .objects (match answer with
      | some (.objects os) => some os
      | _ => none)
  | .objectAt .. | .retainedAt .. | .endScope .. => .object (objectIn answer)
  | .register .. => .registration (registrationIn answer)
  | .free _ _ site | .deallocated _ _ site => .freed (located (freedIn answer) site)
  | .move _ _ _ _ site | .allocated _ _ _ site => .moved (located (movedIn answer) site)
  | .checkAccess _ a length mode site =>
    let fromOutside := (external.checkAccess a length { mode with provenance := .incomplete }).1
    .verdict (located (settle a (verdictIn answer) fromOutside) site)
  | .checkArithmetic _ source dest _ site =>
    let fromOutside := (external.checkArithmetic source dest ⟨.incomplete, .read⟩).1
    .verdict (located (settle source (verdictIn answer) fromOutside) site)
  | .checkAlignment _ _ _ site => .checked (located (alignedIn answer) site)
  | .checkString memory _ a function site =>
    if a = 0 then .string (.ok none)
    else
      let o := (objectIn answer).or (external.objectAt a).1
      .string (located (readString memory a function o) site)
  | _ => .done

/-- What the pool that an operation names answers to it. -/
def poolAnswer? (m : Monitor) (c : Command) : Option Pool.Answer :=
  (c.inPool m.allocators).bind fun e => (m.pool? e.1).map fun p => (p.perform m.numbers e.2).1

/-- What is reported is answered with its site. -/
theorem reported_fst {α : Type} (m : Monitor) (r : Except Violation α) (site : Option Site) :
    (m.reported r site).1 = located r site := by
  cases r <;> rfl

/-- The answer of a check is what the pool and the objects from outside come to. -/
theorem orExternal_fst (m : Monitor) (a : Address) (r : Except Violation Verdict)
    (judge : Pool → Except Violation Verdict × Pool) :
    (m.orExternal a r judge).1 = settle a r (judge m.external).1 := by
  unfold orExternal settle
  cases missed a r with
  | false => rfl
  | true =>
    rcases judge m.external with ⟨fromOutside, external⟩
    rcases fromOutside with v | s | _ | _
    · rfl
    · rfl
    · rfl
    · -- nobody knows anything, and the verdict of the pool counts
      rcases r with v | s | _ | _ <;> rfl

/-! ### Operations that follow allocations and frees -/

section

variable (m : Monitor) (id : PoolId)

/-- A registration answers as its pool does, and changes nothing else but what is counted and
told. -/
theorem register_spec (a : Address) (size : ByteCount) (kind : ObjectKind) (site : Option Site) :
    (m.register id a size kind site).1 =
        (m.pool? id).bind (fun p => (p.registerBytes m.numbers a size kind site).1) ∧
      Tracks (m.onPool id (.registerBytes a size kind site))
        (m.register id a size kind site).2 := by
  unfold register onPool
  cases m.pool? id with
  | none => exact ⟨rfl, .refl m⟩
  | some p =>
    simp only [Pool.perform, Option.bind_some]
    rcases p.registerBytes m.numbers a size kind site with ⟨_ | r, p', numbers⟩
    · exact ⟨rfl, .refl _⟩
    · exact ⟨rfl, (Tracks.refl _).countRegistration⟩

/-- So does a free. -/
theorem free_spec (a : Address) (site : Option Site) :
    (m.free id a site).1 =
        (match m.pool? id with
        | none => .ok none
        | some p => located (p.free m.numbers a site).1 site) ∧
      Tracks (m.onPool id (.free a site)) (m.free id a site).2 := by
  unfold free onPool
  cases m.pool? id with
  | none => exact ⟨rfl, .refl m⟩
  | some p =>
    simp only [Pool.perform]
    rcases p.free m.numbers a site with ⟨r, p', numbers⟩
    rcases r with v | _ | o
    · exact ⟨rfl, (Tracks.refl _).reported (.error v) site⟩
    · exact ⟨rfl, .refl _⟩
    · exact ⟨rfl, (Tracks.refl _).countUnregistration⟩

/-- So does the end of a scope. -/
theorem endScope_spec (a : Address) :
    (m.endScope id a).1 = (m.pool? id).bind (fun p => (p.endScope a).1) ∧
      Tracks (m.onPool id (.endScope a)) (m.endScope id a).2 := by
  unfold endScope onPool
  cases m.pool? id with
  | none => exact ⟨rfl, .refl m⟩
  | some p =>
    simp only [Pool.perform, Option.bind_some]
    rcases p.endScope a with ⟨_ | o, p'⟩
    · exact ⟨rfl, .refl _⟩
    · exact ⟨rfl, (Tracks.refl _).countUnregistration⟩

/-- So does a move. -/
theorem move_spec (new old : Address) (size : ByteCount) (kind : ObjectKind) (site : Option Site) :
    (m.move id new old size kind site).1 =
        (match m.pool? id with
        | none => .ok none
        | some p => located (p.move m.numbers new old size kind site).1 site) ∧
      Tracks (m.onPool id (.move new old size kind site)) (m.move id new old size kind site).2 := by
  unfold move onPool
  cases m.pool? id with
  | none => exact ⟨rfl, .refl m⟩
  | some p =>
    simp only [Pool.perform]
    rcases p.move m.numbers new old size kind site with ⟨r, p', numbers⟩
    rcases r with v | _ | o
    · exact ⟨rfl, (Tracks.refl _).reported (.error v) site⟩
    · exact ⟨rfl, .refl _⟩
    · exact ⟨rfl, (Tracks.refl _).countRegistration⟩

/-- What a pool is asked without a change of its objects. -/
theorem judgeIn_spec {α : Type} (absent : α) (judge : Pool → Except Violation α × Pool)
    {c : Pool.Command} (hjudge : ∀ p numbers, (p.perform numbers c).2 = ((judge p).2, numbers)) :
    (m.judgeIn id absent judge).1 =
        (match m.pool? id with
        | none => .ok absent
        | some p => (judge p).1) ∧
      Tracks (m.onPool id c) (m.judgeIn id absent judge).2 := by
  unfold judgeIn onPool
  cases m.pool? id with
  | none => exact ⟨rfl, .refl m⟩
  | some p =>
    simp only [hjudge p m.numbers]
    exact ⟨trivial, .refl _⟩

/-- To have a pool judge leaves the objects from outside alone. -/
theorem judgeIn_external {α : Type} (absent : α) (judge : Pool → Except Violation α × Pool) :
    (m.judgeIn id absent judge).2.external = m.external := by
  unfold judgeIn
  cases m.pool? id <;> rfl

/-- To ask a pool answers as the pool does, and changes nothing else. -/
theorem askPool_spec {α : Type} (ask : Pool → Option α × Pool) {c : Pool.Command}
    (hask : ∀ p numbers, (p.perform numbers c).2 = ((ask p).2, numbers)) :
    (m.askPool id ask).1 = (m.pool? id).bind (fun p => (ask p).1) ∧
      Tracks (m.onPool id c) (m.askPool id ask).2 := by
  unfold askPool onPool
  cases m.pool? id with
  | none => exact ⟨rfl, .refl m⟩
  | some p =>
    simp only [hask p m.numbers, Option.bind_some]
    exact ⟨trivial, .refl _⟩

/-- It leaves the objects from outside alone. -/
theorem askPool_external {α : Type} (ask : Pool → Option α × Pool) :
    (m.askPool id ask).2.external = m.external := by
  unfold askPool
  cases m.pool? id <;> rfl

end

/-! ### All operations -/

/-- What an operation that names a pool answers and what it changes, apart from what it counts and
reports. -/
structure Spec (m : Monitor) (c : Command) : Prop where
  answer : (m.perform c).1 = c.conclude m.external (m.poolAnswer? c)
  tracks : Tracks (m.afterPool c) (m.perform c).2

/-- An operation that asks the pool something. -/
theorem Spec.of_inPool {m : Monitor} {c : Command} {id : PoolId} {pc : Pool.Command}
    (hin : c.inPool m.allocators = some (id, pc))
    (hanswer : (m.perform c).1 =
      c.conclude m.external ((m.pool? id).map fun p => (p.perform m.numbers pc).1))
    (htracks : Tracks (m.onPool id pc) (m.perform c).2) : m.Spec c := by
  refine ⟨?_, ?_⟩
  · rw [hanswer, poolAnswer?, hin]
    rfl
  · rw [afterPool, hin]
    exact htracks

section

variable (m : Monitor) (id : PoolId)

/-- A registration comes to what its pool says. -/
theorem spec_register (a : Address) (size : ByteCount) (kind : ObjectKind) (site : Option Site) :
    m.Spec (.register id a size kind site) := by
  obtain ⟨hanswer, htracks⟩ := m.register_spec id a size kind site
  refine .of_inPool rfl ?_ htracks
  refine (congrArg Answer.registration hanswer).trans ?_
  cases m.pool? id <;> rfl

/-- So does a free. -/
theorem spec_free (a : Address) (site : Option Site) : m.Spec (.free id a site) := by
  obtain ⟨hanswer, htracks⟩ := m.free_spec id a site
  refine .of_inPool rfl ?_ htracks
  refine (congrArg Answer.freed hanswer).trans ?_
  cases m.pool? id <;> rfl

/-- So does the end of a scope. -/
theorem spec_endScope (a : Address) : m.Spec (.endScope id a) := by
  obtain ⟨hanswer, htracks⟩ := m.endScope_spec id a
  refine .of_inPool rfl ?_ htracks
  refine (congrArg Answer.object hanswer).trans ?_
  cases m.pool? id <;> rfl

/-- So does a move. -/
theorem spec_move (new old : Address) (size : ByteCount) (site : Option Site) :
    m.Spec (.move id new old size site) := by
  obtain ⟨hanswer, htracks⟩ := m.move_spec id new old size .heap site
  refine .of_inPool rfl ?_ htracks
  refine (congrArg Answer.moved hanswer).trans ?_
  cases m.pool? id <;> rfl

/-- So does a call that allocates. -/
theorem spec_allocated (c : Call) (measure : Address → Option ByteCount) (site : Option Site) :
    m.Spec (.allocated id c measure site) := by
  have hperform : m.perform (.allocated id c measure site) =
      (.moved (m.allocated id c measure site).1, (m.allocated id c measure site).2) := rfl
  refine ⟨?_, ?_⟩ <;> rw [hperform] <;>
    simp only [allocated, poolAnswer?, afterPool, Command.inPool, allocation?]
  · -- the answer: a call with an old address moves, any other registers
    cases m.allocators.allocating? c with
    | none => rfl
    | some e =>
      obtain ⟨f, kind⟩ := e
      simp only
      cases f.size? c measure with
      | none => rfl
      | some size =>
        cases f.resized? c with
        | some old =>
          simp only [(m.move_spec id c.returned old size kind site).1, Option.map_some,
            Option.bind_some]
          cases m.pool? id <;> rfl
        | none =>
          simp only [(m.register_spec id c.returned size kind site).1, Option.map_some,
            Option.bind_some]
          cases m.pool? id <;> rfl
  · -- the pools, by the same cases
    cases m.allocators.allocating? c with
    | none => exact .refl m
    | some e =>
      obtain ⟨f, kind⟩ := e
      simp only
      cases f.size? c measure with
      | none => exact .refl m
      | some size =>
        cases f.resized? c with
        | some old => exact (m.move_spec id c.returned old size kind site).2
        | none => exact (m.register_spec id c.returned size kind site).2

/-- So does one that frees. -/
theorem spec_deallocated (c : Call) (site : Option Site) : m.Spec (.deallocated id c site) := by
  have hperform : m.perform (.deallocated id c site) =
      (.freed (m.deallocated id c site).1, (m.deallocated id c site).2) := rfl
  refine ⟨?_, ?_⟩ <;> rw [hperform] <;>
    simp only [deallocated, poolAnswer?, afterPool, Command.inPool]
  · cases (m.allocators.freeing? c).bind fun f => f.freed? c with
    | none => rfl
    | some a =>
      simp only [(m.free_spec id a site).1, Option.map_some, Option.bind_some]
      cases m.pool? id <;> rfl
  · cases (m.allocators.freeing? c).bind fun f => f.freed? c with
    | none => exact .refl m
    | some a => exact (m.free_spec id a site).2

/-- So does a look-up among the live objects. -/
theorem spec_objectAt (a : Address) : m.Spec (.objectAt id a) := by
  obtain ⟨hanswer, htracks⟩ := m.askPool_spec id (fun p => p.objectAt a)
    (c := .objectAt a) fun p numbers => rfl
  refine .of_inPool rfl ?_ htracks
  refine (congrArg Answer.object hanswer).trans ?_
  cases m.pool? id <;> rfl

/-- So does one among the retained ones. -/
theorem spec_retainedAt (a : Address) : m.Spec (.retainedAt id a) := by
  obtain ⟨hanswer, htracks⟩ := m.askPool_spec id (fun p => p.findRetained a)
    (c := .retainedAt a) fun p numbers => rfl
  refine .of_inPool rfl ?_ htracks
  refine (congrArg Answer.object hanswer).trans ?_
  cases m.pool? id <;> rfl

/-- So does the check of an aligned pointer. -/
theorem spec_checkAlignment (a : Address) (elementSize : ByteCount) (site : Option Site) :
    m.Spec (.checkAlignment id a elementSize site) := by
  obtain ⟨hanswer, htracks⟩ := m.countCheck.judgeIn_spec id ()
    (fun p => p.checkAlignment a elementSize) (c := .checkAlignment a elementSize)
    fun p numbers => rfl
  refine .of_inPool rfl ?_ ?_
  · simp only [perform, checkAlignment, reported_fst, hanswer]
    have hpool : m.countCheck.pool? id = m.pool? id := rfl
    rw [hpool]
    cases m.pool? id <;> rfl
  · exact (((Tracks.refl m).countCheck.onPool id _).trans htracks).reported _ site

/-- The check of an access comes to what the pool and the objects from outside say. -/
theorem spec_checkAccess (a : Address) (length : ByteCount) (mode : CheckMode)
    (site : Option Site) : m.Spec (.checkAccess id a length mode site) := by
  obtain ⟨hanswer, htracks⟩ := m.countCheck.judgeIn_spec id .unknown
    (fun p => p.checkAccess a length mode) (c := .checkAccess a length mode)
    fun p numbers => rfl
  refine .of_inPool rfl ?_ ?_
  · simp only [perform, checkAccess, reported_fst, orExternal_fst, judgeIn_external, hanswer]
    have hpool : m.countCheck.pool? id = m.pool? id := rfl
    rw [hpool]
    cases m.pool? id <;> rfl
  · exact ((((Tracks.refl m).countCheck.onPool id _).trans htracks).orExternal a _
      fun p q hp => (hp.checkAccess a length _).2).reported _ site

/-- So does the check of arithmetic. -/
theorem spec_checkArithmetic (source dest : Address) (mode : CheckMode) (site : Option Site) :
    m.Spec (.checkArithmetic id source dest mode site) := by
  obtain ⟨hanswer, htracks⟩ := m.countCheck.judgeIn_spec id .unknown
    (fun p => p.checkArithmetic source dest mode) (c := .checkArithmetic source dest mode)
    fun p numbers => rfl
  refine .of_inPool rfl ?_ ?_
  · simp only [perform, checkArithmetic, reported_fst, orExternal_fst, judgeIn_external, hanswer]
    have hpool : m.countCheck.pool? id = m.pool? id := rfl
    rw [hpool]
    cases m.pool? id <;> rfl
  · exact ((((Tracks.refl m).countCheck.onPool id _).trans htracks).orExternal source _
      fun p q hp => (hp.checkArithmetic source dest _).2).reported _ site

/-- Reports what is said of a string in an object, if the object is known. -/
def reportString (m : Monitor) (memory : Address → UInt8) (a : Address) (function : String)
    (site : Option Site) : Option Object → Except Violation (Option ByteCount) × Monitor
  | none => (.ok none, m.count fun c => { c with incompletePasses := c.incompletePasses + 1 })
  | some o => m.reported (readString memory a function (some o)) site

/-- A string that is not null is looked for in the pool and then among the objects from outside. -/
theorem checkString_eq (memory : Address → UInt8) {a : Address} (ha : a ≠ 0) (function : String)
    (site : Option Site) :
    m.checkString memory id a function site =
      match m.countCheck.askPool id fun p => p.objectAt a with
      | (some o, m) => m.reportString memory a function site (some o)
      | (none, m) => (m.externalAt a).2.reportString memory a function site (m.externalAt a).1 := by
  have hread : ∀ (m : Monitor) (o : Object),
      (match stringLength? memory a (o.span.stop - a).toNat with
        | some n => m.reported (.ok (some n)) site
        | none => m.reported (.error ((({ kind := .libraryMisuse, pointer := a } : Violation).about
            o).calling function)) site) = m.reportString memory a function site (some o) := by
    intro m o
    simp only [reportString, readString]
    cases stringLength? memory a (o.span.stop - a).toNat <;> rfl
  unfold checkString askPool
  simp only [if_neg ha]
  cases m.countCheck.pool? id with
  | none =>
    simp only
    rcases m.countCheck.externalAt a with ⟨_ | o, m'⟩
    · rfl
    · exact hread m' o
  | some p =>
    simp only
    rcases p.objectAt a with ⟨_ | o, p'⟩
    · simp only
      rcases (m.countCheck.setPool id p').externalAt a with ⟨_ | o, m'⟩
      · rfl
      · exact hread m' o
    · exact hread _ o

/-- What is found of a string is answered with its site. -/
theorem reportString_fst (memory : Address → UInt8) (a : Address) (function : String)
    (site : Option Site) (o : Option Object) :
    (m.reportString memory a function site o).1 =
      located (readString memory a function o) site := by
  cases o with
  | none => rfl
  | some o => exact reported_fst m _ site

/-- To report it changes nothing but what is counted and told. -/
theorem Tracks.reportString {m m' : Monitor} (h : Tracks m m') (memory : Address → UInt8)
    (a : Address) (function : String) (site : Option Site) (o : Option Object) :
    Tracks m (m'.reportString memory a function site o).2 := by
  cases o with
  | none => exact { h with }
  | some o => exact h.reported _ site

/-- The check of a string comes to what the pool and the objects from outside say. -/
theorem spec_checkString (memory : Address → UInt8) (a : Address) (function : String)
    (site : Option Site) : m.Spec (.checkString memory id a function site) := by
  have hperform : m.perform (.checkString memory id a function site) =
      (.string (m.checkString memory id a function site).1,
        (m.checkString memory id a function site).2) := rfl
  by_cases ha : a = 0
  · -- the null address is no string, and nothing is asked
    refine ⟨?_, ?_⟩ <;> rw [hperform] <;>
      simp only [checkString, afterPool, Command.inPool, Command.conclude, if_pos ha]
    exact (Tracks.refl m).countCheck
  obtain ⟨hanswer, htracks⟩ := m.countCheck.askPool_spec id (fun p => p.objectAt a)
    (c := .objectAt a) fun p numbers => rfl
  have hexternal : (m.countCheck.askPool id fun p => p.objectAt a).2.external = m.external :=
    m.countCheck.askPool_external id fun p => p.objectAt a
  have htracks' := ((Tracks.refl m).countCheck.onPool id (.objectAt a)).trans htracks
  have hpool : m.countCheck.pool? id = m.pool? id := rfl
  rw [hpool] at hanswer
  have hafter : m.afterPool (.checkString memory id a function site) =
      m.onPool id (.objectAt a) := by
    simp only [afterPool, Command.inPool, if_neg ha]
  have hobject : objectIn (m.poolAnswer? (.checkString memory id a function site)) =
      (m.pool? id).bind fun p => (p.objectAt a).1 := by
    simp only [poolAnswer?, Command.inPool, if_neg ha, Option.bind_some]
    cases m.pool? id <;> rfl
  have hconclude : ∀ answer, Command.conclude m.external answer
      (.checkString memory id a function site) = .string (located (readString memory a function
        ((objectIn answer).or (m.external.objectAt a).1)) site) := fun answer => if_neg ha
  rcases hasked : m.countCheck.askPool id fun p => p.objectAt a with ⟨o, m'⟩
  rw [hasked] at hanswer hexternal htracks'
  refine ⟨?_, ?_⟩ <;> rw [hperform, m.checkString_eq id memory ha, hasked]
  · rw [hconclude, hobject, ← hanswer, ← hexternal]
    cases o with
    | none => exact congrArg Answer.string (reportString_fst _ memory a function site _)
    | some o => exact congrArg Answer.string (reportString_fst _ memory a function site _)
  · rw [hafter]
    cases o with
    | none => exact (htracks'.externalAt a).reportString memory a function site _
    | some o => exact htracks'.reportString memory a function site _

/-- A question that does not even look anything up. -/
theorem onPool_tracks {c : Pool.Command}
    (hc : ∀ p numbers, (Pool.perform p numbers c).2 = (p, numbers)) : Tracks (m.onPool id c) m := by
  have hpools : ∀ id', m.pool? id' = (m.onPool id c).pool? id' := by
    intro id'
    rw [pool?_onPool]
    by_cases hid : id' = id
    · rw [if_pos hid, hid]
      cases m.pool? id with
      | none => rfl
      | some p => rw [Option.map_some, hc]
    · rw [if_neg hid]
  unfold onPool at hpools ⊢
  cases hp : m.pool? id with
  | none => exact .refl m
  | some p =>
    rw [hp] at hpools
    simp only [hc] at hpools ⊢
    exact { Tracks.refl m with pools := hpools }

theorem spec_poolStats : m.Spec (.poolStats id) := by
  have htracks : Tracks (m.onPool id .stats) m := m.onPool_tracks id fun p numbers => rfl
  refine .of_inPool rfl ?_ htracks
  simp only [perform]
  cases m.pool? id <;> rfl

theorem spec_objects : m.Spec (.objects id) := by
  have htracks : Tracks (m.onPool id .objects) m := m.onPool_tracks id fun p numbers => rfl
  refine .of_inPool rfl ?_ htracks
  simp only [perform]
  cases m.pool? id <;> rfl

end

/-- An operation that names a pool can be understood from what it asks of the pool. -/
theorem perform_spec (m : Monitor) {c : Command} (hc : c.isStructural = false) {id : PoolId}
    (hpool : c.pool? = some id) : m.Spec c := by
  cases c with
  | poolStats id => exact m.spec_poolStats id
  | objects id => exact m.spec_objects id
  | objectAt id a => exact m.spec_objectAt id a
  | retainedAt id a => exact m.spec_retainedAt id a
  | register id a size kind site => exact m.spec_register id a size kind site
  | free id a site => exact m.spec_free id a site
  | endScope id a => exact m.spec_endScope id a
  | move id new old size site => exact m.spec_move id new old size site
  | checkAccess id a length mode site => exact m.spec_checkAccess id a length mode site
  | checkArithmetic id source dest mode site =>
    exact m.spec_checkArithmetic id source dest mode site
  | checkAlignment id a elementSize site => exact m.spec_checkAlignment id a elementSize site
  | checkString memory id a function site => exact m.spec_checkString id memory a function site
  | allocated id c measure site => exact m.spec_allocated id c measure site
  | deallocated id c site => exact m.spec_deallocated id c site
  | destroyPool id => cases hc
  | createPool | poolCount | registerExternal | externalAt | checkDerived | checkDerivedAccess
  | checkCallTarget | announce | shadow | unshadow | canonicalOf | report | counters => cases hpool

/-- Apart from the pool that it names, an operation that is not structural changes at most what is
counted and reported, and the second views of memory. -/
theorem perform_tracks (m : Monitor) {c : Command} (hc : c.isStructural = false) :
    Tracks (m.afterPool c) (m.perform c).2 := by
  cases hpool : c.pool? with
  | some id => exact (m.perform_spec hc hpool).tracks
  | none =>
    cases c with
    | poolCount | canonicalOf | counters => exact .refl m
    | externalAt a => exact (Tracks.refl m).externalAt a
    | checkDerived base pointer size site => exact (Tracks.refl m).countCheck.reported _ site
    | checkDerivedAccess base pointer size length site =>
      exact (Tracks.refl m).countCheck.reported _ site
    | checkCallTarget target targets provenance site =>
      cases provenance with
      | incomplete => exact (Tracks.refl m).countCheck
      | complete => exact (Tracks.refl m).countCheck.reported _ site
    | shadow remap a length =>
      simp only [perform, Monitor.shadow]
      split
      · exact .refl m
      · split
        · exact .refl m
        · split
          · exact .refl m
          · exact { Tracks.refl m with }
    | unshadow protect a =>
      simp only [perform, Monitor.unshadow]
      split
      · exact .refl m
      · split
        · exact { Tracks.refl m with }
        · split
          · exact { Tracks.refl m with }
          · exact { Tracks.refl m with }
    | report v => exact { Tracks.refl m with }
    | createPool | registerExternal | announce => cases hc
    | _ => cases hpool

/-- No operation changes how the program is watched, or how large pages are. -/
theorem perform_settings (m : Monitor) (c : Command) :
    (m.perform c).2.settings = m.settings ∧ (m.perform c).2.pageSize = m.pageSize := by
  cases hs : c.isStructural with
  | true =>
    cases c with
    | createPool | announce f => exact ⟨rfl, rfl⟩
    | destroyPool id =>
      have hsame := m.sameApartFromPools_destroyPool id
      exact ⟨hsame.settings, hsame.pageSize⟩
    | registerExternal a size site =>
      obtain ⟨numbers, counters, heq⟩ := m.registerExternal_eq a size site
      show (m.registerExternal a size site).2.settings = m.settings ∧
        (m.registerExternal a size site).2.pageSize = m.pageSize
      rw [heq]
      exact ⟨rfl, rfl⟩
    | _ => cases hs
  | false =>
    have htracks := m.perform_tracks hs
    have hsame := m.sameApartFromPools_afterPool c
    exact ⟨htracks.settings.trans hsame.settings, htracks.pageSize.trans hsame.pageSize⟩

end MemorySentry.Monitor
