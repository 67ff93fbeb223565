import MemorySentry.Proofs.Monitor.Operations
import MemorySentry.Proofs.Pool.Sites

/-!
# Monitors without sites

Every operation is told where in the program it happens, and these sites are stored with objects and
shown with violations. Nothing is decided by them: an operation without its site does to a monitor
without sites what the operation does to the monitor (`perform_unsited`), and so does a run
(`performAll_unsited`).
-/

namespace MemorySentry

/-- The log without the sites of its alerts. -/
def AlertLog.unsited (log : AlertLog) : AlertLog :=
  { log with entries := log.entries.map fun e => (e.1, e.2.unsited) }

/-- A report is decided about alike without sites. -/
theorem AlertLog.report_unsited (log : AlertLog) (v : Violation) :
    log.unsited.report v.unsited = ((log.report v).1, (log.report v).2.unsited) := by
  have hentries : log.unsited.entries ++ [(log.unsited.sink, v.unsited)] =
      (log.entries ++ [(log.sink, v)]).map fun e => (e.1, e.2.unsited) := by
    rw [List.map_append]
    rfl
  have hwarning : v.unsited.isWarning = v.isWarning := rfl
  have hstop : log.unsited.stopOnError = log.stopOnError := rfl
  have hremaining : log.unsited.remaining = log.remaining := rfl
  unfold report
  simp only [hentries]
  rw [hwarning]
  split
  · rfl
  · rw [hstop, hremaining]
    split <;> rfl

namespace DirectCheck

/-- The check of a derived pointer knows no sites. -/
theorem address_unsited (base pointer : Address) (size : ByteCount) :
    unsitedResult id (address base pointer size) = address base pointer size := by
  unfold address
  simp only
  split
  · rfl
  · split <;> rfl

/-- Nor does the one of an access through it. -/
theorem access_unsited (base pointer : Address) (size length : ByteCount) :
    unsitedResult id (access base pointer size length) = access base pointer size length := by
  unfold access
  simp only
  split
  · rfl
  · split <;> rfl

/-- Nor does the one of the target of a call. -/
theorem callTarget_unsited (target : Address) (targets : List Address) :
    unsitedResult id (callTarget target targets) = callTarget target targets := by
  unfold callTarget
  split <;> rfl

end DirectCheck

/-- A violation is the same without its site, wherever it was found. -/
theorem Violation.unsited_atSite? (v : Violation) (site : Option Site) :
    (v.atSite? site).unsited = v.unsited := by
  cases site <;> rfl

namespace Monitor

/-- The monitor without the sites of its objects and of its alerts. -/
def unsited (m : Monitor) : Monitor :=
  { m with
    pools := m.pools.map fun e => (e.1, e.2.unsited)
    external := m.external.unsited
    alerts := m.alerts.unsited }

/-- The operation without its site. -/
def Command.unsited : Command → Command
  | .register id a size kind _ => .register id a size kind none
  | .registerExternal a size _ => .registerExternal a size none
  | .free id a _ => .free id a none
  | .move id new old size _ => .move id new old size none
  | .checkAccess id a length mode _ => .checkAccess id a length mode none
  | .checkArithmetic id source dest mode _ => .checkArithmetic id source dest mode none
  | .checkAlignment id a elementSize _ => .checkAlignment id a elementSize none
  | .checkDerived base pointer size _ => .checkDerived base pointer size none
  | .checkDerivedAccess base pointer size length _ =>
    .checkDerivedAccess base pointer size length none
  | .checkCallTarget target targets provenance _ => .checkCallTarget target targets provenance none
  | .checkString memory id a function _ => .checkString memory id a function none
  | .allocated id c measure _ => .allocated id c measure none
  | .deallocated id c _ => .deallocated id c none
  | .report v => .report v.unsited
  | c => c

/-- The answer without the sites in its objects and in its violation. -/
def Answer.unsited : Answer → Answer
  | .objects os => .objects (os.map fun os => os.map Object.unsited)
  | .object o => .object (o.map Object.unsited)
  | .registration r => .registration (r.map Registration.unsited)
  | .moved r => .moved (unsitedResult (Option.map Registration.unsited) r)
  | .freed r => .freed (unsitedResult (Option.map Object.unsited) r)
  | .verdict r => .verdict (unsitedResult id r)
  | .checked r => .checked (unsitedResult id r)
  | .derived r => .derived (unsitedResult id r)
  | .string r => .string (unsitedResult id r)
  | answer => answer

section

variable (m : Monitor)

@[simp]
theorem unsited_numbers : m.unsited.numbers = m.numbers := rfl

@[simp]
theorem unsited_allocators : m.unsited.allocators = m.allocators := rfl

@[simp]
theorem unsited_external : m.unsited.external = m.external.unsited := rfl

@[simp]
theorem unsited_shadows : m.unsited.shadows = m.shadows := rfl

@[simp]
theorem unsited_pageSize : m.unsited.pageSize = m.pageSize := rfl

/-! ### Pools and alerts -/

/-- A pool is created alike without sites. -/
theorem createPool_unsited :
    m.unsited.createPool = (m.createPool.1, m.createPool.2.unsited) := by
  have hpools : ∀ p : Pool, m.unsited.pools ++ [(m.nextPool, p.unsited)] =
      (m.pools ++ [(m.nextPool, p)]).map fun e => (e.1, e.2.unsited) := by
    intro p
    rw [List.map_append]
    rfl
  have hnew := hpools { retention := m.settings.retention }
  rw [Pool.fresh_unsited] at hnew
  exact congrArg (fun pools => (m.nextPool, { m.createPool.2.unsited with pools })) hnew

/-- The same pools exist. -/
theorem pool?_unsited (id : PoolId) : m.unsited.pool? id = (m.pool? id).map Pool.unsited := by
  unfold pool? unsited
  simp only
  induction m.pools with
  | nil => rfl
  | cons e rest ih =>
    rw [List.map_cons, List.lookup_cons, List.lookup_cons, ih]
    cases id == e.1 <;> rfl

/-- A pool is destroyed alike. -/
theorem destroyPool_unsited (id : PoolId) :
    m.unsited.destroyPool id = ((m.destroyPool id).1, (m.destroyPool id).2.unsited) := by
  unfold destroyPool
  rw [pool?_unsited]
  cases m.pool? id with
  | none => rfl
  | some p =>
    have hpools : m.unsited.pools.filter (fun e => e.1 ≠ id) =
        (m.pools.filter fun e => e.1 ≠ id).map fun e => (e.1, e.2.unsited) := by
      unfold unsited
      rw [List.filter_map]
      rfl
    simp only [Option.map_some, hpools]
    rfl

/-- A pool is replaced alike. -/
theorem setPool_unsited (id : PoolId) (p : Pool) :
    m.unsited.setPool id p.unsited = (m.setPool id p).unsited := by
  unfold setPool unsited
  simp only [List.map_map]
  congr 1
  refine List.map_congr_left fun e _ => ?_
  simp only [Function.comp_apply]
  split <;> rfl

/-- The monitor after a change of a pool and of the numbers. -/
theorem setPool_numbers_unsited (id : PoolId) (p : Pool) (numbers : Numbering) :
    ({ m.unsited.setPool id p.unsited with numbers } : Monitor) =
      ({ m.setPool id p with numbers } : Monitor).unsited := by
  rw [setPool_unsited]
  rfl

/-- The same is decided about a report. -/
theorem report_unsited (v : Violation) :
    m.unsited.report v.unsited = ((m.report v).1, (m.report v).2.unsited) := by
  have hlog : m.unsited.alerts = m.alerts.unsited := rfl
  unfold report
  simp only [hlog, AlertLog.report_unsited]
  rfl

/-- What was found is reported alike. -/
theorem reported_unsited {α : Type} (f : α → α) (r : Except Violation α) (site : Option Site) :
    m.unsited.reported (unsitedResult f r) none =
      (unsitedResult f (m.reported r site).1, (m.reported r site).2.unsited) := by
  cases r with
  | ok a => rfl
  | error v =>
    have hreport := m.report_unsited (v.atSite? site)
    rw [Violation.unsited_atSite?] at hreport
    have hplace : v.unsited.atSite? none = (v.atSite? site).unsited :=
      (v.unsited_atSite? site).symm
    simp only [unsitedResult_error, reported, hplace, hreport, Violation.unsited_atSite?]

/-- A pool that finds the same without sites is asked alike. -/
theorem askPool_unsited (id : PoolId) (ask : Pool → Option Object × Pool)
    (hask : ∀ p, ask p.unsited = ((ask p).1.map Object.unsited, (ask p).2.unsited)) :
    m.unsited.askPool id ask =
      ((m.askPool id ask).1.map Object.unsited, (m.askPool id ask).2.unsited) := by
  unfold askPool
  rw [pool?_unsited]
  cases m.pool? id with
  | none => rfl
  | some p => simp only [Option.map_some, hask, setPool_unsited]

/-- The same object from outside is found. -/
theorem externalAt_unsited (a : Address) :
    m.unsited.externalAt a =
      ((m.externalAt a).1.map Object.unsited, (m.externalAt a).2.unsited) := by
  unfold externalAt
  simp only [unsited_external, Pool.objectAt_unsited]
  rfl

/-! ### Following allocations and frees -/

/-- A registration answers and leaves the same without sites. -/
theorem register_unsited (id : PoolId) (a : Address) (size : ByteCount) (kind : ObjectKind)
    (site : Option Site) :
    m.unsited.register id a size kind none =
      ((m.register id a size kind site).1.map Registration.unsited,
        (m.register id a size kind site).2.unsited) := by
  unfold register
  rw [pool?_unsited]
  cases m.pool? id with
  | none => rfl
  | some p =>
    simp only [Option.map_some, unsited_numbers,
      Pool.registerBytes_unsited p m.numbers a size kind site]
    rcases p.registerBytes m.numbers a size kind site with ⟨_ | r, p, numbers⟩
    · simp only [Option.map_none, setPool_numbers_unsited]
    · simp only [Option.map_some, setPool_numbers_unsited]
      rfl

/-- So does one of memory from outside. -/
theorem registerExternal_unsited (a : Address) (size : ByteCount) (site : Option Site) :
    m.unsited.registerExternal a size none =
      ((m.registerExternal a size site).1.map Registration.unsited,
        (m.registerExternal a size site).2.unsited) := by
  unfold registerExternal
  simp only [unsited_external, unsited_numbers,
    Pool.registerBytes_unsited m.external m.numbers a size .external site]
  rcases m.external.registerBytes m.numbers a size .external site with
    ⟨_ | r, external, numbers⟩ <;> rfl

/-- So does a free. -/
theorem free_unsited (id : PoolId) (a : Address) (site : Option Site) :
    m.unsited.free id a none =
      (unsitedResult (Option.map Object.unsited) (m.free id a site).1,
        (m.free id a site).2.unsited) := by
  unfold free
  rw [pool?_unsited]
  cases m.pool? id with
  | none => rfl
  | some p =>
    simp only [Option.map_some, unsited_numbers, Pool.free_unsited p m.numbers a site]
    rcases p.free m.numbers a site with ⟨r, p, numbers⟩
    -- a violation is given the site only here, where it is told
    simp only [setPool_numbers_unsited, reported_unsited _ _ _ site]
    rcases ({ m.setPool id p with numbers } : Monitor).reported r site with ⟨v | _ | o, m⟩ <;> rfl

/-- So does the end of a scope. -/
theorem endScope_unsited (id : PoolId) (a : Address) :
    m.unsited.endScope id a =
      ((m.endScope id a).1.map Object.unsited, (m.endScope id a).2.unsited) := by
  unfold endScope
  rw [pool?_unsited]
  cases m.pool? id with
  | none => rfl
  | some p =>
    simp only [Option.map_some, Pool.endScope_unsited]
    rcases p.endScope a with ⟨_ | o, p⟩
    · simp only [Option.map_none, setPool_unsited]
    · simp only [Option.map_some, setPool_unsited]
      rfl

/-- So does a move. -/
theorem move_unsited (id : PoolId) (new old : Address) (size : ByteCount) (kind : ObjectKind)
    (site : Option Site) :
    m.unsited.move id new old size kind none =
      (unsitedResult (Option.map Registration.unsited) (m.move id new old size kind site).1,
        (m.move id new old size kind site).2.unsited) := by
  unfold move
  rw [pool?_unsited]
  cases m.pool? id with
  | none => rfl
  | some p =>
    simp only [Option.map_some, unsited_numbers,
      Pool.move_unsited p m.numbers new old size kind site]
    rcases p.move m.numbers new old size kind site with ⟨r, p, numbers⟩
    simp only [setPool_numbers_unsited, reported_unsited _ _ _ site]
    rcases ({ m.setPool id p with numbers } : Monitor).reported r site with ⟨v | _ | r, m⟩ <;> rfl

/-- So does a call that allocates. -/
theorem allocated_unsited (id : PoolId) (c : Call) (measure : Address → Option ByteCount)
    (site : Option Site) :
    m.unsited.allocated id c measure none =
      (unsitedResult (Option.map Registration.unsited) (m.allocated id c measure site).1,
        (m.allocated id c measure site).2.unsited) := by
  unfold allocated
  rw [unsited_allocators]
  rcases m.allocators.allocating? c with _ | ⟨f, kind⟩
  · rfl
  simp only
  cases f.size? c measure with
  | none => rfl
  | some size =>
    cases f.resized? c with
    | some old => exact m.move_unsited id c.returned old size kind site
    | none =>
      simp only [m.register_unsited id c.returned size kind site]
      rfl

/-- So does one that frees. -/
theorem deallocated_unsited (id : PoolId) (c : Call) (site : Option Site) :
    m.unsited.deallocated id c none =
      (unsitedResult (Option.map Object.unsited) (m.deallocated id c site).1,
        (m.deallocated id c site).2.unsited) := by
  unfold deallocated
  rw [unsited_allocators]
  cases (m.allocators.freeing? c).bind fun f => f.freed? c with
  | none => rfl
  | some a => exact m.free_unsited id a site

/-! ### Checks -/

/-- A pool that judges the same without sites is asked alike. -/
theorem judgeIn_unsited {α : Type} (pool : PoolId) (absent : α)
    (judge : Pool → Except Violation α × Pool)
    (hjudge : ∀ p, judge p.unsited = (unsitedResult id (judge p).1, (judge p).2.unsited)) :
    m.unsited.judgeIn pool absent judge =
      (unsitedResult id (m.judgeIn pool absent judge).1,
        (m.judgeIn pool absent judge).2.unsited) := by
  unfold judgeIn
  rw [pool?_unsited]
  cases m.pool? pool with
  | none => rfl
  | some p => simp only [Option.map_some, hjudge, setPool_unsited]

/-- Whether a pool knows nothing does not depend on sites. -/
theorem missed_unsited (a : Address) (r : Except Violation Verdict) :
    missed a (unsitedResult id r) = missed a r := by
  rcases r with v | s | _ | _
  · simp [unsitedResult_error, missed, Violation.unsited]
  · rfl
  · rfl
  · rfl

/-- The objects from outside are asked alike. -/
theorem orExternal_unsited (a : Address) (r : Except Violation Verdict)
    (judge : Pool → Except Violation Verdict × Pool)
    (hjudge : ∀ p, judge p.unsited = (unsitedResult id (judge p).1, (judge p).2.unsited)) :
    m.unsited.orExternal a (unsitedResult id r) judge =
      (unsitedResult id (m.orExternal a r judge).1, (m.orExternal a r judge).2.unsited) := by
  unfold orExternal
  rw [missed_unsited]
  split
  · simp only [unsited_external, hjudge]
    rcases judge m.external with ⟨v | s | _ | _, external⟩
    · rfl
    · rfl
    · rfl
    · -- nobody knows anything, and the verdict of the pool counts
      rcases r with v | s | _ | _ <;> rfl
  · rfl

theorem countCheck_unsited : m.unsited.countCheck = m.countCheck.unsited := rfl

/-- The check of an access answers and leaves the same without sites. -/
theorem checkAccess_unsited (pool : PoolId) (a : Address) (length : ByteCount) (mode : CheckMode)
    (site : Option Site) :
    m.unsited.checkAccess pool a length mode none =
      (unsitedResult id (m.checkAccess pool a length mode site).1,
        (m.checkAccess pool a length mode site).2.unsited) := by
  unfold checkAccess
  rw [countCheck_unsited, judgeIn_unsited _ pool Verdict.unknown
    (fun p => p.checkAccess a length mode) fun p => p.checkAccess_unsited a length mode]
  simp only [orExternal_unsited _ a _
    (fun p => p.checkAccess a length { mode with provenance := .incomplete })
    fun p => p.checkAccess_unsited a length { mode with provenance := .incomplete }]
  exact reported_unsited _ id _ site

/-- So does the check of arithmetic. -/
theorem checkArithmetic_unsited (pool : PoolId) (source dest : Address) (mode : CheckMode)
    (site : Option Site) :
    m.unsited.checkArithmetic pool source dest mode none =
      (unsitedResult id (m.checkArithmetic pool source dest mode site).1,
        (m.checkArithmetic pool source dest mode site).2.unsited) := by
  unfold checkArithmetic
  rw [countCheck_unsited, judgeIn_unsited _ pool Verdict.unknown
    (fun p => p.checkArithmetic source dest mode)
    fun p => p.checkArithmetic_unsited source dest mode]
  simp only [orExternal_unsited _ source _
    (fun p => p.checkArithmetic source dest ⟨.incomplete, .read⟩)
    fun p => p.checkArithmetic_unsited source dest ⟨.incomplete, .read⟩]
  exact reported_unsited _ id _ site

/-- So does the check of an aligned pointer. -/
theorem checkAlignment_unsited (pool : PoolId) (a : Address) (elementSize : ByteCount)
    (site : Option Site) :
    m.unsited.checkAlignment pool a elementSize none =
      (unsitedResult id (m.checkAlignment pool a elementSize site).1,
        (m.checkAlignment pool a elementSize site).2.unsited) := by
  unfold checkAlignment
  rw [countCheck_unsited, judgeIn_unsited _ pool () (fun p => p.checkAlignment a elementSize)
    fun p => p.checkAlignment_unsited a elementSize]
  exact reported_unsited _ id _ site

/-- A check that brings along all it needs finds a violation without an object. -/
theorem reportedCheck_unsited {α : Type} {r : Except Violation α}
    (hr : unsitedResult id r = r) (site : Option Site) :
    m.unsited.countCheck.reported r none =
      (unsitedResult id (m.countCheck.reported r site).1,
        (m.countCheck.reported r site).2.unsited) := by
  have hreported := m.countCheck.reported_unsited id r site
  rw [hr] at hreported
  exact hreported

/-- A string is found to be the same. -/
theorem readString_unsited (memory : Address → UInt8) (a : Address) (function : String)
    (o : Option Object) :
    readString memory a function (o.map Object.unsited) =
      unsitedResult id (readString memory a function o) := by
  cases o with
  | none => rfl
  | some o =>
    simp only [Option.map_some, readString, Object.unsited_span]
    split <;> rfl

/-- It is reported alike. -/
theorem reportString_unsited (memory : Address → UInt8) (a : Address) (function : String)
    (site : Option Site) (o : Option Object) :
    m.unsited.reportString memory a function none (o.map Object.unsited) =
      (unsitedResult id (m.reportString memory a function site o).1,
        (m.reportString memory a function site o).2.unsited) := by
  cases o with
  | none => rfl
  | some o =>
    -- how far to read is said by the span of the object, and nothing else of it is used
    have hread := readString_unsited memory a function (some o)
    simp only [Option.map_some] at hread
    simp only [Option.map_some, reportString, hread]
    exact m.reported_unsited id _ site

/-- So the check of a string answers and leaves the same. -/
theorem checkString_unsited (memory : Address → UInt8) (pool : PoolId) (a : Address)
    (function : String) (site : Option Site) :
    m.unsited.checkString memory pool a function none =
      (unsitedResult id (m.checkString memory pool a function site).1,
        (m.checkString memory pool a function site).2.unsited) := by
  by_cases ha : a = 0
  · -- nothing is read at the null address
    simp only [checkString, if_pos ha]
    rfl
  rw [checkString_eq _ _ memory ha, checkString_eq _ _ memory ha, countCheck_unsited,
    askPool_unsited _ _ (fun p => p.objectAt a) fun p => p.objectAt_unsited a]
  rcases m.countCheck.askPool pool fun p => p.objectAt a with ⟨_ | o, m⟩
  · simp only [Option.map_none, externalAt_unsited]
    exact reportString_unsited _ memory a function site _
  · exact m.reportString_unsited memory a function site (some o)

/-! ### Second views of memory -/

/-- Memory is mapped a second time alike. -/
theorem shadow_unsited {σ : Type} (remap : Page.Request → σ → Except Errno Address × σ) (os : σ)
    (a : Address) (length : ByteCount) :
    m.unsited.shadow remap os a length =
      ((m.shadow remap os a length).1, (m.shadow remap os a length).2.1.unsited,
        (m.shadow remap os a length).2.2) := by
  simp only [Monitor.shadow, unsited_pageSize]
  split
  · rfl
  · split
    · rfl
    · split <;> rfl

/-- A view is revoked alike. -/
theorem unshadow_unsited (protect : Page.Request → Except Errno Unit) (a : Address) :
    m.unsited.unshadow protect a =
      ((m.unshadow protect a).1, (m.unshadow protect a).2.unsited) := by
  simp only [Monitor.unshadow, unsited_shadows, unsited_pageSize]
  split
  · rfl
  · split
    · rfl
    · split <;> rfl

/-! ### All operations -/

/-- An operation without its site does to a monitor without sites what the operation does to the
monitor, and answers the same without sites. -/
theorem perform_unsited (c : Command) :
    m.unsited.perform c.unsited = ((m.perform c).1.unsited, (m.perform c).2.unsited) := by
  cases c with
  | createPool =>
    simp only [perform, Command.unsited, createPool_unsited]
    rfl
  | destroyPool pool =>
    simp only [perform, Command.unsited, destroyPool_unsited]
    rfl
  | poolCount =>
    simp only [perform, Command.unsited, unsited, List.length_map]
    rfl
  | poolStats pool =>
    simp only [perform, Command.unsited, pool?_unsited, Option.map_map]
    rfl
  | objects pool =>
    simp only [perform, Command.unsited, pool?_unsited, Option.map_map, Answer.unsited]
    refine Prod.ext (congrArg Answer.objects ?_) rfl
    exact Option.map_congr fun p _ => p.objects_unsited
  | objectAt pool a =>
    simp only [perform, Command.unsited,
      m.askPool_unsited pool (fun p => p.objectAt a) fun p => p.objectAt_unsited a]
    rfl
  | retainedAt pool a =>
    simp only [perform, Command.unsited,
      m.askPool_unsited pool (fun p => p.findRetained a) fun p => p.findRetained_unsited a]
    rfl
  | register pool a size kind site =>
    simp only [perform, Command.unsited, m.register_unsited pool a size kind site]
    rfl
  | registerExternal a size site =>
    simp only [perform, Command.unsited, m.registerExternal_unsited a size site]
    rfl
  | externalAt a =>
    simp only [perform, Command.unsited, externalAt_unsited]
    rfl
  | free pool a site =>
    simp only [perform, Command.unsited, m.free_unsited pool a site]
    rfl
  | endScope pool a =>
    simp only [perform, Command.unsited, endScope_unsited]
    rfl
  | move pool new old size site =>
    simp only [perform, Command.unsited, m.move_unsited pool new old size .heap site]
    rfl
  | checkAccess pool a length mode site =>
    simp only [perform, Command.unsited, m.checkAccess_unsited pool a length mode site]
    rfl
  | checkArithmetic pool source dest mode site =>
    simp only [perform, Command.unsited, m.checkArithmetic_unsited pool source dest mode site]
    rfl
  | checkAlignment pool a elementSize site =>
    simp only [perform, Command.unsited, m.checkAlignment_unsited pool a elementSize site]
    rfl
  | checkDerived base pointer size site =>
    simp only [perform, Command.unsited, checkDerived,
      m.reportedCheck_unsited (DirectCheck.address_unsited base pointer size) site]
    rfl
  | checkDerivedAccess base pointer size length site =>
    simp only [perform, Command.unsited, checkDerivedAccess,
      m.reportedCheck_unsited (DirectCheck.access_unsited base pointer size length) site]
    rfl
  | checkCallTarget target targets provenance site =>
    cases provenance with
    | incomplete => rfl
    | complete =>
      simp only [perform, Command.unsited, checkCallTarget,
        m.reportedCheck_unsited (DirectCheck.callTarget_unsited target targets) site]
      rfl
  | checkString memory pool a function site =>
    simp only [perform, Command.unsited, m.checkString_unsited memory pool a function site]
    rfl
  | announce f => rfl
  | allocated pool c measure site =>
    simp only [perform, Command.unsited, m.allocated_unsited pool c measure site]
    rfl
  | deallocated pool c site =>
    simp only [perform, Command.unsited, m.deallocated_unsited pool c site]
    rfl
  | shadow remap a length =>
    simp only [perform, Command.unsited, shadow_unsited]
    rfl
  | unshadow protect a =>
    simp only [perform, Command.unsited, unshadow_unsited]
    rfl
  | canonicalOf a => rfl
  | report v =>
    simp only [perform, Command.unsited, report_unsited]
    rfl
  | counters => rfl

/-- A run without sites does to a monitor without sites what the run does to the monitor. -/
theorem performAll_unsited (cs : List Command) :
    m.unsited.performAll (cs.map Command.unsited) =
      ((m.performAll cs).1.map Answer.unsited, (m.performAll cs).2.unsited) := by
  induction cs generalizing m with
  | nil => rfl
  | cons c rest ih =>
    simp only [List.map_cons, performAll, perform_unsited, ih]

end

end Monitor

end MemorySentry
