import MemorySentry.Proofs.Monitor.Verdicts
import MemorySentry.Proofs.Pool.Turnover
import Mathlib.Algebra.BigOperators.Group.Finset.Basic

/-!
# Objects and the numbers of registrations

A monitor counts registrations and frees, but a move counts only as the registration of the new
object, not as the end of the old one. So the objects that are tracked, the frees and the objects
that moves took away together make up the registrations (`performAll_tracked`), as long as no
registration gets in the way of a live object and no pool is destroyed (`Undisturbed`).
-/

namespace MemorySentry.Monitor

/-! ### Objects that come and go -/

/-- The pool that an operation works on, which may be that of the objects from outside, and what it
asks of it. -/
def target? (m : Monitor) : Command → Option (Pool × Pool.Command)
  | .registerExternal a size site => some (m.external, .registerBytes a size .external site)
  | c => (c.inPool m.allocators).bind fun e => (m.pool? e.1).map fun p => (p, e.2)

/-- The objects that come and go with an operation on a pool, if there is such a pool. -/
def turnoverOf (numbers : Numbering) (target : Option (Pool × Pool.Command)) : Turnover :=
  target.elim {} fun e => e.2.turnover (e.1.perform numbers e.2).1

/-- The objects that come and go with an operation. -/
def turnover (m : Monitor) (c : Command) : Turnover :=
  turnoverOf m.numbers (m.target? c)

/-- The number of live objects of a pool. -/
def liveIn (m : Monitor) (id : PoolId) : Nat :=
  (m.pool? id).elim 0 fun p => p.objects.length

/-- The number of objects that are tracked: the live ones of all pools, whose numbers are below the
next one, and those from outside. -/
def tracked (m : Monitor) : Nat :=
  ∑ id ∈ Finset.range m.nextPool, m.liveIn id + m.external.objects.length

/-- How many registrations and how many frees have been counted. -/
structure Tally where
  registrations : Nat
  unregistrations : Nat

/-- What has been counted so far. -/
def tally (m : Monitor) : Tally :=
  ⟨m.counters.registrations, m.counters.unregistrations⟩

/-- What has been counted after objects have come and gone. What a move takes away is not
counted. -/
def Tally.after (t : Tally) (turnover : Turnover) : Tally where
  registrations := t.registrations + turnover.brought
  unregistrations := t.unregistrations + turnover.taken

/-! ### What is counted -/

section

variable (m : Monitor) (id : PoolId)

/-- To report a violation does not change the tally. -/
theorem tally_report (v : Violation) : (m.report v).2.tally = m.tally := by
  unfold report tally count
  by_cases hv : v.isWarning = true <;> simp [hv]

/-- Nor does it to report what a result has of one. -/
theorem tally_reported {α : Type} (r : Except Violation α) (site : Option Site) :
    (m.reported r site).2.tally = m.tally := by
  cases r with
  | ok a => rfl
  | error v => exact m.tally_report (v.atSite? site)

/-- Nor does it to have a pool judge. -/
theorem tally_judgeIn {α : Type} (absent : α) (judge : Pool → Except Violation α × Pool) :
    (m.judgeIn id absent judge).2.tally = m.tally := by
  unfold judgeIn
  cases m.pool? id <;> rfl

/-- Nor does it to ask one. -/
theorem tally_askPool {α : Type} (ask : Pool → Option α × Pool) :
    (m.askPool id ask).2.tally = m.tally := by
  unfold askPool
  cases m.pool? id <;> rfl

/-- Nor does it to ask the objects from outside. -/
theorem tally_orExternal (a : Address) (r : Except Violation Verdict)
    (judge : Pool → Except Violation Verdict × Pool) :
    (m.orExternal a r judge).2.tally = m.tally := by
  simp only [tally, counters_orExternal]

/-- Nor does it to read a string. -/
theorem tally_reportString (memory : Address → UInt8) (a : Address) (function : String)
    (site : Option Site) (o : Option Object) :
    (m.reportString memory a function site o).2.tally = m.tally := by
  cases o with
  | none => rfl
  | some o => exact m.tally_reported _ site

/-- Nor does any check of a string. -/
theorem tally_checkString (memory : Address → UInt8) (a : Address) (function : String)
    (site : Option Site) : (m.checkString memory id a function site).2.tally = m.tally := by
  by_cases ha : a = 0
  · simp only [checkString, if_pos ha]
    rfl
  rw [m.checkString_eq id memory ha]
  have hasked : (m.countCheck.askPool id fun p => p.objectAt a).2.tally = m.tally :=
    m.countCheck.tally_askPool id fun p => p.objectAt a
  rcases heq : m.countCheck.askPool id fun p => p.objectAt a with ⟨_ | o, m'⟩ <;>
    rw [heq] at hasked
  · rw [← hasked]
    exact (m'.externalAt a).2.tally_reportString memory a function site _
  · rw [← hasked]
    exact m'.tally_reportString memory a function site _

/-- A registration tallies what turns over in its pool. -/
theorem tally_register (a : Address) (size : ByteCount) (kind : ObjectKind) (site : Option Site) :
    (m.register id a size kind site).2.tally = m.tally.after
      (turnoverOf m.numbers ((m.pool? id).map fun p => (p, .registerBytes a size kind site))) := by
  unfold register
  cases m.pool? id with
  | none => rfl
  | some p =>
    simp only [turnoverOf, Option.map_some, Option.elim_some, Pool.perform]
    rcases p.registerBytes m.numbers a size kind site with ⟨_ | r, p', numbers⟩ <;> rfl

/-- One of memory from outside tallies what turns over there. -/
theorem tally_registerExternal (a : Address) (size : ByteCount) (site : Option Site) :
    (m.registerExternal a size site).2.tally = m.tally.after
      (turnoverOf m.numbers (some (m.external, .registerBytes a size .external site))) := by
  unfold registerExternal
  simp only [turnoverOf, Option.elim_some, Pool.perform]
  rcases m.external.registerBytes m.numbers a size .external site with ⟨_ | r, p', numbers⟩ <;> rfl

/-- A free tallies what turns over in its pool. -/
theorem tally_free (a : Address) (site : Option Site) :
    (m.free id a site).2.tally = m.tally.after
      (turnoverOf m.numbers ((m.pool? id).map fun p => (p, .free a site))) := by
  unfold free
  cases m.pool? id with
  | none => rfl
  | some p =>
    simp only [turnoverOf, Option.map_some, Option.elim_some, Pool.perform]
    rcases p.free m.numbers a site with ⟨v | _ | o, p', numbers⟩
    · exact tally_reported _ (.error v) site
    · rfl
    · rfl

/-- So does the end of a scope. -/
theorem tally_endScope (a : Address) :
    (m.endScope id a).2.tally = m.tally.after
      (turnoverOf m.numbers ((m.pool? id).map fun p => (p, .endScope a))) := by
  unfold endScope
  cases m.pool? id with
  | none => rfl
  | some p =>
    simp only [turnoverOf, Option.map_some, Option.elim_some, Pool.perform]
    rcases p.endScope a with ⟨_ | o, p'⟩ <;> rfl

/-- A move is counted as the registration of the new object, and the old object is not counted. -/
theorem tally_move (new old : Address) (size : ByteCount) (kind : ObjectKind) (site : Option Site) :
    (m.move id new old size kind site).2.tally = m.tally.after
      (turnoverOf m.numbers ((m.pool? id).map fun p => (p, .move new old size kind site))) := by
  unfold move
  cases m.pool? id with
  | none => rfl
  | some p =>
    simp only [turnoverOf, Option.map_some, Option.elim_some, Pool.perform]
    rcases p.move m.numbers new old size kind site with ⟨v | _ | r, p', numbers⟩
    · exact tally_reported _ (.error v) site
    · rfl
    · rfl

/-- So does a call that allocates. -/
theorem tally_allocated (c : Call) (measure : Address → Option ByteCount) (site : Option Site) :
    (m.allocated id c measure site).2.tally =
      m.tally.after (m.turnover (.allocated id c measure site)) := by
  simp only [allocated, turnover, target?, Command.inPool, allocation?]
  cases m.allocators.allocating? c with
  | none => rfl
  | some e =>
    obtain ⟨f, kind⟩ := e
    simp only
    cases f.size? c measure with
    | none => rfl
    | some size =>
      cases f.resized? c with
      | some old => exact m.tally_move id c.returned old size kind site
      | none => exact m.tally_register id c.returned size kind site

/-- So does one that frees. -/
theorem tally_deallocated (c : Call) (site : Option Site) :
    (m.deallocated id c site).2.tally = m.tally.after (m.turnover (.deallocated id c site)) := by
  simp only [deallocated, turnover, target?, Command.inPool]
  cases (m.allocators.freeing? c).bind fun f => f.freed? c with
  | none => rfl
  | some a => exact m.tally_free id a site

end

/-- Nothing comes or goes where a pool is only asked. -/
theorem turnover_of_isReading {m : Monitor} {c : Command} (id : PoolId) {pc : Pool.Command}
    (htarget : m.target? c = (m.pool? id).map fun p => (p, pc)) (hreading : pc.isReading = true) :
    m.turnover c = {} := by
  rw [turnover, htarget]
  cases m.pool? id with
  | none => rfl
  | some p =>
    cases pc with
    | checkAccess | checkAlignment | checkArithmetic | objectAt | retainedAt | objects | stats =>
      rfl
    | register | registerBytes | free | endScope | move | reset => cases hreading

/-- Registrations and frees are counted as objects come and go, apart from the objects that moves
take away. -/
theorem perform_tally (m : Monitor) (c : Command) :
    (m.perform c).2.tally = m.tally.after (m.turnover c) := by
  cases c with
  | createPool | poolCount | externalAt | announce | canonicalOf | counters => rfl
  | destroyPool id =>
    simp only [perform, destroyPool]
    cases m.pool? id <;> rfl
  | poolStats id | objects id =>
    -- such a question, like any check, leaves the objects as they are
    rw [turnover_of_isReading id rfl rfl]
    rfl
  | objectAt id a =>
    rw [turnover_of_isReading id rfl rfl]
    exact m.tally_askPool id fun p => p.objectAt a
  | retainedAt id a =>
    rw [turnover_of_isReading id rfl rfl]
    exact m.tally_askPool id fun p => p.findRetained a
  | register id a size kind site => exact m.tally_register id a size kind site
  | registerExternal a size site => exact m.tally_registerExternal a size site
  | endScope id a => exact m.tally_endScope id a
  | free id a site => exact m.tally_free id a site
  | move id new old size site => exact m.tally_move id new old size .heap site
  | checkAccess id a length mode site =>
    rw [turnover_of_isReading id rfl rfl]
    simp only [perform, checkAccess, tally_reported, tally_orExternal, tally_judgeIn]
    rfl
  | checkArithmetic id source dest mode site =>
    rw [turnover_of_isReading id rfl rfl]
    simp only [perform, checkArithmetic, tally_reported, tally_orExternal, tally_judgeIn]
    rfl
  | checkAlignment id a elementSize site =>
    rw [turnover_of_isReading id rfl rfl]
    simp only [perform, checkAlignment, tally_reported, tally_judgeIn]
    rfl
  | checkDerived base pointer size site => exact m.countCheck.tally_reported _ site
  | checkDerivedAccess base pointer size length site => exact m.countCheck.tally_reported _ site
  | checkCallTarget target targets provenance site =>
    cases provenance with
    | incomplete => rfl
    | complete => exact m.countCheck.tally_reported _ site
  | checkString memory id a function site =>
    have hnothing : m.turnover (.checkString memory id a function site) = {} := by
      by_cases ha : a = 0
      · simp only [turnover, target?, Command.inPool, if_pos ha]
        rfl
      · have htarget : m.target? (.checkString memory id a function site) =
            (m.pool? id).map fun p => (p, .objectAt a) := by
          simp only [target?, Command.inPool, if_neg ha]
          rfl
        exact turnover_of_isReading id htarget rfl
    rw [hnothing]
    exact m.tally_checkString id memory a function site
  | allocated id c measure site => exact m.tally_allocated id c measure site
  | deallocated id c site => exact m.tally_deallocated id c site
  | shadow remap a length =>
    simp only [perform, Monitor.shadow]
    split
    · rfl
    · split
      · rfl
      · split <;> rfl
  | unshadow protect a =>
    simp only [perform, Monitor.unshadow]
    split
    · rfl
    · split
      · rfl
      · split <;> rfl
  | report v => exact m.tally_report v

/-! ### What is tracked -/

section

variable {m m' : Monitor} {id : PoolId}

/-- A pool has as many live objects as it lists. -/
theorem liveIn_of_some {p : Pool} (hp : m.pool? id = some p) : m.liveIn id = p.objects.length := by
  rw [liveIn, hp]
  rfl

/-- What is tracked depends on what is in the pools and what has come from outside. -/
theorem Tracks.tracked (h : Tracks m m') (hm : m.WellFormed) : m'.tracked = m.tracked := by
  obtain ⟨q, hq, -⟩ := hm.external
  have hpools : ∀ id, m'.liveIn id = m.liveIn id := fun id => by rw [liveIn, liveIn, h.pools]
  rw [Monitor.tracked, Monitor.tracked, h.nextPool, (h.external q hq).objects, hq.objects]
  simp only [hpools]

/-- A new pool has no objects. -/
theorem tracked_createPool (hm : m.Numbered) : m.createPool.2.tracked = m.tracked := by
  have hnew : m.createPool.2.liveIn m.nextPool = 0 := by
    rw [liveIn, pool?_createPool hm, if_pos rfl]
    rfl
  have hold : ∀ id ∈ Finset.range m.nextPool, m.createPool.2.liveIn id = m.liveIn id := by
    intro id hid
    rw [liveIn, liveIn, pool?_createPool hm, if_neg (Finset.mem_range.mp hid).ne]
  have hnext : m.createPool.2.nextPool = m.nextPool + 1 := rfl
  have hexternal : m.createPool.2.external = m.external := rfl
  rw [tracked, tracked, hnext, hexternal, Finset.sum_range_succ, hnew, Finset.sum_congr rfl hold,
    Nat.add_zero]

/-- Of all pools an operation changes the one that it is asked of. -/
theorem tracked_onPool (pc : Pool.Command) (hm : m.Numbered) {p : Pool} (hp : m.pool? id = some p) :
    (m.onPool id pc).tracked + p.objects.length =
      m.tracked + (p.perform m.numbers pc).2.1.objects.length := by
  have hsame := m.sameApartFromPools_onPool id pc
  have hat : (m.onPool id pc).liveIn id = (p.perform m.numbers pc).2.1.objects.length := by
    rw [liveIn, pool?_onPool, if_pos rfl, hp]
    rfl
  have hothers : ∑ i ∈ (Finset.range m.nextPool).erase id, (m.onPool id pc).liveIn i =
      ∑ i ∈ (Finset.range m.nextPool).erase id, m.liveIn i := by
    refine Finset.sum_congr rfl fun i hi => ?_
    rw [liveIn, liveIn, pool?_onPool, if_neg (Finset.ne_of_mem_erase hi)]
  -- the sum is split at the pool that changes
  have hsplit (f : PoolId → Nat) : ∑ i ∈ Finset.range m.nextPool, f i =
      f id + ∑ i ∈ (Finset.range m.nextPool).erase id, f i :=
    (Finset.add_sum_erase _ f (Finset.mem_range.mpr (hm id p hp))).symm
  rw [tracked, tracked, hsame.nextPool, hsame.external, hsplit, hsplit, hat, hothers,
    liveIn_of_some hp]
  omega

/-- Registering memory from outside changes the number of tracked objects by what changes there. -/
theorem tracked_registerExternal (a : Address) (size : ByteCount) (site : Option Site) :
    (m.registerExternal a size site).2.tracked + m.external.objects.length =
      m.tracked +
        (m.external.registerBytes m.numbers a size .external site).2.1.objects.length := by
  obtain ⟨numbers, counters, heq⟩ := m.registerExternal_eq a size site
  rw [heq]
  exact Nat.add_right_comm ..

end

/-- The number that an operation destroys a pool by. -/
def Command.destroyed? : Command → Option PoolId
  | .destroyPool id => some id
  | _ => none

/-- What an operation registers gets in the way of no live object of the same pool, except the one
that it moves, and it destroys no pool. -/
structure Undisturbed (m : Monitor) (c : Command) : Prop where
  fits : ∀ e ∈ m.target? c, e.2.Fits (e.1.perform m.numbers e.2).1 e.1.objects
  keeps : ∀ id ∈ c.destroyed?, m.pool? id = none

instance (m : Monitor) (c : Command) : Decidable (m.Undisturbed c) :=
  decidable_of_iff
    ((∀ e ∈ m.target? c, e.2.Fits (e.1.perform m.numbers e.2).1 e.1.objects) ∧
      ∀ id ∈ c.destroyed?, m.pool? id = none)
    ⟨fun h => ⟨h.1, h.2⟩, fun h => ⟨h.fits, h.keeps⟩⟩

/-- No operation asks a pool to forget all of its objects. -/
theorem Command.ne_reset_of_inPool {allocators : AllocatorTable} {c : Command} {id : PoolId}
    {pc : Pool.Command} (h : c.inPool allocators = some (id, pc)) : pc ≠ .reset := by
  cases c with
  | checkString memory id' a function site =>
    simp only [inPool] at h
    split at h <;> cases h
    rintro ⟨⟩
  | allocated id' c measure site =>
    obtain ⟨pc', hpc, heq⟩ := Option.map_eq_some_iff.mp h
    cases heq
    unfold allocation? at hpc
    split at hpc
    · cases hpc
    · obtain ⟨size, -, rfl⟩ := Option.map_eq_some_iff.mp hpc
      split <;> rintro ⟨⟩
  | deallocated id' c site =>
    obtain ⟨a, -, heq⟩ := Option.map_eq_some_iff.mp h
    cases heq
    rintro ⟨⟩
  | poolStats | objects | objectAt | retainedAt | register | free | endScope | move | checkAccess
  | checkArithmetic | checkAlignment =>
    cases h
    rintro ⟨⟩
  | createPool | destroyPool | poolCount | registerExternal | externalAt | checkDerived
  | checkDerivedAccess | checkCallTarget | announce | shadow | unshadow | canonicalOf | report
  | counters => cases h

/-- Only objects from outside are registered in no pool of the monitor. -/
theorem target?_of_inPool {m : Monitor} {c : Command} (hs : c.isStructural = false) :
    m.target? c = (c.inPool m.allocators).bind fun e => (m.pool? e.1).map fun p => (p, e.2) := by
  cases c with
  | registerExternal a size site => cases hs
  | _ => rfl

/-- What an undisturbed operation asks of a pool brings and takes away as many objects as the answer
tells. -/
theorem Undisturbed.length_objects {m : Monitor} {c : Command} (hc : m.Undisturbed c) {p : Pool}
    {pc : Pool.Command} (htarget : m.target? c = some (p, pc)) (hp : ∃ q, p.Refines q)
    (hreset : pc ≠ .reset) :
    (p.perform m.numbers pc).2.1.objects.length + (m.turnover c).taken + (m.turnover c).moved =
      p.objects.length + (m.turnover c).brought := by
  obtain ⟨q, hq⟩ := hp
  rw [turnover, htarget]
  exact hq.length_objects hreset (hc.fits _ htarget)

/-- The number of all tracked objects changes with the objects of the pool that is asked. -/
theorem tracked_afterPool {m : Monitor} (hm : m.WellFormed) {c : Command}
    (hs : c.isStructural = false) (hc : m.Undisturbed c) :
    (m.afterPool c).tracked + (m.turnover c).taken + (m.turnover c).moved =
      m.tracked + (m.turnover c).brought := by
  unfold afterPool
  cases hin : c.inPool m.allocators with
  | none =>
    -- no pool is asked
    have htarget : m.target? c = none := by rw [target?_of_inPool hs, hin, Option.bind_none]
    rw [turnover, htarget]
    rfl
  | some e =>
    obtain ⟨id, pc⟩ := e
    have htarget : m.target? c = (m.pool? id).map fun p => (p, pc) := by
      rw [target?_of_inPool hs, hin, Option.bind_some]
    show (m.onPool id pc).tracked + _ + _ = _
    cases hp : m.pool? id with
    | none =>
      have hsame : m.onPool id pc = m := by unfold onPool; rw [hp]
      rw [turnover, htarget, hp, hsame]
      rfl
    | some p =>
      rw [hp] at htarget
      have hlength :=
        hc.length_objects htarget (hm.pools id p hp) (Command.ne_reset_of_inPool hin)
      have hchanged := tracked_onPool pc hm.numbered hp
      omega

/-- An undisturbed operation brings and takes away as many objects as its answer tells. -/
theorem perform_tracked {m : Monitor} (hm : m.WellFormed) {c : Command} (hc : m.Undisturbed c) :
    (m.perform c).2.tracked + (m.turnover c).taken + (m.turnover c).moved =
      m.tracked + (m.turnover c).brought := by
  cases hs : c.isStructural with
  | true =>
    cases c with
    | createPool => exact tracked_createPool hm.numbered
    | destroyPool id =>
      have hkept : (m.destroyPool id).2 = m := by rw [destroyPool, hc.keeps id rfl]
      show (m.destroyPool id).2.tracked = m.tracked
      rw [hkept]
    | registerExternal a size site =>
      have houtside : ∃ q, m.external.Refines q := hm.external.imp fun _ => And.left
      have hlength := hc.length_objects rfl houtside (by rintro ⟨⟩)
      have hchanged : (m.perform (.registerExternal a size site)).2.tracked +
          m.external.objects.length = m.tracked + (m.external.perform m.numbers
            (.registerBytes a size .external site)).2.1.objects.length :=
        m.tracked_registerExternal a size site
      omega
    | announce f => rfl
    | _ => cases hs
  | false =>
    -- apart from the pool that is asked, what is tracked stays the same
    rw [(m.perform_tracks hs).tracked (hm.afterPool c)]
    exact tracked_afterPool hm hs hc

/-! ### Runs -/

/-- No operation of a run disturbs an object. -/
def RunsUndisturbed (m : Monitor) : List Command → Prop
  | [] => True
  | c :: rest => m.Undisturbed c ∧ RunsUndisturbed (m.perform c).2 rest

/-- The number of objects that the moves of a run take away. -/
def takenByMoves (m : Monitor) : List Command → Nat
  | [] => 0
  | c :: rest => (m.turnover c).moved + takenByMoves (m.perform c).2 rest

instance decidableRunsUndisturbed : (m : Monitor) → (cs : List Command) →
    Decidable (m.RunsUndisturbed cs)
  | _, [] => inferInstanceAs (Decidable True)
  | m, c :: rest =>
    have := decidableRunsUndisturbed (m.perform c).2 rest
    inferInstanceAs (Decidable (m.Undisturbed c ∧ (m.perform c).2.RunsUndisturbed rest))

/-- Over a run, the objects that are tracked change by what has been counted and by what moves have
taken away. -/
theorem performAll_tracked {m : Monitor} (hm : m.WellFormed) {cs : List Command}
    (hcs : m.RunsUndisturbed cs) :
    (m.performAll cs).2.tracked + (m.performAll cs).2.tally.unregistrations + m.takenByMoves cs +
        m.tally.registrations =
      m.tracked + m.tally.unregistrations + (m.performAll cs).2.tally.registrations := by
  induction cs generalizing m with
  | nil => rfl
  | cons c rest ih =>
    -- what the first operation changes is counted, or taken away by it
    have hrest := ih (hm.perform c) hcs.2
    have hchanged := perform_tracked hm hcs.1
    rw [perform_tally] at hrest
    simp only [Tally.after] at hrest
    show ((m.perform c).2.performAll rest).2.tracked +
      ((m.perform c).2.performAll rest).2.tally.unregistrations +
      ((m.turnover c).moved + (m.perform c).2.takenByMoves rest) + m.tally.registrations =
        m.tracked + m.tally.unregistrations +
          ((m.perform c).2.performAll rest).2.tally.registrations
    omega

/-- After every run that disturbs no object, the objects that are tracked, the frees that have been
counted and the objects that moves have taken away are together as many as the registrations that
have been counted. -/
theorem tracked_of_undisturbed (settings : Settings) (sink : Sink) (page : UInt64)
    {cs : List Command} (hcs : (start settings sink page).RunsUndisturbed cs) :
    let m := ((start settings sink page).performAll cs).2
    m.tracked + m.counters.unregistrations + (start settings sink page).takenByMoves cs =
      m.counters.registrations := by
  have h := performAll_tracked (wellFormed_start settings sink page) hcs
  have hnone : (start settings sink page).tracked = 0 := rfl
  have hzero : (start settings sink page).tally = ⟨0, 0⟩ := rfl
  rw [hnone, hzero] at h
  simpa [tally] using h

/-- An object is registered, moved and then given up by a resize to no bytes. -/
def resizes : List Command :=
  [.createPool, .register 1 4096 64 .heap none, .move 1 8192 4096 128 none, .move 1 0 8192 0 none]

/-- Two moves take two objects away, and no frees are counted. -/
theorem tracked_of_undisturbed_resizes :
    let m := ((start {} (.buffer 0) 4096).performAll resizes).2
    m.tracked + m.counters.unregistrations + 2 = m.counters.registrations := by
  have hundisturbed : (start {} (.buffer 0) 4096).RunsUndisturbed resizes := by decide +kernel
  have htwo : (start {} (.buffer 0) 4096).takenByMoves resizes = 2 := by decide +kernel
  have htracked := tracked_of_undisturbed {} (.buffer 0) 4096 hundisturbed
  rw [htwo] at htracked
  exact htracked

/-- An object that is given up by a resize to no bytes is gone, but neither a free nor anything else
has been counted for it: the registrations are more than the frees and the objects together. -/
theorem tracked_without_count :
    let cs : List Command := [.createPool, .register 1 4096 64 .heap none, .move 1 0 4096 0 none]
    let m := ((start {} (.buffer 0) 4096).performAll cs).2
    (start {} (.buffer 0) 4096).RunsUndisturbed cs ∧
      m.tracked = 0 ∧ m.counters.registrations = 1 ∧ m.counters.unregistrations = 0 ∧
      m.tracked + m.counters.unregistrations ≠ m.counters.registrations := by
  decide +kernel

end MemorySentry.Monitor
