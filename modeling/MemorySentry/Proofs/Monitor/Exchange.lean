import MemorySentry.Proofs.Monitor.Operations

/-!
# Operations on other pools

An operation that does not name a pool neither sees nor changes it: with any other pool in its
place, the operation answers the same and leaves the same monitor, again with that pool in its place
(`perform_ignores`). Nor does it make pools come or go, unless it creates or destroys one
(`perform_keepsPools`).
-/

namespace MemorySentry.Monitor

/-- An operation does not depend on what is in the place of a pool, and leaves it there. -/
def Ignores (id : PoolId) (q : Pool) {α : Type} (f : Monitor → α × Monitor) : Prop :=
  ∀ m, f (m.setPool id q) = ((f m).1, (f m).2.setPool id q)

section

variable {id id' : PoolId} {q : Pool} {α β : Type}

/-- What ignores a pool twice ignores it in all. -/
theorem Ignores.bind {f : Monitor → α × Monitor} {g : α → Monitor → β × Monitor}
    (hf : Ignores id q f) (hg : ∀ a, Ignores id q (g a)) :
    Ignores id q fun m => g (f m).1 (f m).2 := by
  intro m
  simp only [hf m]
  exact hg (f m).1 (f m).2

/-- What is done with an answer does not look at the pool. -/
theorem Ignores.map {f : Monitor → α × Monitor} (hf : Ignores id q f) (k : α → β) :
    Ignores id q fun m => (k (f m).1, (f m).2) :=
  hf.bind fun a m => show (k a, m.setPool id q) = (k a, m.setPool id q) from rfl

/-! ### Pools beside each other -/

/-- Other pools stay when one is replaced. -/
theorem pool?_setPool_of_ne (h : id' ≠ id) (m : Monitor) :
    (m.setPool id q).pool? id' = m.pool? id' := by
  rw [pool?_setPool, if_neg h]

/-- Two pools are replaced in either order. -/
theorem setPool_comm (h : id' ≠ id) (m : Monitor) (p : Pool) :
    (m.setPool id q).setPool id' p = (m.setPool id' p).setPool id q := by
  -- one entry after another: no entry has both numbers
  have hentry : ∀ e : PoolId × Pool,
      (if (if e.1 = id then (id, q) else e).1 = id' then (id', p)
        else if e.1 = id then (id, q) else e) =
      if (if e.1 = id' then (id', p) else e).1 = id then (id, q)
        else if e.1 = id' then (id', p) else e := by
    intro e
    by_cases hid : e.1 = id
    · simp [hid, h.symm]
    · by_cases hid' : e.1 = id'
      · simp [hid', h]
      · simp [hid, hid']
  simp only [setPool, List.map_map]
  exact congrArg (fun pools => { m with pools }) (List.map_congr_left fun e _ => hentry e)

/-- To ask one pool ignores the others. -/
theorem ignores_askPool (h : id' ≠ id) (ask : Pool → Option α × Pool) :
    Ignores id q fun m => m.askPool id' ask := by
  intro m
  simp only [askPool, pool?_setPool_of_ne h]
  cases m.pool? id' with
  | none => rfl
  | some p => simp only [setPool_comm h]

/-- So does it to have one judge. -/
theorem ignores_judgeIn (h : id' ≠ id) (absent : α) (judge : Pool → Except Violation α × Pool) :
    Ignores id q fun m => m.judgeIn id' absent judge := by
  intro m
  simp only [judgeIn, pool?_setPool_of_ne h]
  cases m.pool? id' with
  | none => rfl
  | some p => simp only [setPool_comm h]

/-! ### Reports and objects from outside -/

/-- To report what was found ignores every pool. -/
theorem ignores_reported (r : Except Violation α) (site : Option Site) :
    Ignores id q fun m => m.reported r site := by
  intro m
  cases r <;> rfl

/-- So does it to ask the objects from outside. -/
theorem ignores_orExternal (a : Address) (r : Except Violation Verdict)
    (judge : Pool → Except Violation Verdict × Pool) :
    Ignores id q fun m => m.orExternal a r judge := by
  intro m
  have hexternal : (m.setPool id q).external = m.external := rfl
  simp only [orExternal, hexternal]
  -- only if the pool knows nothing are the objects from outside asked
  cases missed a r with
  | false => rfl
  | true =>
    rcases judge m.external with ⟨v | s | _ | _, external⟩
    · rfl
    · rfl
    · rfl
    · rcases r with v | s | _ | _ <;> rfl

/-- So does it to register memory from outside. -/
theorem ignores_registerExternal (a : Address) (size : ByteCount) (site : Option Site) :
    Ignores id q fun m => m.registerExternal a size site := by
  intro m
  have hexternal : (m.setPool id q).external = m.external := rfl
  have hnumbers : (m.setPool id q).numbers = m.numbers := rfl
  simp only [registerExternal, hexternal, hnumbers]
  rcases m.external.registerBytes m.numbers a size .external site with ⟨_ | r, external, numbers⟩
  · rfl
  · rfl

/-! ### Allocations and frees -/

/-- A registration in one pool ignores the others. -/
theorem ignores_register (h : id' ≠ id) (a : Address) (size : ByteCount) (kind : ObjectKind)
    (site : Option Site) : Ignores id q fun m => m.register id' a size kind site := by
  intro m
  have hnumbers : (m.setPool id q).numbers = m.numbers := rfl
  simp only [register, pool?_setPool_of_ne h, hnumbers]
  cases m.pool? id' with
  | none => rfl
  | some p =>
    simp only
    rcases p.registerBytes m.numbers a size kind site with ⟨_ | r, p', numbers⟩
    · simp only [setPool_comm h]
      rfl
    · simp only [setPool_comm h]
      rfl

/-- So does a free. -/
theorem ignores_free (h : id' ≠ id) (a : Address) (site : Option Site) :
    Ignores id q fun m => m.free id' a site := by
  intro m
  have hnumbers : (m.setPool id q).numbers = m.numbers := rfl
  simp only [free, pool?_setPool_of_ne h, hnumbers]
  cases m.pool? id' with
  | none => rfl
  | some p =>
    simp only
    rcases p.free m.numbers a site with ⟨v | _ | o, p', numbers⟩
    all_goals
      simp only [setPool_comm h]
      rfl

/-- So does the end of a scope. -/
theorem ignores_endScope (h : id' ≠ id) (a : Address) :
    Ignores id q fun m => m.endScope id' a := by
  intro m
  simp only [endScope, pool?_setPool_of_ne h]
  cases m.pool? id' with
  | none => rfl
  | some p =>
    simp only
    rcases p.endScope a with ⟨_ | o, p'⟩
    · simp only [setPool_comm h]
    · simp only [setPool_comm h]
      rfl

/-- So does a move. -/
theorem ignores_move (h : id' ≠ id) (new old : Address) (size : ByteCount) (kind : ObjectKind)
    (site : Option Site) : Ignores id q fun m => m.move id' new old size kind site := by
  intro m
  have hnumbers : (m.setPool id q).numbers = m.numbers := rfl
  simp only [move, pool?_setPool_of_ne h, hnumbers]
  cases m.pool? id' with
  | none => rfl
  | some p =>
    simp only
    rcases p.move m.numbers new old size kind site with ⟨v | _ | r, p', numbers⟩
    all_goals
      simp only [setPool_comm h]
      rfl

/-- So does a call that allocates. -/
theorem ignores_allocated (h : id' ≠ id) (c : Call) (measure : Address → Option ByteCount)
    (site : Option Site) : Ignores id q fun m => m.allocated id' c measure site := by
  intro m
  have hallocators : (m.setPool id q).allocators = m.allocators := rfl
  simp only [allocated, hallocators]
  cases m.allocators.allocating? c with
  | none => rfl
  | some e =>
    simp only
    cases e.1.size? c measure with
    | none => rfl
    | some size =>
      -- what is allocated is registered in the pool, or moved there
      simp only
      cases e.1.resized? c with
      | none => exact (ignores_register h c.returned size e.2 site).map Except.ok m
      | some old => exact ignores_move h c.returned old size e.2 site m

/-- So does one that frees. -/
theorem ignores_deallocated (h : id' ≠ id) (c : Call) (site : Option Site) :
    Ignores id q fun m => m.deallocated id' c site := by
  intro m
  have hallocators : (m.setPool id q).allocators = m.allocators := rfl
  simp only [deallocated, hallocators]
  cases (m.allocators.freeing? c).bind fun f => f.freed? c with
  | none => rfl
  | some a => exact ignores_free h a site m

/-! ### Creating and destroying pools -/

/-- A new pool does not depend on what is in the others. -/
theorem createPool_setPool {m : Monitor} (h : id ≠ m.nextPool) :
    (m.setPool id q).createPool = (m.createPool.1, m.createPool.2.setPool id q) := by
  have hpools : (m.pools ++ [(m.nextPool, ({ retention := m.settings.retention } : Pool))]).map
      (fun e => if e.1 = id then (id, q) else e) =
      m.pools.map (fun e => if e.1 = id then (id, q) else e) ++
        [(m.nextPool, { retention := m.settings.retention })] := by
    rw [List.map_append, List.map_singleton, if_neg h.symm]
  simp only [createPool, setPool, count, hpools]

/-- To destroy one pool ignores the others. -/
theorem ignores_destroyPool (h : id' ≠ id) : Ignores id q fun m => m.destroyPool id' := by
  intro m
  simp only [destroyPool, pool?_setPool_of_ne h]
  cases m.pool? id' with
  | none => rfl
  | some p =>
    -- the pool in its place keeps its number, so the same pools are dropped
    have hpools : (m.pools.map fun e => if e.1 = id then (id, q) else e).filter
        (fun e => decide (e.1 ≠ id')) =
        (m.pools.filter fun e => decide (e.1 ≠ id')).map
          fun e => if e.1 = id then (id, q) else e := by
      rw [List.filter_map]
      refine congrArg (List.map _) (List.filter_congr fun e _ => ?_)
      by_cases hid : e.1 = id <;> simp [hid]
    simp only [setPool, count, hpools]

/-! ### Checks -/

/-- A check of an access in one pool ignores the others. -/
theorem ignores_checkAccess (h : id' ≠ id) (a : Address) (length : ByteCount) (mode : CheckMode)
    (site : Option Site) : Ignores id q fun m => m.checkAccess id' a length mode site := by
  -- first the pool is asked, then the objects from outside, and then a violation is reported
  have hpool := ignores_judgeIn (q := q) h .unknown fun p => p.checkAccess a length mode
  have houtside := hpool.bind fun r => ignores_orExternal a r fun p =>
    p.checkAccess a length { mode with provenance := .incomplete }
  exact fun m => (houtside.bind fun r => ignores_reported r site) m.countCheck

/-- So does one of arithmetic. -/
theorem ignores_checkArithmetic (h : id' ≠ id) (source dest : Address) (mode : CheckMode)
    (site : Option Site) : Ignores id q fun m => m.checkArithmetic id' source dest mode site := by
  have hpool := ignores_judgeIn (q := q) h .unknown fun p => p.checkArithmetic source dest mode
  have houtside := hpool.bind fun r => ignores_orExternal source r fun p =>
    p.checkArithmetic source dest ⟨.incomplete, .read⟩
  exact fun m => (houtside.bind fun r => ignores_reported r site) m.countCheck

/-- So does one of an aligned pointer. -/
theorem ignores_checkAlignment (h : id' ≠ id) (a : Address) (elementSize : ByteCount)
    (site : Option Site) : Ignores id q fun m => m.checkAlignment id' a elementSize site := by
  have hpool := ignores_judgeIn (q := q) h () fun p => p.checkAlignment a elementSize
  exact fun m => (hpool.bind fun r => ignores_reported r site) m.countCheck

/-- To read a string ignores every pool. -/
theorem ignores_reportString (memory : Address → UInt8) (a : Address) (function : String)
    (site : Option Site) (o : Option Object) :
    Ignores id q fun m => m.reportString memory a function site o := by
  cases o with
  | none => exact fun m => rfl
  | some o => exact ignores_reported _ site

/-- A check of a string in one pool ignores the others. -/
theorem ignores_checkString (h : id' ≠ id) (memory : Address → UInt8) (a : Address)
    (function : String) (site : Option Site) :
    Ignores id q fun m => m.checkString memory id' a function site := by
  intro m
  by_cases ha : a = 0
  · simp only [checkString, if_pos ha]
    rfl
  · simp only [checkString_eq _ id' memory ha]
    have hasked : (m.setPool id q).countCheck.askPool id' (fun p => p.objectAt a) =
        ((m.countCheck.askPool id' fun p => p.objectAt a).1,
          (m.countCheck.askPool id' fun p => p.objectAt a).2.setPool id q) :=
      ignores_askPool h (fun p => p.objectAt a) m.countCheck
    rw [hasked]
    rcases m.countCheck.askPool id' fun p => p.objectAt a with ⟨_ | o, m'⟩
    · -- the string may be in an object from outside
      exact ignores_reportString memory a function site (m'.externalAt a).1 (m'.externalAt a).2
    · exact ignores_reportString memory a function site (some o) m'

/-! ### Second views of memory -/

/-- To map memory a second time ignores every pool. -/
theorem shadow_setPool {σ : Type} (m : Monitor)
    (remap : Page.Request → σ → Except Errno Address × σ) (os : σ) (a : Address)
    (length : ByteCount) :
    (m.setPool id q).shadow remap os a length =
      ((m.shadow remap os a length).1, (m.shadow remap os a length).2.1.setPool id q,
        (m.shadow remap os a length).2.2) := by
  have hsize : (m.setPool id q).pageSize = m.pageSize := rfl
  simp only [Monitor.shadow, hsize]
  split
  · rfl
  · split
    · rfl
    · split <;> rfl

/-- So does it to revoke a view. -/
theorem ignores_unshadow (protect : Page.Request → Except Errno Unit) (a : Address) :
    Ignores id q fun m => m.unshadow protect a := by
  intro m
  have hshadows : (m.setPool id q).shadows = m.shadows := rfl
  have hsize : (m.setPool id q).pageSize = m.pageSize := rfl
  simp only [unshadow, hshadows, hsize]
  split
  · rfl
  · split
    · rfl
    · split <;> rfl

/-! ### All operations -/

/-- Apart from the creation of a pool, an operation ignores every pool that it does not name. -/
theorem perform_ignores {c : Command} (hcreate : c ≠ .createPool) (h : c.pool? ≠ some id) :
    Ignores id q fun m => m.perform c := by
  have hother : ∀ {id'}, c.pool? = some id' → id' ≠ id := fun hpool hid => h (hid ▸ hpool)
  cases c with
  | createPool => exact absurd rfl hcreate
  | destroyPool id' => exact (ignores_destroyPool (hother rfl)).map Answer.truth
  | poolCount =>
    -- there are as many pools as before
    exact fun m => Prod.ext (congrArg Answer.number (List.length_map _)) rfl
  | poolStats id' | objects id' =>
    intro m
    simp only [perform, pool?_setPool_of_ne (hother rfl)]
  | objectAt id' a => exact (ignores_askPool (hother rfl) fun p => p.objectAt a).map Answer.object
  | retainedAt id' a =>
    exact (ignores_askPool (hother rfl) fun p => p.findRetained a).map Answer.object
  | register id' a size kind site =>
    exact (ignores_register (hother rfl) a size kind site).map Answer.registration
  | registerExternal a size site =>
    exact (ignores_registerExternal a size site).map Answer.registration
  | free id' a site => exact (ignores_free (hother rfl) a site).map Answer.freed
  | endScope id' a => exact (ignores_endScope (hother rfl) a).map Answer.object
  | move id' new old size site =>
    exact (ignores_move (hother rfl) new old size .heap site).map Answer.moved
  | checkAccess id' a length mode site =>
    exact (ignores_checkAccess (hother rfl) a length mode site).map Answer.verdict
  | checkArithmetic id' source dest mode site =>
    exact (ignores_checkArithmetic (hother rfl) source dest mode site).map Answer.verdict
  | checkAlignment id' a elementSize site =>
    exact (ignores_checkAlignment (hother rfl) a elementSize site).map Answer.checked
  | checkDerived base pointer size site =>
    exact fun m =>
      (ignores_reported (DirectCheck.address base pointer size) site).map Answer.derived
        m.countCheck
  | checkDerivedAccess base pointer size length site =>
    exact fun m => (ignores_reported (DirectCheck.access base pointer size length) site).map
      Answer.checked m.countCheck
  | checkCallTarget target targets provenance site =>
    cases provenance with
    | incomplete => exact fun m => rfl
    | complete =>
      exact fun m =>
        (ignores_reported (DirectCheck.callTarget target targets) site).map Answer.checked
          m.countCheck
  | checkString memory id' a function site =>
    exact (ignores_checkString (hother rfl) memory a function site).map Answer.string
  | allocated id' call measure site =>
    exact (ignores_allocated (hother rfl) call measure site).map Answer.moved
  | deallocated id' call site =>
    exact (ignores_deallocated (hother rfl) call site).map Answer.freed
  | shadow remap a length =>
    intro m
    simp only [perform, shadow_setPool]
  | unshadow protect a => exact (ignores_unshadow protect a).map Answer.unshadowed
  | announce | externalAt | canonicalOf | report | counters => exact fun m => rfl

end

/-! ### Which pools there are -/

/-- No pool has come or gone, and no other pools than some have changed. -/
structure KeepsPools (touched : PoolId → Prop) (m m' : Monitor) : Prop where
  nextPool : m'.nextPool = m.nextPool
  isSome : ∀ id, (m'.pool? id).isSome = (m.pool? id).isSome
  others : ∀ id, ¬touched id → m'.pool? id = m.pool? id

namespace KeepsPools

variable {touched : PoolId → Prop} {m m' m'' : Monitor}

/-- Monitors with the same pools have kept them. -/
theorem of_pools_eq (hpools : m'.pools = m.pools) (hnext : m'.nextPool = m.nextPool) :
    KeepsPools touched m m' := by
  have hpool : ∀ id, m'.pool? id = m.pool? id := fun id => congrArg (List.lookup id) hpools
  exact ⟨hnext, fun id => congrArg Option.isSome (hpool id), fun id _ => hpool id⟩

theorem refl (m : Monitor) : KeepsPools touched m m :=
  .of_pools_eq rfl rfl

/-- A new monitor has no pools, whatever it is made from. -/
theorem start (s s' : Settings) (sink sink' : Sink) (page page' : UInt64) :
    KeepsPools touched (.start s sink page) (.start s' sink' page') :=
  .of_pools_eq rfl rfl

/-- Pools are kept step after step. -/
theorem trans (h : KeepsPools touched m m') (h' : KeepsPools touched m' m'') :
    KeepsPools touched m m'' :=
  ⟨h'.nextPool.trans h.nextPool, fun id => (h'.isSome id).trans (h.isSome id),
    fun id hid => (h'.others id hid).trans (h.others id hid)⟩

/-- More pools may be changed. -/
theorem mono {touched' : PoolId → Prop} (h : KeepsPools touched m m')
    (hsub : ∀ id, touched id → touched' id) : KeepsPools touched' m m' :=
  { h with others := fun id hid => h.others id fun htouched => hid (hsub id htouched) }

/-- The same pools exist. -/
theorem pool?_eq_none_iff (h : KeepsPools touched m m') (id : PoolId) :
    m'.pool? id = none ↔ m.pool? id = none := by
  rw [← Option.isNone_iff_eq_none, ← Option.isNone_iff_eq_none, ← Option.not_isSome,
    ← Option.not_isSome, h.isSome id]

/-- Pools that are kept are numbered as before. -/
theorem numbered (h : KeepsPools touched m m') (hm : m.Numbered) : m'.Numbered := by
  intro id p hp
  have hthere : (m.pool? id).isSome = true := by rw [← h.isSome, hp]; rfl
  obtain ⟨p', hp'⟩ := Option.isSome_iff_exists.mp hthere
  rw [h.nextPool]
  exact hm id p' hp'

/-- What does not touch the pools keeps them. -/
theorem of_tracks {n : Monitor} (h : KeepsPools touched m m') (ht : Tracks m' n) :
    KeepsPools touched m n where
  nextPool := ht.nextPool.trans h.nextPool
  isSome id := by rw [ht.pools, h.isSome]
  others id hid := (ht.pools id).trans (h.others id hid)

end KeepsPools

/-- An operation on one pool keeps the others. -/
theorem keepsPools_onPool (m : Monitor) (id : PoolId) (pc : Pool.Command) :
    KeepsPools (fun id' => some id = some id') m (m.onPool id pc) where
  nextPool := (m.sameApartFromPools_onPool id pc).nextPool
  isSome id' := by
    rw [pool?_onPool]
    by_cases hid : id' = id
    · rw [if_pos hid, Option.isSome_map, hid]
    · rw [if_neg hid]
  others id' hid := by
    rw [pool?_onPool, if_neg fun heq => hid (congrArg some heq.symm)]

/-- To map memory a second time keeps all pools. -/
theorem shadow_keepsPools {σ : Type} (m : Monitor)
    (remap : Page.Request → σ → Except Errno Address × σ) (os : σ) (a : Address)
    (length : ByteCount) (touched : PoolId → Prop) :
    KeepsPools touched m (m.shadow remap os a length).2.1 := by
  unfold Monitor.shadow
  split
  · exact .refl m
  · split
    · exact .refl m
    · simp only
      split
      · exact .refl m
      · exact .of_pools_eq rfl rfl

/-- An operation that neither creates nor destroys a pool changes at most the pool that it names. -/
theorem perform_keepsPools (m : Monitor) {c : Command} (hcreate : c ≠ .createPool)
    (hdestroy : ∀ id, c ≠ .destroyPool id) :
    KeepsPools (fun id => c.pool? = some id) m (m.perform c).2 := by
  cases hs : c.isStructural with
  | true =>
    cases c with
    | createPool => exact absurd rfl hcreate
    | destroyPool id => exact absurd rfl (hdestroy id)
    | registerExternal a size site =>
      obtain ⟨numbers, counters, heq⟩ := m.registerExternal_eq a size site
      show KeepsPools _ m (m.registerExternal a size site).2
      rw [heq]
      exact .of_pools_eq rfl rfl
    | announce f => exact .of_pools_eq rfl rfl
    | _ => cases hs
  | false =>
    -- up to what is counted and reported, the operation is one on its pool
    refine KeepsPools.of_tracks ?_ (m.perform_tracks hs)
    unfold afterPool
    split
    · exact .refl m
    · next id pc hin =>
      rw [Command.pool?_of_inPool hin]
      exact m.keepsPools_onPool id pc

end MemorySentry.Monitor
