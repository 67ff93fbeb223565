import MemorySentry.Monitor.Command
import MemorySentry.Proofs.Pool.Equivalence

/-!
# The pools of a monitor

An operation that names a pool asks it to do one thing (`Command.inPool`). Pools are found by their
numbers, so it says everything about a change of the pools which pool then has which number:
`pool?_onPool`, `pool?_createPool`, `pool?_destroyPool`.

`Tracks` relates monitors that may differ in what they have counted and reported, and in how the
maps of their objects from outside are arranged, but in nothing that a verdict depends on.
-/

namespace MemorySentry

/-- Taking out the entries of a key leaves what is found for other keys. -/
theorem lookup_filter_ne {α β : Type} [DecidableEq α] (entries : List (α × β)) (k k' : α) :
    (entries.filter fun e => e.1 ≠ k).lookup k' = if k' = k then none else entries.lookup k' := by
  induction entries with
  | nil => simp
  | cons e rest ih =>
    obtain ⟨key, b⟩ := e
    rw [List.filter_cons, List.lookup_cons]
    by_cases hk : key = k
    · subst hk
      by_cases hk' : k' = key
      · simpa [hk'] using ih
      · simpa [beq_false_of_ne hk', hk'] using ih
    · by_cases hk' : k' = key
      · subst hk'
        simp [hk]
      · simpa [hk, List.lookup_cons, beq_false_of_ne hk'] using ih

namespace Monitor

/-! ### Operations as operations on pools -/

/-- The pool that an operation names. -/
def Command.pool? : Command → Option PoolId
  | .destroyPool id | .poolStats id | .objects id | .objectAt id _ | .retainedAt id _
  | .register id .. | .free id .. | .endScope id _ | .move id .. | .checkAccess id ..
  | .checkArithmetic id .. | .checkAlignment id .. | .checkString _ id .. | .allocated id ..
  | .deallocated id .. => some id
  | _ => none

/-- What a call that allocates means for the pool. -/
def allocation? (allocators : AllocatorTable) (c : Call) (measure : Address → Option ByteCount)
    (site : Option Site) : Option Pool.Command :=
  match allocators.allocating? c with
  | none => none
  | some (f, kind) =>
    (f.size? c measure).map fun size =>
      match f.resized? c with
      | some old => .move c.returned old size kind site
      | none => .registerBytes c.returned size kind site

/-- What an operation asks of the pool that it names. -/
def Command.inPool (allocators : AllocatorTable) : Command → Option (PoolId × Pool.Command)
  | .poolStats id => some (id, .stats)
  | .objects id => some (id, .objects)
  | .objectAt id a => some (id, .objectAt a)
  | .retainedAt id a => some (id, .retainedAt a)
  | .register id a size kind site => some (id, .registerBytes a size kind site)
  | .free id a site => some (id, .free a site)
  | .endScope id a => some (id, .endScope a)
  | .move id new old size site => some (id, .move new old size .heap site)
  | .checkAccess id a length mode _ => some (id, .checkAccess a length mode)
  | .checkArithmetic id source dest mode _ => some (id, .checkArithmetic source dest mode)
  | .checkAlignment id a elementSize _ => some (id, .checkAlignment a elementSize)
  | .checkString _ id a _ _ => if a = 0 then none else some (id, .objectAt a)
  | .allocated id c measure site => (allocation? allocators c measure site).map fun pc => (id, pc)
  | .deallocated id c site =>
    ((allocators.freeing? c).bind fun f => f.freed? c).map fun a => (id, .free a site)
  | _ => none

/-- Whether an operation can change more than the pool that it names. -/
def Command.isStructural : Command → Bool
  | .createPool | .destroyPool _ | .registerExternal .. | .announce _ => true
  | _ => false

/-- The monitor after an operation on one of its pools, if there is such a pool. -/
def onPool (m : Monitor) (id : PoolId) (c : Pool.Command) : Monitor :=
  match m.pool? id with
  | none => m
  | some p =>
    let (_, p, numbers) := p.perform m.numbers c
    { m.setPool id p with numbers }

/-- The monitor after what an operation asks of a pool. -/
def afterPool (m : Monitor) (c : Command) : Monitor :=
  match c.inPool m.allocators with
  | none => m
  | some (id, pc) => m.onPool id pc

/-! ### Pools by their numbers -/

/-- No pool has the number of a later one. -/
def Numbered (m : Monitor) : Prop :=
  ∀ id p, m.pool? id = some p → id < m.nextPool

/-- Without pools none has a number that is to come. -/
theorem numbered_start (settings : Settings) (sink : Sink) (page : UInt64) :
    (start settings sink page).Numbered := by
  intro id p hp
  cases hp

/-- A pool is replaced only if it exists, and the others stay. -/
theorem pool?_setPool (m : Monitor) (id id' : PoolId) (p : Pool) :
    (m.setPool id p).pool? id' = if id' = id then (m.pool? id).map fun _ => p else m.pool? id' := by
  unfold setPool pool?
  simp only
  induction m.pools with
  | nil => simp
  | cons e rest ih =>
    obtain ⟨k, p'⟩ := e
    rw [List.map_cons, List.lookup_cons, List.lookup_cons]
    by_cases hk : k = id
    · subst hk
      rw [if_pos rfl, List.lookup_cons]
      by_cases hid : id' = k
      · subst hid
        simp
      · simpa [beq_false_of_ne hid, hid] using ih
    · rw [if_neg hk, List.lookup_cons, beq_false_of_ne (Ne.symm hk)]
      by_cases hid : id' = k
      · subst hid
        simp [hk]
      · simpa [beq_false_of_ne hid] using ih

/-- A new pool has the next number, no objects, and the retention of the settings. -/
theorem pool?_createPool {m : Monitor} (h : m.Numbered) (id : PoolId) :
    m.createPool.2.pool? id =
      if id = m.nextPool then some { retention := m.settings.retention } else m.pool? id := by
  have hlookup : m.createPool.2.pool? id =
      (m.pools ++ [(m.nextPool, ({ retention := m.settings.retention } : Pool))]).lookup id := by
    rfl
  rw [hlookup, List.lookup_append, List.lookup_cons, List.lookup_nil]
  by_cases hid : id = m.nextPool
  · -- the number is a new one
    have hnone : m.pools.lookup id = none := by
      rw [Option.eq_none_iff_forall_ne_some]
      intro p hp
      exact absurd (h id p hp) (by rw [hid]; exact Nat.lt_irrefl _)
    rw [hnone, hid]
    simp
  · simp [beq_false_of_ne hid, hid, pool?]

/-- A destroyed pool is gone, and the others stay. -/
theorem pool?_destroyPool (m : Monitor) (id id' : PoolId) :
    (m.destroyPool id).2.pool? id' = if id' = id then none else m.pool? id' := by
  unfold destroyPool
  cases hp : m.pool? id with
  | none =>
    by_cases hid : id' = id
    · rw [if_pos hid, hid]
      exact hp
    · rw [if_neg hid]
  | some p => exact lookup_filter_ne m.pools id id'

/-- Everything that operations read, apart from the pools and the numbers, is the same in the second
monitor. -/
structure SameApartFromPools (m m' : Monitor) : Prop where
  settings : m'.settings = m.settings
  pageSize : m'.pageSize = m.pageSize
  nextPool : m'.nextPool = m.nextPool
  allocators : m'.allocators = m.allocators
  external : m'.external = m.external

theorem SameApartFromPools.refl (m : Monitor) : SameApartFromPools m m :=
  ⟨rfl, rfl, rfl, rfl, rfl⟩

/-- An operation on one pool changes the pools and the sequence numbers alone. -/
theorem sameApartFromPools_onPool (m : Monitor) (id : PoolId) (c : Pool.Command) :
    SameApartFromPools m (m.onPool id c) := by
  unfold onPool
  cases m.pool? id <;> exact ⟨rfl, rfl, rfl, rfl, rfl⟩

/-- So does the part of an operation that is about a pool. -/
theorem sameApartFromPools_afterPool (m : Monitor) (c : Command) :
    SameApartFromPools m (m.afterPool c) := by
  unfold afterPool
  split
  · exact .refl m
  · exact m.sameApartFromPools_onPool _ _

/-- So does it to destroy a pool, apart from what is counted. -/
theorem sameApartFromPools_destroyPool (m : Monitor) (id : PoolId) :
    SameApartFromPools m (m.destroyPool id).2 := by
  unfold destroyPool
  cases m.pool? id <;> exact ⟨rfl, rfl, rfl, rfl, rfl⟩

/-- What comes from outside is registered as in a pool. -/
theorem registerExternal_eq (m : Monitor) (a : Address) (size : ByteCount) (site : Option Site) :
    ∃ numbers counters, m.registerExternal a size site =
      ((m.external.registerBytes m.numbers a size .external site).1,
        { m with
          external := (m.external.registerBytes m.numbers a size .external site).2.1
          numbers, counters }) := by
  unfold registerExternal
  rcases m.external.registerBytes m.numbers a size .external site with ⟨_ | r, external, numbers⟩
  · exact ⟨numbers, m.counters, rfl⟩
  · exact ⟨_, _, rfl⟩

/-- An operation asks nothing of a pool that it does not name. -/
theorem Command.pool?_of_inPool {allocators : AllocatorTable} {c : Command} {id : PoolId}
    {pc : Pool.Command} (h : c.inPool allocators = some (id, pc)) : c.pool? = some id := by
  cases c with
  | checkString memory id' a function site =>
    simp only [inPool] at h
    split at h
    · cases h
    · cases h
      rfl
  | allocated id' c measure site =>
    obtain ⟨pc', -, heq⟩ := Option.map_eq_some_iff.mp h
    cases heq
    rfl
  | deallocated id' c site =>
    obtain ⟨a, -, heq⟩ := Option.map_eq_some_iff.mp h
    cases heq
    rfl
  | poolStats | objects | objectAt | retainedAt | register | free | endScope | move | checkAccess
  | checkArithmetic | checkAlignment =>
    cases h
    rfl
  | createPool | destroyPool | poolCount | registerExternal | externalAt | checkDerived
  | checkDerivedAccess | checkCallTarget | announce | shadow | unshadow | canonicalOf | report
  | counters => cases h

/-- An operation on one pool changes this pool and no other. -/
theorem pool?_onPool (m : Monitor) (id id' : PoolId) (c : Pool.Command) :
    (m.onPool id c).pool? id' =
      if id' = id then (m.pool? id).map fun p => (p.perform m.numbers c).2.1 else m.pool? id' := by
  unfold onPool
  cases hp : m.pool? id with
  | none =>
    by_cases hid : id' = id
    · rw [if_pos hid, hid]
      exact hp
    · rw [if_neg hid]
  | some p =>
    have hset := m.pool?_setPool id id' (p.perform m.numbers c).2.1
    rw [hp] at hset
    exact hset

namespace Numbered

variable {m : Monitor}

/-- A new pool takes the next number, and the one after is to come. -/
theorem createPool (h : m.Numbered) : m.createPool.2.Numbered := by
  intro id p hp
  have hnext : m.createPool.2.nextPool = m.nextPool + 1 := rfl
  rw [pool?_createPool h] at hp
  rw [hnext]
  split at hp
  · next hid =>
    rw [hid]
    exact Nat.lt_succ_self _
  · exact Nat.lt_succ_of_lt (h id p hp)

/-- With one pool less, no number is wrong. -/
theorem destroyPool (h : m.Numbered) (id : PoolId) : (m.destroyPool id).2.Numbered := by
  intro id' p hp
  rw [pool?_destroyPool] at hp
  rw [(m.sameApartFromPools_destroyPool id).nextPool]
  split at hp
  · cases hp
  · exact h id' p hp

/-- An operation on a pool changes no numbers of pools. -/
theorem onPool (h : m.Numbered) (id : PoolId) (c : Pool.Command) : (m.onPool id c).Numbered := by
  intro id' p hp
  rw [pool?_onPool] at hp
  rw [(m.sameApartFromPools_onPool id c).nextPool]
  split at hp
  · next hid =>
    obtain ⟨p', hp', -⟩ := Option.map_eq_some_iff.mp hp
    rw [hid]
    exact h id p' hp'
  · exact h id' p hp

end Numbered

/-! ### What operations change -/

/-- The second monitor knows of the same pools as the first one, draws the same numbers, and holds
the same objects from outside. The two may differ in what they have counted and reported. -/
structure Tracks (m m' : Monitor) : Prop where
  settings : m'.settings = m.settings
  pageSize : m'.pageSize = m.pageSize
  pools : ∀ id, m'.pool? id = m.pool? id
  nextPool : m'.nextPool = m.nextPool
  numbers : m'.numbers = m.numbers
  allocators : m'.allocators = m.allocators
  /-- A search may rearrange the objects from outside. -/
  external : ∀ q, m.external.Refines q → m'.external.Refines q

namespace Tracks

variable {m m' m'' : Monitor}

theorem refl (m : Monitor) : Tracks m m :=
  ⟨rfl, rfl, fun _ => rfl, rfl, rfl, rfl, fun _ h => h⟩

/-- What leads to the same pools twice does so in all. -/
theorem trans (h : Tracks m m') (h' : Tracks m' m'') : Tracks m m'' :=
  ⟨h'.settings.trans h.settings, h'.pageSize.trans h.pageSize,
    fun id => (h'.pools id).trans (h.pools id), h'.nextPool.trans h.nextPool,
    h'.numbers.trans h.numbers, h'.allocators.trans h.allocators,
    fun q hq => h'.external q (h.external q hq)⟩

/-- To count a check leads to the same pools. -/
theorem countCheck (h : Tracks m m') : Tracks m m'.countCheck :=
  { h with }

/-- So does it to count a registration. -/
theorem countRegistration (h : Tracks m m') : Tracks m m'.countRegistration :=
  { h with }

/-- So does it to count a free or the end of a scope. -/
theorem countUnregistration (h : Tracks m m') : Tracks m m'.countUnregistration :=
  { h with }

/-- So does it to report what was found. -/
theorem reported {α : Type} (h : Tracks m m') (r : Except Violation α) (site : Option Site) :
    Tracks m (m'.reported r site).2 := by
  cases r with
  | ok a => exact h
  | error v => exact { h with }

/-- So does another shape of the objects from outside, if they are the same. -/
theorem withExternal (h : Tracks m m') {external : Pool}
    (hexternal : ∀ q, m'.external.Refines q → external.Refines q) :
    Tracks m { m' with external } :=
  { h with external := fun q hq => hexternal q (h.external q hq) }

/-- So does it to ask the objects from outside. -/
theorem orExternal (h : Tracks m m') (a : Address) (r : Except Violation Verdict)
    {judge : Pool → Except Violation Verdict × Pool}
    (hjudge : ∀ p q, p.Refines q → (judge p).2.Refines q) :
    Tracks m (m'.orExternal a r judge).2 := by
  have hasked : Tracks m { m' with external := (judge m'.external).2 } :=
    h.withExternal fun q hq => hjudge _ q hq
  unfold Monitor.orExternal
  split
  · simp only
    split
    · split
      · exact { hasked with }
      · exact hasked
    · exact { hasked with }
  · exact h

/-- So does a look-up among them. -/
theorem externalAt (h : Tracks m m') (a : Address) : Tracks m (m'.externalAt a).2 := by
  have hasked : ∀ q, m'.external.Refines q → (m'.external.objectAt a).2.Refines q := by
    intro q hq
    obtain ⟨p', hfind, h'⟩ := hq.find a
    simp only [Pool.objectAt, hfind]
    exact h'
  exact h.withExternal hasked

/-- The same operation on one pool leads to the same pools again. -/
theorem onPool (h : Tracks m m') (id : PoolId) (c : Pool.Command) :
    Tracks (m.onPool id c) (m'.onPool id c) := by
  have hpools : ∀ id', (m'.onPool id c).pool? id' = (m.onPool id c).pool? id' := by
    intro id'
    rw [pool?_onPool, pool?_onPool, h.pools, h.pools, h.numbers]
  unfold Monitor.onPool at hpools ⊢
  rw [h.pools, h.numbers] at hpools ⊢
  cases hp : m.pool? id with
  | none => exact h
  | some p =>
    rw [hp] at hpools
    exact { h with pools := hpools, numbers := rfl }

/-- The same pools are numbered alike. -/
theorem numbered (h : Tracks m m') (hm : m.Numbered) : m'.Numbered := by
  intro id p hp
  rw [h.pools] at hp
  rw [h.nextPool]
  exact hm id p hp

end Tracks

end Monitor

end MemorySentry
