import MemorySentry.Proofs.Program.Calls

/-!
# Calls and the pools that they do not name

A call through one descriptor neither sees nor changes the pool that another one names: with any
other pool in its place, the call returns the same pointer, and the program goes on the same way,
again with that pool in its place (`call_withPool`). A call through the null pointer, or through a
descriptor at zero, changes nothing at all (`call_of_idle`).
-/

namespace MemorySentry.Program

/-- The program with another pool in the place of one. -/
def withPool (p : Program) (id : PoolId) (other : Pool) : Program :=
  { p with monitor? := p.monitor?.map fun m => m.setPool id other }

variable {p : Program} {m : Monitor} {id : PoolId} {other : Pool}

/-! ### Programs that have a monitor -/

/-- A part of a call keeps the monitor that there is, and neither sees nor changes a pool. -/
structure Overlooks (id : PoolId) (other : Pool) (f : Program → Program) : Prop where
  monitor : ∀ p, p.monitor?.isSome = true → (f p).monitor?.isSome = true
  withPool : ∀ p, p.monitor?.isSome = true →
    f (p.withPool id other) = (f p).withPool id other

namespace Overlooks

variable {f g : Program → Program}

/-- Doing nothing overlooks every pool. -/
protected theorem id : Overlooks id other fun p => p :=
  ⟨fun _ h => h, fun _ _ => rfl⟩

/-- Two steps that overlook a pool overlook it one after the other. -/
theorem comp (hg : Overlooks id other g) (hf : Overlooks id other f) :
    Overlooks id other fun p => g (f p) where
  monitor p hp := hg.monitor (f p) (hf.monitor p hp)
  withPool p hp := by
    rw [hf.withPool p hp]
    exact hg.withPool (f p) (hf.monitor p hp)

/-- Steps that overlook a pool overlook it however many there are. -/
theorem foldl {α : Type} {f : Program → α → Program}
    (hf : ∀ a, Overlooks id other fun p => f p a) (as : List α) :
    Overlooks id other fun p => as.foldl f p := by
  induction as with
  | nil => exact .id
  | cons a rest ih => exact ih.comp (hf a)

end Overlooks

/-- The monitor of a program with another pool is the same one with that pool. -/
theorem monitor_withPool (hm : p.monitor? = some m) :
    (p.withPool id other).monitor = (m.setPool id other, p.withPool id other) := by
  apply monitor_of_some
  rw [withPool, hm, Option.map_some]

/-- A command overlooks a pool if its monitor does. -/
theorem perform_withPool {c : Monitor.Command} (hm : p.monitor? = some m)
    (hperform : (m.setPool id other).perform c =
      ((m.perform c).1, (m.perform c).2.setPool id other)) :
    (p.withPool id other).perform c = ((p.perform c).1, (p.perform c).2.withPool id other) := by
  rw [perform_eq, perform_eq, monitor_withPool hm, monitor_of_some hm]
  simp only [hperform]
  -- alerts are delivered from the log, and no pool is part of it
  rfl

/-- After a command there is a monitor. -/
theorem isSome_monitor?_perform (p : Program) (c : Monitor.Command) :
    (p.perform c).2.monitor?.isSome = true := by
  rw [monitor?_perform, Option.isSome_some]

/-- A command that creates no pool overlooks all pools but its own. -/
theorem overlooks_perform {c : Monitor.Command} (hcreate : c ≠ .createPool)
    (hpool : c.pool? ≠ some id) : Overlooks id other fun p => (p.perform c).2 where
  monitor p _ := p.isSome_monitor?_perform c
  withPool p hp := by
    obtain ⟨m, hm⟩ := Option.isSome_iff_exists.mp hp
    exact congrArg Prod.snd (perform_withPool hm (Monitor.perform_ignores hcreate hpool m))

/-- Registering an external object overlooks every pool. -/
theorem overlooks_registerOutside (a : Address) (size : ByteCount) :
    Overlooks id other fun p => p.registerOutside a size :=
  overlooks_perform (by simp) (by simp [Monitor.Command.pool?])

/-- Registering the strings of a vector overlooks every pool. -/
theorem overlooks_registerStrings (vector : Address) (count : Nat) :
    Overlooks id other fun p => p.registerStrings vector count := by
  induction count generalizing vector with
  | zero => exact .id
  | succ count ih =>
    have hmemory : ∀ p : Program, (p.withPool id other).memory = p.memory := fun _ => rfl
    have hstring : ∀ a size, Overlooks id other fun p => p.registerOutside a size :=
      overlooks_registerOutside
    have hrest := ih (vector + pointerSize)
    refine ⟨fun p hp => ?_, fun p hp => ?_⟩
    · rw [registerStrings]
      apply hrest.monitor
      split
      · exact hp
      · exact hp
      · exact (hstring _ _).monitor p hp
    · rw [registerStrings, registerStrings, hmemory]
      split
      · exact hrest.withPool p hp
      · exact hrest.withPool p hp
      · exact (hrest.comp (hstring _ _)).withPool p hp

/-- Registering the arguments of a program overlooks every pool. -/
theorem overlooks_registerArguments (count : Int) (vector : Address) :
    Overlooks id other fun p => p.registerArguments count vector := by
  have houtside : ∀ a size, Overlooks id other fun p => p.registerOutside a size :=
    overlooks_registerOutside
  have hvariables : ∀ vs : List (String × Address × ByteCount),
      Overlooks id other fun p => vs.foldl (fun p v => p.registerOutside v.2.1 v.2.2) p :=
    .foldl fun v => houtside v.2.1 v.2.2
  -- where the program finds things is not part of its monitor
  have henvironment : Overlooks id other registerEnvironment := by
    refine ⟨fun p hp => ?_, fun p hp => ?_⟩
    · exact ((houtside _ _).comp (hvariables _)).monitor p hp
    · exact ((houtside _ _).comp (hvariables _)).withPool p hp
  have hlast : Overlooks id other fun p =>
      p.registerEnvironment.registerOutside p.layout.lastError errnoSize := by
    refine ⟨fun p hp => ?_, fun p hp => ?_⟩
    · exact ((houtside _ _).comp henvironment).monitor p hp
    · exact ((houtside _ _).comp henvironment).withPool p hp
  by_cases hnone : vector = 0 ∨ count < 0
  · simp only [registerArguments, if_pos hnone]
    exact hlast
  · simp only [registerArguments, if_neg hnone]
    exact hlast.comp ((houtside _ _).comp (overlooks_registerStrings _ _))

/-! ### Entry points -/

/-- Making a monitor anew does not take the one that there is. -/
theorem configure_withPool (hm : p.monitor? = some m) (dangling terminate : Nat) :
    (p.withPool id other).configure dangling terminate =
      (p.configure dangling terminate).withPool id other := by
  have hsettings : (p.withPool id other).settings =
      (p.settings.1, p.settings.2.withPool id other) := by
    have henvironment : (p.withPool id other).environment = p.environment := rfl
    simp only [settings, henvironment]
    split <;> rfl
  have hmake : ∀ (s : Settings) (p : Program), (p.withPool id other).makeMonitor s =
      ((p.makeMonitor s).1, (p.makeMonitor s).2.withPool id other) := by
    intro s p
    have hwritten : (p.withPool id other).written = p.written := rfl
    simp only [makeMonitor, hwritten]
    split
    · rfl
    · split <;> rfl
  have hkept : ∀ s, (p.settings.2.makeMonitor s).2.monitor? = some m := by
    intro s
    obtain ⟨written, hwritten⟩ := p.settings_snd
    obtain ⟨s', sink, written', heq⟩ := p.settings.2.makeMonitor_eq s
    rw [heq, hwritten]
    exact hm
  simp only [configure, hsettings, hmake]
  simp only [withPool, hkept, Option.map_some, Option.getD_some]

/-- A new log file has nothing to do with any pool. -/
theorem setLogFile_withPool (hm : p.monitor? = some m) (name : String) :
    (p.withPool id other).setLogFile name = (p.setLogFile name).withPool id other := by
  have hwritten : (p.withPool id other).written = p.written := rfl
  simp only [setLogFile, monitor_withPool hm, monitor_of_some hm, hwritten]
  split <;> rfl

/-- Making shadow pages has nothing to do with any pool. -/
theorem shadow_withPool (hm : p.monitor? = some m) (a : Address) (size : ByteCount) :
    (p.withPool id other).shadow a size =
      ((p.shadow a size).1, (p.shadow a size).2.withPool id other) := by
  have haddressSpace : (p.withPool id other).addressSpace = p.addressSpace := rfl
  simp only [shadow, monitor_withPool hm, monitor_of_some hm, haddressSpace,
    Monitor.shadow_setPool]
  split <;> rfl

/-- Giving shadow pages back has nothing to do with any pool. -/
theorem unshadow_withPool (hm : p.monitor? = some m) (a : Address) :
    (p.withPool id other).unshadow a = (p.unshadow a).withPool id other := by
  have haddressSpace : (p.withPool id other).addressSpace = p.addressSpace := rfl
  simp only [unshadow, monitor_withPool hm, monitor_of_some hm, haddressSpace,
    Monitor.ignores_unshadow _ _ m]
  split <;> rfl

/-- A call does not depend on pools that it does not name. -/
theorem performIn_withPool (hm : p.monitor? = some m) (pool : Option Nat)
    {c : PoolId → Monitor.Command} (hpool : ∀ id', (c id').pool? = some id')
    (hnamed : p.named? pool ≠ some id) :
    (p.withPool id other).performIn pool c = (p.performIn pool c).withPool id other := by
  have hsame : (p.withPool id other).named? pool = p.named? pool := rfl
  rw [performIn_eq, performIn_eq, hsame]
  cases hid : p.named? pool with
  | none =>
    rw [Option.elim_none, Option.elim_none, monitor_withPool hm, monitor_of_some hm]
  | some id' =>
    have hother : (c id').pool? ≠ some id := by
      rw [hpool]
      exact fun heq => hnamed (hid.trans heq)
    have hcreate := ne_createPool (hpool id')
    exact congrArg Prod.snd (perform_withPool hm (Monitor.perform_ignores hcreate hother m))

/-- A command that is about no pool has the same answer whatever a pool holds. -/
theorem perform_withPool_of_pool?_eq_none (hm : p.monitor? = some m) {c : Monitor.Command}
    (hpool : c.pool? = none) (hcreate : c ≠ .createPool) :
    (p.withPool id other).perform c = ((p.perform c).1, (p.perform c).2.withPool id other) := by
  refine perform_withPool hm (Monitor.perform_ignores hcreate ?_ m)
  rw [hpool]
  simp

/-- Creating a pool has nothing to do with the pools that are there. -/
theorem createPool_withPool (hm : p.monitor? = some m) (hnext : id ≠ m.nextPool) (i : Nat) :
    (p.withPool id other).carryOut (.createPool (some i)) =
      ((p.carryOut (.createPool (some i))).1,
        (p.carryOut (.createPool (some i))).2.withPool id other) := by
  have hcreate : (m.setPool id other).perform .createPool =
      ((m.perform .createPool).1, (m.perform .createPool).2.setPool id other) :=
    congrArg (fun r => (Monitor.Answer.pool r.1, r.2)) (Monitor.createPool_setPool hnext)
  -- the number of the new pool does not depend on what is in the other ones
  rw [carryOut_createPool, carryOut_createPool, perform_withPool hm hcreate,
    monitor_withPool hm, monitor_of_some hm]
  rfl

/-- Destroying a pool has nothing to do with any other. -/
theorem destroyPool_withPool (hm : p.monitor? = some m) (i : Nat)
    (hnamed : p.named? (some i) ≠ some id) :
    (p.withPool id other).carryOut (.destroyPool (some i)) =
      ((p.carryOut (.destroyPool (some i))).1,
        (p.carryOut (.destroyPool (some i))).2.withPool id other) := by
  have hdescriptor : (p.withPool id other).descriptor i = p.descriptor i := rfl
  rw [carryOut_destroyPool, carryOut_destroyPool, hdescriptor]
  by_cases hzero : p.descriptor i = 0
  · rw [if_pos hzero, if_pos hzero, monitor_withPool hm, monitor_of_some hm]
  · have hother : (Monitor.Command.destroyPool (p.descriptor i)).pool? ≠ some id := by
      intro heq
      apply hnamed
      show (if p.descriptor i = 0 then none else some (p.descriptor i)) = some id
      rw [if_neg hzero]
      exact heq
    rw [if_neg hzero, if_neg hzero,
      perform_withPool hm (Monitor.perform_ignores (by simp) hother m)]
    rfl

/-- A call that does not go through a descriptor with the number of a pool neither sees nor changes
this pool. -/
theorem carryOut_withPool (hm : p.monitor? = some m) {e : EntryPoint}
    (hnext : id ≠ m.nextPool) (hnamed : e.pool?.bind p.named? ≠ some id) :
    (p.withPool id other).carryOut e =
      ((p.carryOut e).1, (p.carryOut e).2.withPool id other) := by
  have hp : p.monitor?.isSome = true := by rw [hm, Option.isSome_some]
  -- memory is not part of the monitor, so every argument that is read from it is the same
  have hmemory : (p.withPool id other).memory = p.memory := rfl
  cases e with
  | createPool pool =>
    cases pool with
    | none => rfl
    | some i => exact createPool_withPool hm hnext i
  | destroyPool pool =>
    cases pool with
    | none =>
      simp only [carryOut, resolve_eq, monitor_withPool hm, monitor_of_some hm]
    | some i => exact destroyPool_withPool hm i hnamed
  | configure dangling terminate =>
    simp only [carryOut, configure_withPool hm]
  | setLogFile name =>
    simp only [carryOut]
    split
    · rw [setLogFile_withPool hm]
    · rfl
  | finish => rfl
  | register pool | free pool | endScope pool | move pool | checkAccess pool | checkAlignment pool
  | checkArithmetic pool | checkString pool =>
    simp only [carryOut, hmemory]
    rw [performIn_withPool hm pool (fun _ => rfl) hnamed]
  | registerExternal a size =>
    simp only [carryOut, (overlooks_registerOutside a size).withPool p hp]
  | registerArguments count vector =>
    simp only [carryOut, (overlooks_registerArguments count vector).withPool p hp]
  | checkDerived | checkDerivedAccess | checkCall =>
    simp only [carryOut]
    rw [perform_withPool_of_pool?_eq_none hm rfl (by simp)]
  | shadow a size =>
    simp only [carryOut, shadow_withPool hm]
  | unshadow a =>
    simp only [carryOut, unshadow_withPool hm]
  | allocated pool callee | deallocated pool callee =>
    simp only [carryOut, hmemory]
    split
    · simp only [resolve_eq, monitor_withPool hm, monitor_of_some hm]
    · rw [performIn_withPool hm pool (fun _ => rfl) hnamed]

/-- A call has the same answer whatever is in a pool that it does not name. -/
theorem call_withPool (hm : p.monitor? = some m) {e : EntryPoint} (hnext : id ≠ m.nextPool)
    (hnamed : e.pool?.bind p.named? ≠ some id) :
    (p.withPool id other).call e = ((p.call e).1, (p.call e).2.withPool id other) := by
  have haborted : (p.withPool id other).aborted = p.aborted := rfl
  rw [call, call, haborted]
  split
  · rfl
  · exact carryOut_withPool hm hnext hnamed

/-! ### Calls without a pool -/

/-- A call that names no pool does no more than make the monitor. -/
theorem performIn_of_idle {pool : Option Nat} (h : p.named? pool = none)
    (c : PoolId → Monitor.Command) : p.performIn pool c = p.monitor.2 := by
  rw [performIn_eq, h, Option.elim_none]

/-- A call that names no pool at most has the monitor made. -/
theorem call_of_idle {e : EntryPoint} {pool : Option Nat} (hpool : e.pool? = some pool)
    (hidle : p.named? pool = none) (hcreate : ∀ i, e ≠ .createPool (some i)) :
    (p.call e).2 = p ∨ (p.call e).2 = p.monitor.2 := by
  rw [call]
  split
  · exact .inl rfl
  · cases e with
    | createPool pool =>
      cases pool with
      | none => exact .inl rfl
      | some i => exact absurd rfl (hcreate i)
    | destroyPool pool =>
      obtain rfl := Option.some.inj hpool
      -- to resolve the descriptor takes the monitor
      right
      simp only [carryOut, resolve_eq, hidle]
    | register | free | endScope | move | checkAccess | checkAlignment | checkArithmetic
    | checkString =>
      obtain rfl := Option.some.inj hpool
      right
      simp only [carryOut]
      exact performIn_of_idle hidle _
    | allocated | deallocated =>
      obtain rfl := Option.some.inj hpool
      right
      simp only [carryOut]
      split
      · rw [resolve_eq]
      · exact performIn_of_idle hidle _
    | _ => cases hpool

end MemorySentry.Program
