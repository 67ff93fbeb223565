import MemorySentry.Program.EntryPoint
import MemorySentry.Proofs.Monitor.Exchange

/-!
# What a call changes

A call of an entry point creates a pool, or destroys the one that its descriptor names, or it leaves
the descriptors alone and changes at most that pool (`call_cases`). Whatever else a program does is
about its monitor, of which it has one from its first call on.
-/

namespace MemorySentry.Program

open Monitor (KeepsPools)

/-- The pool with a number, if there is one. -/
def pool? (p : Program) (id : PoolId) : Option Pool :=
  p.monitor.1.pool? id

/-- The descriptor that a call is given, if it is a call that takes one; none for the null
pointer. -/
def EntryPoint.pool? : EntryPoint → Option (Option Nat)
  | .createPool pool | .destroyPool pool | .register pool .. | .free pool .. | .endScope pool ..
  | .move pool .. | .checkAccess pool .. | .checkAlignment pool .. | .checkArithmetic pool ..
  | .checkString pool .. | .allocated pool .. | .deallocated pool .. => some pool
  | _ => none

variable {p p' : Program} {m : Monitor} {id : PoolId}

/-! ### The monitor of a program -/

/-- A program that has a monitor asks for no other. -/
theorem monitor_of_some (h : p.monitor? = some m) : p.monitor = (m, p) := by
  simp only [monitor, h]

/-- To read the settings, or to make a monitor, a program at most writes something. -/
theorem settings_snd (p : Program) : ∃ written, p.settings.2 = { p with written } := by
  unfold settings
  split
  · exact ⟨_, rfl⟩
  · exact ⟨_, rfl⟩

/-- A monitor that a program makes is a fresh one with the pages of its memory, and nothing but
messages comes of making it. -/
theorem makeMonitor_eq (p : Program) (s : Settings) :
    ∃ s' sink written, p.makeMonitor s =
      (.start s' sink p.addressSpace.pageSize, { p with written }) := by
  unfold makeMonitor
  split
  · exact ⟨_, _, _, rfl⟩
  · split
    · exact ⟨_, _, _, rfl⟩
    · exact ⟨_, _, _, rfl⟩

/-- A program without a monitor gets a fresh one, and keeps it. -/
theorem monitor_of_none (h : p.monitor? = none) :
    ∃ s sink written, p.monitor = (.start s sink p.addressSpace.pageSize,
      { p with written, monitor? := some (.start s sink p.addressSpace.pageSize) }) := by
  obtain ⟨written, hsettings⟩ := p.settings_snd
  obtain ⟨s, sink, written', hmake⟩ := makeMonitor_eq { p with written } p.settings.1
  have hmonitor : p.monitor = ((p.settings.2.makeMonitor p.settings.1).1,
      { (p.settings.2.makeMonitor p.settings.1).2 with
        monitor? := some (p.settings.2.makeMonitor p.settings.1).1 }) := by
    simp only [monitor, h]
  rw [hmonitor, hsettings, hmake]
  exact ⟨s, sink, written', rfl⟩

/-- The monitor is the same one when it is asked for again. -/
theorem monitor?_monitor (p : Program) : p.monitor.2.monitor? = some p.monitor.1 := by
  cases h : p.monitor? with
  | none =>
    obtain ⟨s, sink, written, heq⟩ := monitor_of_none h
    rw [heq]
  | some m => rw [monitor_of_some h, h]

/-- Once a program has its monitor, asking again changes nothing. -/
theorem monitor_monitor (p : Program) : p.monitor.2.monitor = p.monitor :=
  monitor_of_some p.monitor?_monitor

/-- Making the monitor leaves the descriptors alone. -/
theorem descriptors_monitor (p : Program) : p.monitor.2.descriptors = p.descriptors := by
  cases h : p.monitor? with
  | none =>
    obtain ⟨s, sink, written, heq⟩ := monitor_of_none h
    rw [heq]
  | some m => rw [monitor_of_some h]

/-- A program carries a command out on its monitor, which is made first if there is none. -/
theorem perform_eq (p : Program) (c : Monitor.Command) :
    p.perform c = ((p.monitor.1.perform c).1,
      p.monitor.2.afterMonitor p.monitor.1 (p.monitor.1.perform c).2) := by
  unfold perform
  rcases p.monitor with ⟨m, p'⟩
  simp only

/-- After a command a program has a monitor, as the command left it. -/
theorem monitor?_perform (p : Program) (c : Monitor.Command) :
    (p.perform c).2.monitor? = some (p.monitor.1.perform c).2 := by
  rw [perform_eq, afterMonitor]

/-- The monitor after a command is what the command made of the one before. -/
theorem monitor_perform (p : Program) (c : Monitor.Command) :
    (p.perform c).2.monitor.1 = (p.monitor.1.perform c).2 := by
  rw [monitor_of_some (p.monitor?_perform c)]

/-- Commands leave the descriptors alone. -/
theorem descriptors_perform (p : Program) (c : Monitor.Command) :
    (p.perform c).2.descriptors = p.descriptors := by
  rw [perform_eq, afterMonitor]
  exact p.descriptors_monitor

/-- There is a monitor if there is a pool. -/
theorem exists_monitor (h : (p.pool? id).isSome = true) : ∃ m, p.monitor? = some m := by
  cases hm : p.monitor? with
  | some m => exact ⟨m, rfl⟩
  | none =>
    obtain ⟨s, sink, written, heq⟩ := monitor_of_none hm
    rw [pool?, heq] at h
    cases h

/-! ### What a call leaves alone -/

/-- The descriptors stay as they are, and so do the pools apart from some that are changed. -/
structure Keeps (touched : PoolId → Prop) (p p' : Program) : Prop where
  descriptors : p'.descriptors = p.descriptors
  pools : KeepsPools touched p.monitor.1 p'.monitor.1

namespace Keeps

variable {touched : PoolId → Prop} {p' p'' : Program}

/-- Doing nothing changes no pool. -/
theorem refl (p : Program) : Keeps touched p p :=
  ⟨rfl, .refl _⟩

/-- What two calls leave alone, they leave alone together. -/
theorem trans (h : Keeps touched p p') (h' : Keeps touched p' p'') : Keeps touched p p'' :=
  ⟨h'.descriptors.trans h.descriptors, h.pools.trans h'.pools⟩

/-- The monitor may be changed apart from its pools. -/
theorem withMonitor (h : Keeps touched p p') {m m' : Monitor} (hm : p'.monitor? = some m)
    (hpools : KeepsPools touched m m') (hdescriptors : p''.descriptors = p'.descriptors)
    (hm' : p''.monitor? = some m') : Keeps touched p p'' := by
  refine ⟨hdescriptors.trans h.descriptors, ?_⟩
  have hp' := h.pools
  rw [monitor_of_some hm] at hp'
  rw [monitor_of_some hm']
  exact hp'.trans hpools

/-- Making the monitor changes no pool, as a fresh one has none. -/
theorem monitor (p : Program) : Keeps touched p p.monitor.2 :=
  ⟨p.descriptors_monitor, by rw [monitor_monitor]; exact .refl _⟩

/-- A command that neither creates nor destroys a pool changes no pool but its own. -/
theorem perform (p : Program) {c : Monitor.Command} (hcreate : c ≠ .createPool)
    (hdestroy : ∀ id, c ≠ .destroyPool id) :
    Keeps (fun id => c.pool? = some id) p (p.perform c).2 :=
  ⟨p.descriptors_perform c, by
    rw [monitor_perform]
    exact p.monitor.1.perform_keepsPools hcreate hdestroy⟩

/-- What is kept apart from some pools is kept apart from more. -/
theorem mono {touched' : PoolId → Prop} (h : Keeps touched p p')
    (hsub : ∀ id, touched id → touched' id) : Keeps touched' p p' :=
  ⟨h.descriptors, h.pools.mono hsub⟩

end Keeps

/-- The pool that a descriptor names; none for the null pointer and for a descriptor at zero. -/
def named? (p : Program) (pool : Option Nat) : Option PoolId :=
  pool.bind fun i => if p.descriptor i = 0 then none else some (p.descriptor i)

/-- A descriptor depends on nothing but the table of descriptors. -/
theorem descriptor_congr (h : p'.descriptors = p.descriptors) (i : Nat) :
    p'.descriptor i = p.descriptor i :=
  congrArg (fun ids => List.getD ids i 0) h

/-- A pool is named by its descriptor, and the monitor is made on the way. -/
theorem resolve_eq (p : Program) (pool : Option Nat) :
    p.resolve pool = (p.named? pool, p.monitor.2) := by
  unfold resolve named?
  cases pool with
  | none => rfl
  | some i => simp only [descriptor_congr p.descriptors_monitor, Option.bind_some]

/-- It makes no difference whether the monitor is made before a command or by it. -/
theorem monitor_perform_eq (p : Program) (c : Monitor.Command) :
    p.monitor.2.perform c = p.perform c := by
  rw [perform_eq, perform_eq, monitor_monitor]

/-- A call that names a pool carries its command out there, and does nothing if it names none. -/
theorem performIn_eq (p : Program) (pool : Option Nat) (c : PoolId → Monitor.Command) :
    p.performIn pool c = (p.named? pool).elim p.monitor.2 fun id => (p.perform (c id)).2 := by
  rw [performIn, resolve_eq]
  cases p.named? pool with
  | none => rfl
  | some id => simp only [monitor_perform_eq, Option.elim_some]

/-- A pool is not named before it is created. -/
theorem ne_createPool {c : Monitor.Command} (h : c.pool? = some id) : c ≠ .createPool := by
  rintro rfl
  cases h

/-- A call changes no pool but the one it names. -/
theorem keeps_performIn (p : Program) (pool : Option Nat) {c : PoolId → Monitor.Command}
    (hpool : ∀ id, (c id).pool? = some id) (hdestroy : ∀ id id', c id ≠ .destroyPool id') :
    Keeps (fun id => p.named? pool = some id) p (p.performIn pool c) := by
  rw [performIn_eq]
  cases hnamed : p.named? pool with
  | none => exact .monitor p
  | some id =>
    exact (Keeps.perform p (ne_createPool (hpool id)) (hdestroy id)).mono
      fun id' hid => (hpool id).symm.trans hid

section

variable {touched : PoolId → Prop}

/-- A command that is about no pool changes none. -/
theorem keeps_perform_of_pool?_eq_none (p : Program) {c : Monitor.Command} (hpool : c.pool? = none)
    (hcreate : c ≠ .createPool) : Keeps touched p (p.perform c).2 := by
  have hdestroy : ∀ id, c ≠ .destroyPool id := by
    rintro id rfl
    cases hpool
  refine (Keeps.perform p hcreate hdestroy).mono fun id hid => ?_
  rw [hpool] at hid
  cases hid

/-- Registering an external object changes no pool. -/
theorem keeps_registerOutside (p : Program) (a : Address) (size : ByteCount) :
    Keeps touched p (p.registerOutside a size) :=
  p.keeps_perform_of_pool?_eq_none rfl (by simp)

/-- Registering the strings of a vector changes no pool. -/
theorem keeps_registerStrings (p : Program) (vector : Address) (count : Nat) :
    Keeps touched p (p.registerStrings vector count) := by
  induction count generalizing p vector with
  | zero => exact .refl p
  | succ count ih =>
    rw [registerStrings]
    -- the first string, if there is one, and then the others
    refine Keeps.trans ?_ (ih _ (vector + pointerSize))
    split
    · exact .refl p
    · exact .refl p
    · exact p.keeps_registerOutside _ _

/-- Registering the arguments of a program changes no pool. -/
theorem keeps_registerArguments (p : Program) (count : Int) (vector : Address) :
    Keeps touched p (p.registerArguments count vector) := by
  have hvariables : ∀ (vs : List (String × Address × ByteCount)) (p : Program),
      Keeps touched p (vs.foldl (fun p v => p.registerOutside v.2.1 v.2.2) p) := by
    intro vs
    induction vs with
    | nil => exact fun p => .refl p
    | cons v rest ih => exact fun p => (p.keeps_registerOutside _ _).trans (ih _)
  have henvironment : ∀ p : Program, Keeps touched p p.registerEnvironment := fun p =>
    (hvariables p.placedVariables p).trans (keeps_registerOutside _ _ _)
  unfold registerArguments
  refine Keeps.trans ?_ ((henvironment _).trans (keeps_registerOutside _ _ _))
  split
  · exact .refl p
  · exact (p.keeps_registerStrings vector count.toNat).trans (keeps_registerOutside _ _ _)

/-- A program that is configured keeps its monitor, or gets a fresh one if it has none. -/
theorem configure_eq (p : Program) (dangling terminate : Nat) :
    ∃ s sink written, p.configure dangling terminate =
      { p with
        written
        monitor? := some (p.monitor?.getD (.start s sink p.addressSpace.pageSize)) } := by
  obtain ⟨written, hsettings⟩ := p.settings_snd
  simp only [configure, hsettings]
  obtain ⟨s', sink, written', hmake⟩ := makeMonitor_eq { p with written } _
  rw [hmake]
  exact ⟨s', sink, written', rfl⟩

/-- Configuring a program changes no pool. -/
theorem keeps_configure (p : Program) (dangling terminate : Nat) :
    Keeps touched p (p.configure dangling terminate) := by
  obtain ⟨s, sink, written, heq⟩ := p.configure_eq dangling terminate
  rw [heq]
  cases hm : p.monitor? with
  | none =>
    -- a monitor without pools takes the place of another one without pools
    obtain ⟨s', sink', written', hmonitor⟩ := monitor_of_none hm
    refine ⟨rfl, ?_⟩
    rw [hmonitor]
    exact .start ..
  | some m => exact (Keeps.refl p).withMonitor hm (.refl m) rfl rfl

/-- A new log file changes no pool. -/
theorem keeps_setLogFile (p : Program) (name : String) : Keeps touched p (p.setLogFile name) := by
  have hkeeps : Keeps touched p p.monitor.2 := .monitor p
  have hm := p.monitor?_monitor
  unfold setLogFile
  rcases hp : p.monitor with ⟨m, p'⟩
  rw [hp] at hkeeps hm
  simp only
  cases p'.written.openFile name with
  | ok written =>
    refine hkeeps.withMonitor hm ?_ rfl rfl
    exact .of_pools_eq rfl rfl
  | error e => exact hkeeps.withMonitor hm (.refl m) rfl hm

/-- Making shadow pages changes no pool. -/
theorem keeps_shadow (p : Program) (a : Address) (size : ByteCount) :
    Keeps touched p (p.shadow a size).2 := by
  have hkeeps : Keeps touched p p.monitor.2 := .monitor p
  have hm := p.monitor?_monitor
  unfold shadow
  rcases hp : p.monitor with ⟨m, p'⟩
  rw [hp] at hkeeps hm
  have hpools := m.shadow_keepsPools AddressSpace.remap p'.addressSpace a size touched
  simp only
  split <;> exact hkeeps.withMonitor hm hpools rfl rfl

/-- Giving shadow pages back changes no pool. -/
theorem keeps_unshadow (p : Program) (a : Address) : Keeps touched p (p.unshadow a) := by
  have hkeeps : Keeps touched p p.monitor.2 := .monitor p
  have hm := p.monitor?_monitor
  unfold unshadow
  rcases hp : p.monitor with ⟨m, p'⟩
  rw [hp] at hkeeps hm
  have hpools : KeepsPools touched m (m.unshadow p'.addressSpace.protect a).2 :=
    (m.perform_keepsPools (c := .unshadow p'.addressSpace.protect a) (by simp) (by simp)).mono
      fun id hid => by cases hid
  simp only
  split <;> exact hkeeps.withMonitor hm hpools rfl rfl

end

/-- Apart from the creation and the destruction of pools, a call changes at most the pool that its
descriptor names. -/
theorem keeps_carryOut (p : Program) {e : EntryPoint} (hcreate : ∀ i, e ≠ .createPool (some i))
    (hdestroy : ∀ i, e ≠ .destroyPool (some i)) :
    Keeps (fun id => e.pool?.bind p.named? = some id) p (p.carryOut e).2 := by
  cases e with
  | createPool pool =>
    cases pool with
    | none => exact .refl p
    | some i => exact absurd rfl (hcreate i)
  | destroyPool pool =>
    cases pool with
    | none =>
      simp only [carryOut, resolve_eq]
      exact .monitor p
    | some i => exact absurd rfl (hdestroy i)
  | configure dangling terminate =>
    simp only [carryOut]
    exact p.keeps_configure dangling terminate
  | setLogFile name =>
    rw [carryOut]
    split
    · exact p.keeps_setLogFile _
    · exact .refl p
  | finish => exact .refl p
  | register pool | free pool | endScope pool | move pool | checkAccess pool | checkAlignment pool
  | checkArithmetic pool | checkString pool =>
    -- one operation on the pool that the descriptor names
    simp only [carryOut]
    exact p.keeps_performIn pool (fun _ => rfl) (by simp)
  | registerExternal a size =>
    simp only [carryOut]
    exact p.keeps_registerOutside a size
  | registerArguments count vector =>
    simp only [carryOut]
    exact p.keeps_registerArguments count vector
  | checkDerived | checkDerivedAccess | checkCall =>
    -- no pool is asked
    simp only [carryOut]
    exact p.keeps_perform_of_pool?_eq_none rfl (by simp)
  | shadow a size =>
    simp only [carryOut]
    exact p.keeps_shadow a size
  | unshadow a =>
    simp only [carryOut]
    exact p.keeps_unshadow a
  | allocated pool callee | deallocated pool callee =>
    rw [carryOut]
    split
    · -- a function without a name
      rw [resolve_eq]
      exact .monitor p
    · exact p.keeps_performIn pool (fun _ => rfl) (by simp)

/-! ### Creating and destroying pools -/

/-- A pool was created through a descriptor. -/
structure Creates (i : Nat) (p p' : Program) : Prop where
  descriptors : p'.descriptors = p.descriptors.set i p.monitor.1.nextPool
  monitor : p'.monitor.1 = p.monitor.1.createPool.2

/-- The pool that a descriptor named was destroyed. -/
structure Destroys (i : Nat) (p p' : Program) : Prop where
  named : p.descriptor i ≠ 0
  descriptors : p'.descriptors = p.descriptors.set i 0
  monitor : p'.monitor.1 = (p.monitor.1.destroyPool (p.descriptor i)).2

/-- A pool is created under the next id, which its descriptor then holds. -/
theorem carryOut_createPool (p : Program) (i : Nat) :
    p.carryOut (.createPool (some i)) =
      (none, (p.perform .createPool).2.setDescriptor i p.monitor.1.nextPool) := by
  have hperform : p.perform .createPool =
      (.pool p.monitor.1.nextPool, (p.perform .createPool).2) := by
    rw [perform_eq]
    rfl
  rw [carryOut, hperform]

/-- A pool is destroyed through its descriptor, which is at zero afterwards. A descriptor at zero
destroys nothing. -/
theorem carryOut_destroyPool (p : Program) (i : Nat) :
    p.carryOut (.destroyPool (some i)) =
      (none, if p.descriptor i = 0 then p.monitor.2
        else (p.perform (.destroyPool (p.descriptor i))).2.setDescriptor i 0) := by
  have hnamed : p.named? (some i) =
    if p.descriptor i = 0 then none else some (p.descriptor i) := rfl
  simp only [carryOut, resolve_eq, hnamed]
  by_cases hzero : p.descriptor i = 0
  · simp only [if_pos hzero]
  · simp only [if_neg hzero, monitor_perform_eq]

/-- What a call can do to the descriptors and to the pools. -/
theorem call_cases (p : Program) (e : EntryPoint) :
    (∃ i, e = .createPool (some i) ∧ Creates i p (p.call e).2) ∨
      (∃ i, e = .destroyPool (some i) ∧ Destroys i p (p.call e).2) ∨
      Keeps (fun id => e.pool?.bind p.named? = some id) p (p.call e).2 := by
  unfold call
  split
  · -- a program that was aborted does nothing any more
    exact .inr (.inr (.refl p))
  · by_cases hcreate : ∃ i, e = .createPool (some i)
    · obtain ⟨i, rfl⟩ := hcreate
      refine .inl ⟨i, rfl, ?_⟩
      rw [carryOut_createPool]
      refine ⟨congrArg (fun ids => List.set ids i _) (p.descriptors_perform _), ?_⟩
      exact p.monitor_perform .createPool
    · by_cases hdestroy : ∃ i, e = .destroyPool (some i)
      · obtain ⟨i, rfl⟩ := hdestroy
        right
        rw [carryOut_destroyPool]
        by_cases hzero : p.descriptor i = 0
        · simp only [if_pos hzero]
          exact .inr (.monitor p)
        · simp only [if_neg hzero]
          refine .inl ⟨i, rfl, hzero, ?_, ?_⟩
          · exact congrArg (fun ids => List.set ids i 0) (p.descriptors_perform _)
          · exact p.monitor_perform (.destroyPool (p.descriptor i))
      · exact .inr (.inr (p.keeps_carryOut (fun i heq => hcreate ⟨i, heq⟩)
          fun i heq => hdestroy ⟨i, heq⟩))

end MemorySentry.Program
