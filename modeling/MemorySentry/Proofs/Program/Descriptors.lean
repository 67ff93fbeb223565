import MemorySentry.Proofs.Program.Exchange

/-!
# Descriptors and pools

A program keeps the numbers of its pools in descriptors, which only the creation and the destruction
of pools write. Started with all descriptors at zero, it never has a descriptor that names no pool,
or two that name the same one (`Run.linked`), and the number of a pool that was destroyed never
comes back (`Run.gone`). So what was registered through one descriptor is out of reach of the others
(`descriptors_keep_pools_apart`).
-/

namespace MemorySentry.Program

/-- What a program can come to. Between calls of entry points it does work of its own, which leaves
its descriptors and its monitor alone. -/
inductive Run (p : Program) : Program → Prop where
  | start : Run p p
  | call {q : Program} (h : Run p q) (e : EntryPoint) : Run p (q.call e).2
  | work {q r : Program} (h : Run p q) (hdescriptors : r.descriptors = q.descriptors)
      (hmonitor : r.monitor? = q.monitor?) : Run p r

variable {p q : Program} {id : PoolId}

/-! ### Descriptors that name pools -/

/-- Each descriptor that is not at zero names a pool of its own. -/
structure Linked (p : Program) : Prop where
  numbered : p.monitor.1.Numbered
  named : ∀ i, p.descriptor i ≠ 0 → (p.pool? (p.descriptor i)).isSome = true
  distinct : ∀ i j, p.descriptor i ≠ 0 → p.descriptor i = p.descriptor j → i = j

/-- The number of a pool that was destroyed. -/
structure Gone (p : Program) (id : PoolId) : Prop where
  /-- The number was given to a pool. -/
  given : id < p.monitor.1.nextPool
  absent : p.pool? id = none

section

variable {p' : Program} {i : Nat}

/-- Setting one descriptor leaves all others as they are. -/
theorem descriptor_of_set (h : p'.descriptors = p.descriptors.set i id) (j : Nat) :
    p'.descriptor j = if j = i ∧ i < p.descriptors.length then id else p.descriptor j := by
  rw [descriptor, descriptor, h, List.getD_eq_getElem?_getD, List.getD_eq_getElem?_getD,
    List.getElem?_set]
  by_cases hi : i = j
  · subst hi
    by_cases hlength : i < p.descriptors.length
    · simp [hlength]
    · simp [hlength]
  · rw [if_neg hi, if_neg fun h => hi h.1.symm]

/-- Creating a pool adds an empty one under the next id and changes no other. -/
theorem Creates.pool? (h : Creates i p p') (hnumbered : p.monitor.1.Numbered) (id : PoolId) :
    p'.pool? id = if id = p.monitor.1.nextPool
      then some { retention := p.monitor.1.settings.retention } else p.pool? id := by
  rw [Program.pool?, h.monitor, Monitor.pool?_createPool hnumbered]
  rfl

/-- Destroying a pool takes the one its descriptor named and no other. -/
theorem Destroys.pool? (h : Destroys i p p') (id : PoolId) :
    p'.pool? id = if id = p.descriptor i then none else p.pool? id := by
  rw [Program.pool?, h.monitor, Monitor.pool?_destroyPool]
  rfl

/-- Every id that a descriptor holds was given out. -/
theorem Linked.lt_nextPool (h : p.Linked) (hi : p.descriptor i ≠ 0) :
    p.descriptor i < p.monitor.1.nextPool := by
  obtain ⟨pool, hpool⟩ := Option.isSome_iff_exists.mp (h.named i hi)
  exact h.numbered _ pool hpool

/-- Calls that change pools but neither create nor destroy any leave the descriptors in order. -/
theorem Linked.keeps {touched : PoolId → Prop} (h : p.Linked) (hkeeps : Keeps touched p p') :
    p'.Linked := by
  have hdescriptor := descriptor_congr hkeeps.descriptors
  refine ⟨hkeeps.pools.numbered h.numbered, fun i hi => ?_, fun i j hi hij => ?_⟩
  · rw [hdescriptor] at hi ⊢
    exact (hkeeps.pools.isSome _).trans (h.named i hi)
  · rw [hdescriptor] at hi hij
    rw [hdescriptor] at hij
    exact h.distinct i j hi hij

/-- Descriptors stay different if one of them gets a number that is in none of them, or zero. -/
theorem Linked.distinct_of_set (h : p.Linked) (hset : p'.descriptors = p.descriptors.set i id)
    (hfresh : ∀ k, p.descriptor k ≠ 0 → p.descriptor k ≠ id) (j k : Nat)
    (hj : p'.descriptor j ≠ 0) (hjk : p'.descriptor j = p'.descriptor k) : j = k := by
  rw [descriptor_of_set hset] at hj hjk
  rw [descriptor_of_set hset] at hjk
  -- the two descriptors can each be the one that was written
  by_cases hji : j = i ∧ i < p.descriptors.length <;>
    by_cases hki : k = i ∧ i < p.descriptors.length
  · exact hji.1.trans hki.1.symm
  · rw [if_pos hji] at hj hjk
    rw [if_neg hki] at hjk
    exact absurd hjk.symm (hfresh k (hjk ▸ hj))
  · rw [if_neg hji] at hj hjk
    rw [if_pos hki] at hjk
    exact absurd hjk (hfresh j hj)
  · rw [if_neg hji] at hj hjk
    rw [if_neg hki] at hjk
    exact h.distinct j k hj hjk

/-- The number of a new pool is not in any descriptor yet. -/
theorem Linked.creates (h : p.Linked) (hcreates : Creates i p p') : p'.Linked := by
  refine ⟨hcreates.monitor ▸ h.numbered.createPool, fun j hj => ?_,
    h.distinct_of_set hcreates.descriptors fun k hk => (h.lt_nextPool hk).ne⟩
  rw [hcreates.pool? h.numbered]
  rw [descriptor_of_set hcreates.descriptors] at hj ⊢
  split
  · rw [if_pos rfl, Option.isSome_some]
  · next hother =>
    rw [if_neg hother] at hj
    rw [if_neg (h.lt_nextPool hj).ne]
    exact h.named j hj

/-- No other descriptor named the pool that is destroyed. -/
theorem Linked.destroys (h : p.Linked) (hdestroys : Destroys i p p') : p'.Linked := by
  have hlength : i < p.descriptors.length := by
    -- a descriptor that there is not counts as zero
    refine Nat.lt_of_not_le fun hle => hdestroys.named ?_
    rw [descriptor, List.getD_eq_getElem?_getD, List.getElem?_eq_none hle, Option.getD_none]
  refine ⟨hdestroys.monitor ▸ h.numbered.destroyPool _, fun j hj => ?_,
    h.distinct_of_set hdestroys.descriptors fun k hk => hk⟩
  rw [hdestroys.pool?]
  rw [descriptor_of_set hdestroys.descriptors] at hj ⊢
  split at hj
  · exact absurd rfl hj
  · next hother =>
    have hne : p.descriptor j ≠ p.descriptor i := fun heq =>
      hother ⟨h.distinct j i hj heq, hlength⟩
    rw [if_neg hother, if_neg hne]
    exact h.named j hj

/-- Every call leaves the descriptors in order. -/
theorem Linked.call (h : p.Linked) (e : EntryPoint) : (p.call e).2.Linked := by
  rcases p.call_cases e with ⟨i, -, hcreates⟩ | ⟨i, -, hdestroys⟩ | hkeeps
  · exact h.creates hcreates
  · exact h.destroys hdestroys
  · exact h.keeps hkeeps

/-- Work of the program's own keeps the pools, since it leaves the monitor alone. -/
theorem keeps_of_work (hdescriptors : p'.descriptors = p.descriptors)
    (hmonitor : p'.monitor? = p.monitor?) : Keeps (fun _ => False) p p' := by
  refine ⟨hdescriptors, ?_⟩
  cases hm : p.monitor? with
  | some m =>
    rw [monitor_of_some hm, monitor_of_some (hmonitor.trans hm)]
    exact .refl m
  | none =>
    obtain ⟨s, sink, written, heq⟩ := monitor_of_none hm
    obtain ⟨s', sink', written', heq'⟩ := monitor_of_none (hmonitor.trans hm)
    -- work may change the environment and so the settings, but a new monitor has no pools
    rw [heq, heq']
    exact .start ..

/-- The descriptors are in order in whatever a program comes to. -/
theorem Run.linked (hrun : Run p q) (h : p.Linked) : q.Linked := by
  induction hrun with
  | start => exact h
  | call _ e ih => exact ih.call e
  | work _ hdescriptors hmonitor ih =>
    exact ih.keeps (keeps_of_work hdescriptors hmonitor)

/-- The descriptors are in order before the first call, when all are at zero. -/
theorem linked_start (hmonitor : p.monitor? = none) (hzero : ∀ i, p.descriptor i = 0) :
    p.Linked := by
  obtain ⟨s, sink, written, heq⟩ := monitor_of_none hmonitor
  refine ⟨?_, fun i hi => absurd (hzero i) hi, fun i j hi => absurd (hzero i) hi⟩
  rw [heq]
  exact Monitor.numbered_start s sink p.addressSpace.pageSize

/-! ### Numbers that do not come back -/

/-- Ids are given out upwards. -/
theorem nextPool_le_call (p : Program) (e : EntryPoint) :
    p.monitor.1.nextPool ≤ (p.call e).2.monitor.1.nextPool := by
  rcases p.call_cases e with ⟨i, -, hcreates⟩ | ⟨i, -, hdestroys⟩ | hkeeps
  · have hnext : p.monitor.1.createPool.2.nextPool = p.monitor.1.nextPool + 1 := rfl
    rw [hcreates.monitor, hnext]
    exact Nat.le_succ _
  · rw [hdestroys.monitor, (Monitor.sameApartFromPools_destroyPool _ _).nextPool]
  · exact hkeeps.pools.nextPool.ge

/-- Over a whole run, ids are given out upwards. -/
theorem Run.nextPool_le (hrun : Run p q) : p.monitor.1.nextPool ≤ q.monitor.1.nextPool := by
  induction hrun with
  | start => exact Nat.le_refl _
  | call _ e ih => exact ih.trans (nextPool_le_call _ e)
  | work _ hdescriptors hmonitor ih =>
    exact ih.trans (keeps_of_work hdescriptors hmonitor).pools.nextPool.ge

/-- The number of a pool that there was has been given, so it is not given again. -/
theorem Run.gone_of_absent (hrun : Run p q) (hlinked : p.Linked)
    (hpool : (p.pool? id).isSome = true) (habsent : q.pool? id = none) : Gone q id := by
  obtain ⟨pool, hpool⟩ := Option.isSome_iff_exists.mp hpool
  exact ⟨(hlinked.numbered id pool hpool).trans_le hrun.nextPool_le, habsent⟩

/-- A pool that is gone stays gone. -/
theorem Gone.call (h : Gone p id) (hlinked : p.Linked) (e : EntryPoint) :
    Gone (p.call e).2 id := by
  refine ⟨h.given.trans_le (p.nextPool_le_call e), ?_⟩
  rcases p.call_cases e with ⟨i, -, hcreates⟩ | ⟨i, -, hdestroys⟩ | hkeeps
  · -- the number of the new pool is a greater one
    rw [hcreates.pool? hlinked.numbered, if_neg h.given.ne]
    exact h.absent
  · rw [hdestroys.pool?]
    split
    · rfl
    · exact h.absent
  · exact (hkeeps.pools.pool?_eq_none_iff id).mpr h.absent

/-- A pool that is gone does not come back, whatever a program comes to. -/
theorem Run.gone (hrun : Run p q) (hlinked : p.Linked) (h : Gone p id) : Gone q id := by
  induction hrun with
  | start => exact h
  | call hbefore e ih => exact ih.call (hbefore.linked hlinked) e
  | work _ hdescriptors hmonitor ih =>
    have hpools := (keeps_of_work hdescriptors hmonitor).pools
    exact ⟨hpools.nextPool ▸ ih.given, (hpools.pool?_eq_none_iff id).mpr ih.absent⟩

/-- No descriptor names a pool that is gone. -/
theorem Gone.descriptor_ne (h : Gone p id) (hlinked : p.Linked) (hid : id ≠ 0) (i : Nat) :
    p.descriptor i ≠ id := by
  rintro rfl
  have hpool := hlinked.named i hid
  rw [h.absent] at hpool
  cases hpool

/-! ### Calls through other descriptors -/

/-- No other descriptor has the number. -/
theorem Linked.not_named (h : p.Linked) (hi : p.descriptor i ≠ 0) {e : EntryPoint}
    (he : e.pool? ≠ some (some i)) : e.pool?.bind p.named? ≠ some (p.descriptor i) := by
  intro hnamed
  obtain ⟨pool, hpool, hnamed⟩ := Option.bind_eq_some_iff.mp hnamed
  obtain ⟨j, rfl, hj⟩ := Option.bind_eq_some_iff.mp hnamed
  split at hj
  · cases hj
  · have hij : i = j := h.distinct i j hi (Option.some.inj hj).symm
    exact he (hij ▸ hpool)

/-- A call through another descriptor changes neither the descriptor nor its pool. -/
theorem Linked.apart_call (h : p.Linked) (hi : p.descriptor i ≠ 0) {e : EntryPoint}
    (he : e.pool? ≠ some (some i)) :
    (p.call e).2.descriptor i = p.descriptor i ∧
      (p.call e).2.pool? (p.descriptor i) = p.pool? (p.descriptor i) := by
  rcases p.call_cases e with ⟨j, rfl, hcreates⟩ | ⟨j, rfl, hdestroys⟩ | hkeeps
  · have hij : i ≠ j := by
      rintro rfl
      exact he rfl
    constructor
    · rw [descriptor_of_set hcreates.descriptors, if_neg fun hset => hij hset.1]
    · rw [hcreates.pool? h.numbered, if_neg (h.lt_nextPool hi).ne]
  · have hij : i ≠ j := by
      rintro rfl
      exact he rfl
    constructor
    · rw [descriptor_of_set hdestroys.descriptors, if_neg fun hset => hij hset.1]
    · -- the pool that is destroyed has another number, as descriptors differ
      rw [hdestroys.pool?, if_neg fun heq => hij (h.distinct i j hi heq)]
  · exact ⟨descriptor_congr hkeeps.descriptors i, hkeeps.pools.others _ (h.not_named hi he)⟩

/-- A call that does not go through a descriptor does not depend on the pool it names, and leaves
that pool as it is. -/
theorem Linked.call_withPool (h : p.Linked) (hi : p.descriptor i ≠ 0) {e : EntryPoint}
    (he : e.pool? ≠ some (some i)) (other : Pool) :
    (p.withPool (p.descriptor i) other).call e =
      ((p.call e).1, (p.call e).2.withPool (p.descriptor i) other) := by
  obtain ⟨m, hm⟩ := exists_monitor (h.named i hi)
  have hnext := (h.lt_nextPool hi).ne
  rw [monitor_of_some hm] at hnext
  exact Program.call_withPool hm hnext (h.not_named hi he)

/-- A run goes on through any calls. -/
theorem Run.callAll (hrun : Run p q) (es : List EntryPoint) : Run p (q.callAll es) := by
  induction es generalizing q with
  | nil => exact hrun
  | cons e rest ih => exact ih (hrun.call e)

/-- Calls through other descriptors leave a descriptor and its pool as they are. -/
theorem Linked.apart_callAll (h : p.Linked) (hi : p.descriptor i ≠ 0) {es : List EntryPoint}
    (hes : ∀ e ∈ es, e.pool? ≠ some (some i)) :
    (p.callAll es).descriptor i = p.descriptor i ∧
      (p.callAll es).pool? (p.descriptor i) = p.pool? (p.descriptor i) := by
  induction es generalizing p with
  | nil => exact ⟨rfl, rfl⟩
  | cons e rest ih =>
    obtain ⟨he, hes⟩ := List.forall_mem_cons.mp hes
    obtain ⟨hdescriptor, hpool⟩ := h.apart_call hi he
    obtain ⟨hdescriptor', hpool'⟩ := ih (h.call e) (hdescriptor ▸ hi) hes
    rw [hdescriptor] at hdescriptor' hpool'
    exact ⟨hdescriptor', hpool'.trans hpool⟩

/-- Calls through other descriptors do not depend on the pool that a descriptor names. -/
theorem Linked.callAll_withPool (h : p.Linked) (hi : p.descriptor i ≠ 0) {es : List EntryPoint}
    (hes : ∀ e ∈ es, e.pool? ≠ some (some i)) (other : Pool) :
    (p.withPool (p.descriptor i) other).callAll es =
      (p.callAll es).withPool (p.descriptor i) other := by
  induction es generalizing p with
  | nil => rfl
  | cons e rest ih =>
    obtain ⟨he, hes⟩ := List.forall_mem_cons.mp hes
    have hdescriptor := (h.apart_call hi he).1
    have hrest := ih (h.call e) (hdescriptor ▸ hi) hes
    rw [hdescriptor] at hrest
    -- the first call leaves the same program, again with the other pool in its place
    rw [Program.callAll, h.call_withPool hi he]
    exact hrest

end

/-- In a program whose descriptors all start at zero, each descriptor names a pool of its own, the
number of a pool that was destroyed never comes back, a call without a pool does nothing, and calls
that do not go through a descriptor neither see nor change its pool. -/
theorem descriptors_keep_pools_apart (hmonitor : p.monitor? = none)
    (hzero : ∀ i, p.descriptor i = 0) (hrun : Run p q) :
    (∀ i, q.descriptor i ≠ 0 → (q.pool? (q.descriptor i)).isSome = true) ∧
      (∀ i j, q.descriptor i ≠ 0 → q.descriptor i = q.descriptor j → i = j) ∧
      (∀ id r s, id ≠ 0 → (q.pool? id).isSome = true → Run q r → r.pool? id = none → Run r s →
        s.pool? id = none ∧ ∀ i, s.descriptor i ≠ id) ∧
      (∀ e pool, e.pool? = some pool → (∀ i, pool = some i → q.descriptor i = 0) →
        (∀ i, e ≠ .createPool (some i)) →
        (q.call e).2.monitor.1 = q.monitor.1 ∧
          (q.monitor?.isSome = true → (q.call e).2 = q)) ∧
      (∀ i es, q.descriptor i ≠ 0 → (∀ e ∈ es, e.pool? ≠ some (some i)) →
        (q.callAll es).pool? (q.descriptor i) = q.pool? (q.descriptor i) ∧
          ∀ other e, e.pool? ≠ some (some i) →
            ((q.withPool (q.descriptor i) other).callAll es).call e =
              (((q.callAll es).call e).1,
                ((q.callAll es).call e).2.withPool (q.descriptor i) other)) := by
  have hlinked : q.Linked := hrun.linked (linked_start hmonitor hzero)
  refine ⟨hlinked.named, hlinked.distinct, ?_, ?_, ?_⟩
  · -- a number that was given stays below the next one
    intro id r s hid hpool hbefore habsent hafter
    have hlinked' := hbefore.linked hlinked
    have hgone := hafter.gone hlinked' (hbefore.gone_of_absent hlinked hpool habsent)
    exact ⟨hgone.absent, hgone.descriptor_ne (hafter.linked hlinked') hid⟩
  · intro e pool hpool hidle hcreate
    have hnamed : q.named? pool = none := by
      cases pool with
      | none => rfl
      | some i => exact if_pos (hidle i rfl)
    -- a monitor that has to be made is the one that would be found
    rcases call_of_idle hpool hnamed hcreate with heq | heq
    · exact ⟨by rw [heq], fun _ => heq⟩
    · refine ⟨by rw [heq, monitor_monitor], fun hsome => ?_⟩
      obtain ⟨m, hm⟩ := Option.isSome_iff_exists.mp hsome
      rw [heq, monitor_of_some hm]
  · intro i es hi hes
    obtain ⟨hdescriptor, hkept⟩ := hlinked.apart_callAll hi hes
    refine ⟨hkept, fun other e he => ?_⟩
    have hlinked' := ((Run.start (p := q)).callAll es).linked hlinked
    have hcall := hlinked'.call_withPool (hdescriptor ▸ hi) he other
    rw [hdescriptor] at hcall
    rw [hlinked.callAll_withPool hi hes other, hcall]

/-- Two pools, with an object that the first descriptor knows: a free through the second one does
not reach it, and once its pool is destroyed the number of the pool is never used again. -/
theorem descriptors_keep_pools_apart_two :
    let p : Program := { descriptors := [0, 0] }
    let q := p.callAll [.createPool (some 0), .createPool (some 1),
      .register (some 0) 4096 16 .heap .unknown]
    q.descriptors = [1, 2] ∧
      (q.callAll [.free (some 1) 4096 .unknown]).pool? 1 = q.pool? 1 ∧
      ∀ s, Run (q.call (.destroyPool (some 0))).2 s →
        s.pool? 1 = none ∧ ∀ i, s.descriptor i ≠ 1 := by
  intro p q
  have hdescriptors : q.descriptors = [1, 2] := by decide +kernel
  have hdescriptor : q.descriptor 0 = 1 := by decide +kernel
  have hpool : (q.pool? 1).isSome = true := by decide +kernel
  have habsent : (q.call (.destroyPool (some 0))).2.pool? 1 = none :=
    Option.isNone_iff_eq_none.mp (by decide +kernel)
  have hzero : ∀ i, p.descriptor i = 0 := by
    rintro (_ | _ | i) <;> rfl
  have hrun : Run p q := Run.start.callAll _
  obtain ⟨-, -, hgone, -, hapart⟩ := descriptors_keep_pools_apart rfl hzero hrun
  refine ⟨hdescriptors, ?_, fun s hs => hgone 1 _ s (by decide) hpool (Run.start.call _) habsent hs⟩
  have hfree := (hapart 0 [.free (some 1) 4096 .unknown] (by rw [hdescriptor]; decide)
    (by simp [EntryPoint.pool?])).1
  rwa [hdescriptor] at hfree

end MemorySentry.Program
