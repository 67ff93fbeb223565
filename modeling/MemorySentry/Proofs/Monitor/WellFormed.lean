import MemorySentry.Proofs.Monitor.Operations

/-!
# Monitors that runs can reach

In every monitor that a run of operations leaves, pools and objects from outside belong to linear
pools, and no object from outside has the null address. It is so at the start (`wellFormed_start`)
and after every operation (`WellFormed.perform`), hence after every run (`WellFormed.performAll`).

What holds of all pools of a monitor is kept where every operation on a pool keeps it (`AllPools`),
and what holds of the objects from outside where their registration does (`ExternalPool`).
-/

namespace MemorySentry

namespace LinearPool

/-- No live object has the null address. -/
def AvoidsNull (q : LinearPool) : Prop :=
  ∀ o ∈ q.live, o.span.contains 0 = false

/-- A span that does not begin at the null address does not have it. -/
theorem contains_null_of_start_ne {s : Span} (h : s.start ≠ 0) : s.contains 0 = false := by
  rw [Bool.eq_false_iff]
  intro hnull
  have hle := (Span.contains_iff.mp hnull).1
  rw [UInt64.le_iff_toNat_le] at hle
  exact h (UInt64.toNat_inj.mp (Nat.le_zero.mp hle))

/-- A registration merges objects, but none of them has the null address, and neither has the span
that is registered. -/
theorem AvoidsNull.registerBytes {q : LinearPool} (h : q.AvoidsNull) (numbers : Numbering)
    (a : Address) (size : ByteCount) (kind : ObjectKind) (site : Option Site) :
    (q.registerBytes numbers a size kind site).2.1.AvoidsNull := by
  unfold LinearPool.registerBytes
  cases hspan : Span.ofLength a size with
  | error e => exact h
  | ok s =>
    by_cases ha : a = 0
    · simp only [if_pos ha]
      exact h
    · simp only [if_neg ha]
      intro o ho
      rcases mem_register_live.mp ho with rfl | ⟨hold, -⟩
      · -- the span that is registered begins after the null address
        have hfresh : s.contains 0 = false := by
          obtain ⟨hstart, -⟩ := Span.ofLength_eq_ok_iff.mp hspan
          exact contains_null_of_start_ne (hstart ▸ ha)
        -- and whatever the newcomer takes in belonged to objects that avoid it
        rw [Bool.eq_false_iff, ne_eq, contains_newcomer_iff, hfresh]
        rintro (hnull | ⟨o', ho', hnull⟩)
        · cases hnull
        · rw [h o' (mem_members.mp ho').1.1] at hnull
          cases hnull
      · exact h o hold

end LinearPool

namespace Monitor

/-! ### What holds of all pools -/

/-- All pools have a property. -/
def AllPools (P : Pool → Prop) (m : Monitor) : Prop :=
  ∀ id p, m.pool? id = some p → P p

namespace AllPools

variable {P : Pool → Prop} {m : Monitor}

/-- An operation on one pool leaves all others alone. -/
theorem onPool (h : m.AllPools P)
    (hkeeps : ∀ {p : Pool}, P p → ∀ (numbers : Numbering) (c : Pool.Command),
      P (p.perform numbers c).2.1)
    (named : PoolId) (c : Pool.Command) : (m.onPool named c).AllPools P := by
  intro id p hp
  rw [pool?_onPool] at hp
  split at hp
  · obtain ⟨p', hp', rfl⟩ := Option.map_eq_some_iff.mp hp
    exact hkeeps (h named p' hp') m.numbers c
  · exact h id p hp

/-- What holds of all pools and of new ones holds after one is created. -/
theorem createPool (h : m.AllPools P) (hnew : ∀ retention, P { retention }) (hm : m.Numbered) :
    m.createPool.2.AllPools P := by
  intro id p hp
  rw [pool?_createPool hm] at hp
  split at hp
  · cases hp
    exact hnew m.settings.retention
  · exact h id p hp

/-- It holds of those that are left when one is destroyed. -/
theorem destroyPool (h : m.AllPools P) (named : PoolId) : (m.destroyPool named).2.AllPools P := by
  intro id p hp
  rw [pool?_destroyPool] at hp
  split at hp
  · cases hp
  · exact h id p hp

end AllPools

/-! ### What holds of the objects from outside -/

/-- The objects from outside are those of a linear pool that has a property. -/
def ExternalPool (P : LinearPool → Prop) (m : Monitor) : Prop :=
  ∃ q, m.external.Refines q ∧ P q

/-- The objects from outside only change where one more of them is registered. So what a
registration keeps, every operation keeps of them. -/
theorem ExternalPool.perform {P : LinearPool → Prop} {m : Monitor} (h : m.ExternalPool P)
    (hkeeps : ∀ {q : LinearPool}, P q → ∀ (numbers : Numbering) (a : Address) (size : ByteCount)
      (site : Option Site), P (q.registerBytes numbers a size .external site).2.1)
    (c : Command) : (m.perform c).2.ExternalPool P := by
  obtain ⟨q, hq, hP⟩ := h
  cases hs : c.isStructural with
  | true =>
    cases c with
    | createPool | announce f => exact ⟨q, hq, hP⟩
    | destroyPool id =>
      have hsame := (m.sameApartFromPools_destroyPool id).external
      exact ⟨q, hsame ▸ hq, hP⟩
    | registerExternal a size site =>
      obtain ⟨numbers, counters, heq⟩ := m.registerExternal_eq a size site
      show (m.registerExternal a size site).2.ExternalPool P
      rw [heq]
      exact ⟨_, (hq.registerBytes m.numbers a size .external site).refines,
        hkeeps hP m.numbers a size site⟩
    | _ => cases hs
  | false =>
    -- the pool that the operation names is another one
    have hexternal := (m.sameApartFromPools_afterPool c).external
    exact ⟨q, (m.perform_tracks hs).external q (hexternal ▸ hq), hP⟩

/-! ### Well-formed monitors -/

/-- What is so of every monitor that a run can reach. -/
structure WellFormed (m : Monitor) : Prop where
  numbered : m.Numbered
  /-- The pools hold the objects of linear pools. -/
  pools : ∀ id p, m.pool? id = some p → ∃ q, p.Refines q
  /-- So do the objects from outside, and none of these has the null address. -/
  external : ∃ q, m.external.Refines q ∧ q.AvoidsNull

/-- A new monitor is well formed. -/
theorem wellFormed_start (settings : Settings) (sink : Sink) (page : UInt64) :
    (start settings sink page).WellFormed where
  numbered := numbered_start settings sink page
  pools := fun id p hp => by cases hp
  external := ⟨_, Pool.refines_empty .immediate, fun o ho => by cases ho⟩

namespace WellFormed

variable {m n : Monitor}

/-- A monitor with the same pools is well formed as well. -/
theorem tracks (h : m.WellFormed) (ht : Tracks m n) : n.WellFormed where
  numbered := ht.numbered h.numbered
  pools := fun id p hp => h.pools id p (by rw [← ht.pools, hp])
  external := by
    obtain ⟨q, hq, hnull⟩ := h.external
    exact ⟨q, ht.external q hq, hnull⟩

/-- An operation on a pool leaves the monitor well formed. -/
theorem onPool (h : m.WellFormed) (id : PoolId) (c : Pool.Command) :
    (m.onPool id c).WellFormed where
  numbered := h.numbered.onPool id c
  pools := AllPools.onPool h.pools
    (fun ⟨_, hq⟩ numbers c => ⟨_, (Pool.perform_refines hq numbers c).2.1⟩) id c
  external := by
    rw [(m.sameApartFromPools_onPool id c).external]
    exact h.external

/-- So does the part of any operation that is about a pool. -/
theorem afterPool (h : m.WellFormed) (c : Command) : (m.afterPool c).WellFormed := by
  unfold Monitor.afterPool
  split
  · exact h
  · exact h.onPool _ _

/-- So does it to create a pool. -/
theorem createPool (h : m.WellFormed) : m.createPool.2.WellFormed where
  numbered := h.numbered.createPool
  pools := AllPools.createPool h.pools (fun retention => ⟨_, Pool.refines_empty retention⟩)
    h.numbered
  external := h.external

/-- So does it to destroy one. -/
theorem destroyPool (h : m.WellFormed) (id : PoolId) : (m.destroyPool id).2.WellFormed where
  numbered := h.numbered.destroyPool id
  pools := AllPools.destroyPool h.pools id
  external := by
    rw [(m.sameApartFromPools_destroyPool id).external]
    exact h.external

/-- So does it to register memory from outside. -/
theorem registerExternal (h : m.WellFormed) (a : Address) (size : ByteCount)
    (site : Option Site) : (m.registerExternal a size site).2.WellFormed := by
  obtain ⟨numbers, counters, heq⟩ := m.registerExternal_eq a size site
  obtain ⟨q, hq, hnull⟩ := h.external
  rw [heq]
  exact { h with
    external := ⟨_, (hq.registerBytes m.numbers a size .external site).refines,
      hnull.registerBytes m.numbers a size .external site⟩ }

/-- So does every operation. -/
theorem perform (h : m.WellFormed) (c : Command) : (m.perform c).2.WellFormed := by
  cases hs : c.isStructural with
  | true =>
    cases c with
    | createPool => exact h.createPool
    | destroyPool id => exact h.destroyPool id
    | registerExternal a size site => exact h.registerExternal a size site
    | announce f => exact { h with }
    | _ => cases hs
  | false =>
    -- whatever else is done is done by the pool that the operation names
    exact (h.afterPool c).tracks (m.perform_tracks hs)

/-- So does every run. -/
theorem performAll (h : m.WellFormed) (cs : List Command) : (m.performAll cs).2.WellFormed := by
  induction cs generalizing m with
  | nil => exact h
  | cons c rest ih => exact ih (h.perform c)

end WellFormed

end Monitor

end MemorySentry
