import MemorySentry.Proofs.Monitor.Alerts
import MemorySentry.Proofs.Monitor.WellFormed
import MemorySentry.Proofs.Pool.Equivalence

/-!
# Every monitor that a program can come to

A program works on a pool through the monitor, but it can also get hold of the pool and work on it
without the monitor. `Reachable` allows for both. What holds of every monitor so reached:

- `Reachable.wellFormed`: what also holds after every run of the monitor alone;
- `Reachable.holdsExternal`: no object from outside is retained, none has the null address, and all
  of them are of the kind that they were registered with;
- `Reachable.allPools`: what a new pool has and every operation on a pool keeps, all pools have.

For instance no pool retains an object that has the null address (`LinearPool.SparesNull`): a span
that begins there can be registered, but a free of the null address does nothing.
-/

namespace MemorySentry

namespace LinearPool

/-- No retained object has the null address. -/
def SparesNull (q : LinearPool) : Prop :=
  ∀ o ∈ q.retained, o.span.contains 0 = false

namespace SparesNull

variable {q : LinearPool}

/-- A pool without objects has none at the null address. -/
theorem empty (retention : Retention) : SparesNull { retention } := by
  simp [SparesNull]

/-- No object is retained at the null address. -/
theorem retainedAt_null (h : q.SparesNull) : q.retainedAt 0 = none :=
  covering_eq_none_iff.mpr h

/-- Nothing is registered at the null address. -/
theorem registerBytes (h : q.SparesNull) (numbers : Numbering) (a : Address) (size : ByteCount)
    (kind : ObjectKind) (site : Option Site) :
    (q.registerBytes numbers a size kind site).2.1.SparesNull := by
  rcases q.registerBytes_cases numbers a size kind site with ⟨s, -, heq⟩ | heq
  · -- a registration only takes retained objects away
    rw [heq]
    exact fun o ho => h o (List.mem_of_mem_filter ho)
  · rw [heq]
    exact h

/-- A free puts nothing there. -/
theorem free (h : q.SparesNull) (numbers : Numbering) (a : Address) (site : Option Site) :
    (q.free numbers a site).2.1.SparesNull := by
  rcases q.free_cases numbers a site with ⟨-, heq⟩ | ⟨ha, o, -, -, hbase, heq⟩ | ⟨v, heq⟩
  · rw [heq]
    exact h
  · rw [heq]
    intro r hr
    rcases List.mem_append.mp ((newest_sublist _ _).subset hr) with hold | hfreed
    · exact h r hold
    · -- the freed object is based at the address of the free
      rw [List.mem_singleton.mp hfreed]
      exact contains_null_of_start_ne (hbase ▸ ha)
  · rw [heq]
    exact h

/-- Nor does a move. -/
theorem move (h : q.SparesNull) (numbers : Numbering) (new old : Address) (size : ByteCount)
    (kind : ObjectKind) (site : Option Site) :
    (q.move numbers new old size kind site).2.1.SparesNull := by
  unfold LinearPool.move
  split
  · exact h
  · have hfreed := h.free numbers old site
    rcases hfree : q.free numbers old site with ⟨v | freed, q', numbers'⟩ <;> rw [hfree] at hfreed
    · exact hfreed
    · exact hfreed.registerBytes numbers' new size kind site

/-- Every operation keeps it. -/
theorem perform (h : q.SparesNull) (numbers : Numbering) (c : Pool.Command) :
    (q.perform numbers c).2.1.SparesNull := by
  cases c with
  | register s kind site => exact fun o ho => h o (List.mem_of_mem_filter ho)
  | registerBytes a size kind site => exact h.registerBytes numbers a size kind site
  | free a site => exact h.free numbers a site
  | endScope a =>
    simp only [LinearPool.perform, endScope_eq]
    exact h
  | move new old size kind site => exact h.move numbers new old size kind site
  | reset => exact empty q.retention
  | checkAccess | checkAlignment | checkArithmetic | objectAt | retainedAt | objects | stats =>
    exact h

end SparesNull

/-- What a pool is in which nothing is registered but objects from outside. -/
structure HoldsExternal (q : LinearPool) : Prop where
  avoidsNull : q.AvoidsNull
  retained : q.retained = []
  kind : ∀ o ∈ q.live, o.kind = .external

namespace HoldsExternal

variable {q : LinearPool}

/-- Without objects from outside, all are as they have to be. -/
theorem empty : HoldsExternal { retention := .immediate } where
  avoidsNull := fun o ho => by cases ho
  retained := rfl
  kind := fun o ho => by cases ho

/-- Memory that is registered from outside is of the kind for it, and not at the null address. -/
theorem registerBytes (h : q.HoldsExternal) (numbers : Numbering) (a : Address) (size : ByteCount)
    (site : Option Site) : (q.registerBytes numbers a size .external site).2.1.HoldsExternal := by
  have hnull := h.avoidsNull.registerBytes numbers a size .external site
  rcases q.registerBytes_cases numbers a size .external site with ⟨s, -, heq⟩ | heq
  · rw [heq] at hnull ⊢
    refine ⟨hnull, ?_, ?_⟩
    · -- nothing is retained that the registration could take away
      exact List.filter_eq_nil_iff.mpr fun o ho => by simp [h.retained] at ho
    · intro o ho
      rcases mem_register_live.mp ho with rfl | ⟨hold, -⟩
      · rcases q.newcomer_cases numbers s .external site with ⟨o, ho, hnew⟩ | hnew
        · rw [hnew]
          exact h.kind o (mem_members.mp ho).1.1
        · rw [hnew]
      · exact h.kind o hold
  · rw [heq]
    exact h

end HoldsExternal

end LinearPool

namespace Monitor

/-- What a new pool has and every operation on a pool keeps, every operation keeps of all pools. -/
theorem AllPools.perform {P : Pool → Prop} {m : Monitor} (h : m.AllPools P)
    (hnew : ∀ retention, P { retention })
    (hkeeps : ∀ {p : Pool}, P p → ∀ (numbers : Numbering) (c : Pool.Command),
      P (p.perform numbers c).2.1)
    (hm : m.Numbered) (c : Command) : (m.perform c).2.AllPools P := by
  cases hs : c.isStructural with
  | true =>
    cases c with
    | createPool => exact h.createPool hnew hm
    | destroyPool named => exact h.destroyPool named
    | registerExternal a size site =>
      obtain ⟨numbers, counters, heq⟩ := m.registerExternal_eq a size site
      show (m.registerExternal a size site).2.AllPools P
      rw [heq]
      exact h
    | announce f => exact h
    | _ => cases hs
  | false =>
    -- the pools are those after what the operation asks of the pool that it names
    have hafter : (m.afterPool c).AllPools P := by
      unfold afterPool
      split
      · exact h
      · exact h.onPool hkeeps _ _
    intro id p hp
    rw [(m.perform_tracks hs).pools] at hp
    exact hafter id p hp

/-- The monitors that a program can come to from a new one: by operations of the monitor, and by
operations on a pool that it has got hold of, of which the monitor learns nothing. -/
inductive Reachable (settings : Settings) (sink : Sink) : Monitor → Prop
  | start (page : UInt64) : Reachable settings sink (Monitor.start settings sink page)
  | perform {m : Monitor} (h : Reachable settings sink m) (c : Command) :
      Reachable settings sink (m.perform c).2
  | onPool {m : Monitor} (h : Reachable settings sink m) (id : PoolId) (c : Pool.Command) :
      Reachable settings sink (m.onPool id c)

namespace Reachable

variable {settings : Settings} {sink : Sink} {m : Monitor}

/-- What a run of the monitor alone reaches is among them. -/
theorem performAll (h : Reachable settings sink m) (cs : List Command) :
    Reachable settings sink (m.performAll cs).2 := by
  induction cs generalizing m with
  | nil => exact h
  | cons c rest ih => exact ih (h.perform c)

/-- Every monitor that can be come to is well formed. -/
theorem wellFormed (h : Reachable settings sink m) : m.WellFormed := by
  induction h with
  | start page => exact wellFormed_start settings sink page
  | perform _ c ih => exact ih.perform c
  | onPool _ id c ih => exact ih.onPool id c

/-- The settings stay the same. -/
theorem settings_eq (h : Reachable settings sink m) : m.settings = settings := by
  induction h with
  | start => rfl
  | @perform m _ c ih => exact (m.perform_settings c).1.trans ih
  | @onPool m _ id c ih => exact (m.sameApartFromPools_onPool id c).settings.trans ih

/-- Nothing but objects from outside is registered among the objects from outside. -/
theorem holdsExternal (h : Reachable settings sink m) :
    m.ExternalPool LinearPool.HoldsExternal := by
  induction h with
  | start => exact ⟨_, Pool.refines_empty .immediate, .empty⟩
  | perform _ c ih => exact ih.perform (fun hq => hq.registerBytes) c
  | @onPool m _ id c ih =>
    have hsame := (m.sameApartFromPools_onPool id c).external
    obtain ⟨q, hq, hholds⟩ := ih
    exact ⟨q, hsame ▸ hq, hholds⟩

/-- What a new pool has and every operation on a pool keeps, all pools have. -/
theorem allPools {P : Pool → Prop} (hnew : ∀ retention, P { retention })
    (hkeeps : ∀ {p : Pool}, P p → ∀ (numbers : Numbering) (c : Pool.Command),
      P (p.perform numbers c).2.1)
    (h : Reachable settings sink m) : m.AllPools P := by
  induction h with
  | start => exact fun id p hp => by cases hp
  | perform hm c ih => exact ih.perform hnew hkeeps hm.wellFormed.numbered c
  | onPool _ id c ih => exact ih.onPool hkeeps id c

/-- No pool retains an object that has the null address. -/
theorem sparesNull (h : Reachable settings sink m) :
    m.AllPools fun p => ∃ q, p.Refines q ∧ q.SparesNull := by
  refine h.allPools ?_ ?_
  · intro retention
    exact ⟨_, Pool.refines_empty retention, .empty retention⟩
  · rintro p ⟨q, hq, hspares⟩ numbers c
    exact ⟨_, (Pool.perform_refines hq numbers c).2.1, hspares.perform numbers c⟩

end Reachable

end Monitor

end MemorySentry
