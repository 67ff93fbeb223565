import Mathlib.Data.List.Nodup
import MemorySentry.Program.Startup

/-!
# One monitor for a program

However often a thread asks for the monitor of its program while one is being made, at most one call
puts a monitor in place, and no other monitor ever takes its place (`monitor_of_reachable`). An
event has few things to do (`State.step_becomes`), each of which keeps `State.Sound`.

From when a call has begun to put its monitor in place, calls from within it get none. Until then
they begin to make monitors of their own (`nested_ask_makes`), and there is no end to how many can
be under way.
-/

namespace MemorySentry.Startup

/-- The monitor that a call deals with. -/
def Frame.id : Frame → MonitorId
  | .making id | .placing id => id

/-- Whether a call puts a monitor in place. -/
def Frame.isPlacing : Frame → Bool
  | .making _ => false
  | .placing _ => true

namespace State

/-! ### What an event can do -/

section

variable {s : State}

/-- Who asks first begins a monitor. -/
theorem ask_of_absent (h : s.phase = .absent) : s.step .ask = s.begin := by
  simp only [step, h]

/-- Who asks while the monitor is put in place gets none. -/
theorem ask_of_installing (h : s.phase = .installing) : s.step .ask = (.absent, s) := by
  simp only [step, h]

/-- Who asks afterwards gets the monitor in place. -/
theorem ask_of_ready (h : s.phase = .ready) : s.step .ask = (.monitor s.monitor, s) := by
  simp only [step, h]

end

/-- The states that an event can lead to. -/
inductive Becomes (s : State) : State → Prop
  | same : Becomes s s
  /-- A call begins to make a monitor. -/
  | begun : Becomes s s.begin.2
  /-- A call has made a monitor in vain. -/
  | givenUp {id : MonitorId} {frames : List Frame} (hframes : s.frames = .making id :: frames) :
    Becomes s { s with frames }
  /-- A call has made the first monitor. -/
  | placing {id : MonitorId} {frames : List Frame} (hphase : s.phase = .absent)
      (hframes : s.frames = .making id :: frames) :
    Becomes s { s with phase := .installing, frames := .placing id :: frames }
  /-- A monitor is in place. -/
  | installed {id : MonitorId} {frames : List Frame} (hframes : s.frames = .placing id :: frames) :
    Becomes s { s with phase := .ready, monitor := some id, frames }

/-- Every event leads to one of the states that it can lead to. -/
theorem step_becomes (s : State) (e : Event) : s.Becomes (s.step e).2 := by
  cases e with
  | ask =>
    -- a call is begun unless there is a monitor or one is being put in place
    rcases hphase : s.phase with _ | _ | _
    · rw [ask_of_absent hphase]
      exact .begun
    · rw [ask_of_installing hphase]
      exact .same
    · rw [ask_of_ready hphase]
      exact .same
  | configure => exact .begun
  | proceed =>
    simp only [step]
    split
    · exact .same
    · next id frames hframes =>
      split
      · next hphase => exact .placing hphase hframes
      · exact .givenUp hframes
    · next id frames hframes => exact .installed hframes

/-- Once a monitor has begun to be put in place it is never again said that there is none to
come. -/
theorem Becomes.phase_ne_absent {s s' : State} (h : s.Becomes s') (hphase : s.phase ≠ .absent) :
    s'.phase ≠ .absent := by
  cases h with
  | same | begun | givenUp => exact hphase
  | placing | installed => exact Phase.noConfusion

/-! ### What every event keeps -/

/-- What is so of every state that a thread can come to. -/
structure Sound (s : State) : Prop where
  ready_iff : s.phase = .ready ↔ s.monitor.isSome = true
  /-- One call puts a monitor in place if there is none yet and one is to come, and no call does
  otherwise. -/
  placing : s.frames.countP Frame.isPlacing = if s.phase = .installing then 1 else 0
  made : ∀ id ∈ s.monitor.toList ++ s.frames.map Frame.id, id < s.made
  /-- The monitor in place is not given up by a call that made one in vain, and no two calls deal
  with the same monitor. -/
  distinct : (s.monitor.toList ++ s.frames.map Frame.id).Nodup

/-- A thread on which nothing has happened is sound. -/
theorem sound_start : ({} : State).Sound where
  ready_iff := by simp
  placing := rfl
  made := by simp
  distinct := List.nodup_nil

namespace Sound

variable {s : State}

/-- A new call makes a monitor that no other one deals with. -/
theorem begin (h : s.Sound) : s.begin.2.Sound where
  ready_iff := h.ready_iff
  placing := h.placing
  made id hid := by
    have hcases : id = s.made ∨ id ∈ s.monitor.toList ++ s.frames.map Frame.id := by
      simpa [State.begin, Frame.id, or_left_comm] using hid
    show id < s.made + 1
    rcases hcases with rfl | hold
    · exact Nat.lt_succ_self _
    · exact Nat.lt_succ_of_lt (h.made id hold)
  distinct := by
    have hnew : s.made ∉ s.monitor.toList ++ s.frames.map Frame.id := fun hmem =>
      Nat.lt_irrefl _ (h.made _ hmem)
    have hnodup : (s.made :: (s.monitor.toList ++ s.frames.map Frame.id)).Nodup :=
      List.nodup_cons.mpr ⟨hnew, h.distinct⟩
    exact List.perm_middle.nodup_iff.mpr hnodup

/-- A call that made a monitor in vain gives it up. -/
theorem giveUp (h : s.Sound) {id : MonitorId} {frames : List Frame}
    (hframes : s.frames = .making id :: frames) : { s with frames }.Sound where
  ready_iff := h.ready_iff
  placing := by
    rw [← h.placing, hframes]
    rfl
  made id' hid' := h.made id' (by
    rw [hframes]
    simp only [List.map_cons, List.mem_append, List.mem_cons] at hid' ⊢
    tauto)
  distinct := by
    refine h.distinct.sublist ?_
    rw [hframes]
    exact (List.sublist_cons_self _ _).append_left _

/-- There is no monitor in place before all is ready. -/
theorem monitor_eq_none (h : s.Sound) (hphase : s.phase ≠ .ready) : s.monitor = none :=
  Option.not_isSome_iff_eq_none.mp fun hsome => hphase (h.ready_iff.mpr hsome)

/-- A call that has made the first monitor begins to put it in place. -/
theorem beginPlacing (h : s.Sound) (hphase : s.phase = .absent) {id : MonitorId}
    {frames : List Frame} (hframes : s.frames = .making id :: frames) :
    { s with phase := .installing, frames := .placing id :: frames }.Sound where
  ready_iff := by
    rw [h.monitor_eq_none (by rw [hphase]; exact Phase.noConfusion)]
    simp
  placing := by
    have hnone := h.placing
    rw [hframes, hphase] at hnone
    -- the call that went on is the only one
    have hothers : frames.countP Frame.isPlacing = 0 := hnone
    show List.countP Frame.isPlacing (.placing id :: frames) = 1
    rw [List.countP_cons_of_pos rfl, hothers]
  made := by
    have hmade := h.made
    rw [hframes] at hmade
    exact hmade
  distinct := by
    have hdistinct := h.distinct
    rw [hframes] at hdistinct
    exact hdistinct

/-- A call puts its monitor in place only while there is none. -/
theorem installing_of_placing (h : s.Sound) {id : MonitorId} {frames : List Frame}
    (hframes : s.frames = .placing id :: frames) :
    s.phase = .installing ∧ frames.countP Frame.isPlacing = 0 := by
  have hplacing := h.placing
  rw [hframes, List.countP_cons_of_pos rfl] at hplacing
  split at hplacing
  · next hphase => exact ⟨hphase, Nat.succ.inj hplacing⟩
  · cases hplacing

/-- The monitor that a call puts in place is there when the call is done. -/
theorem install (h : s.Sound) {id : MonitorId} {frames : List Frame}
    (hframes : s.frames = .placing id :: frames) :
    { s with phase := .ready, monitor := some id, frames }.Sound := by
  obtain ⟨hphase, hcount⟩ := h.installing_of_placing hframes
  have hnone := h.monitor_eq_none (by rw [hphase]; exact Phase.noConfusion)
  have hsame : s.monitor.toList ++ s.frames.map Frame.id = id :: frames.map Frame.id := by
    rw [hnone, hframes]
    rfl
  have hmade := h.made
  have hdistinct := h.distinct
  rw [hsame] at hmade hdistinct
  exact
    { ready_iff := by simp
      placing := hcount
      made := hmade
      distinct := hdistinct }

/-- Every event keeps a thread sound. -/
theorem step (h : s.Sound) (e : Event) : (s.step e).2.Sound := by
  have hcases := s.step_becomes e
  generalize (s.step e).2 = s' at hcases ⊢
  cases hcases with
  | same => exact h
  | begun => exact h.begin
  | givenUp hframes => exact h.giveUp hframes
  | placing hphase hframes => exact h.beginPlacing hphase hframes
  | installed hframes => exact h.install hframes

/-- A monitor that is in place stays there. -/
theorem step_monitor (h : s.Sound) {id : MonitorId} (hid : s.monitor = some id) (e : Event) :
    (s.step e).2.monitor = some id := by
  have hcases := s.step_becomes e
  generalize (s.step e).2 = s' at hcases ⊢
  cases hcases with
  | same | begun | givenUp | placing => exact hid
  | installed hframes =>
    -- no call puts another one in place
    have hphase := (h.installing_of_placing hframes).1
    have hready : s.phase = .ready := h.ready_iff.mpr (by rw [hid]; rfl)
    rw [hready] at hphase
    cases hphase

end Sound

end State

/-! ### Runs -/

/-- Every state that a thread can come to is sound. -/
theorem Reachable.sound {s : State} (h : Reachable s) : s.Sound := by
  induction h with
  | start => exact State.sound_start
  | step e _ ih => exact ih.step e

/-- No event leads away from a monitor in place. -/
theorem Reachable.run_monitor {s : State} (h : Reachable s) {id : MonitorId}
    (hid : s.monitor = some id) (es : List Event) : (s.run es).monitor = some id := by
  induction es generalizing s with
  | nil => exact hid
  | cons e rest ih => exact ih (h.step e) (h.sound.step_monitor hid e)

/-- A thread on which no more calls come is done with those that are under way. -/
theorem exists_run_proceed_done (s : State) :
    ∃ n, (s.run (List.replicate n .proceed)).frames = [] := by
  -- the innermost call is done first, after one or two steps
  generalize hframes : s.frames = frames
  induction frames generalizing s with
  | nil => exact ⟨0, hframes⟩
  | cons f rest ih =>
    have hplacing : ∀ s : State, ∀ id, s.frames = .placing id :: rest →
        ∃ n, (s.run (List.replicate n .proceed)).frames = [] := fun s id hs => by
      obtain ⟨n, hn⟩ := ih (s.step .proceed).2 (by simp only [State.step, hs])
      exact ⟨n + 1, hn⟩
    cases f with
    | placing id => exact hplacing s id hframes
    | making id =>
      by_cases hphase : s.phase = .absent
      · -- the call has two more things to do
        obtain ⟨n, hn⟩ := hplacing (s.step .proceed).2 id
          (by simp only [State.step, hframes, if_pos hphase])
        exact ⟨n + 1, hn⟩
      · obtain ⟨n, hn⟩ := ih (s.step .proceed).2 (by simp only [State.step, hframes, if_neg hphase])
        exact ⟨n + 1, hn⟩

/-- What was begun stays begun. -/
theorem phase_run_ne_absent {s : State} (hphase : s.phase ≠ .absent) (es : List Event) :
    (s.run es).phase ≠ .absent := by
  induction es generalizing s with
  | nil => exact hphase
  | cons e rest ih => exact ih ((s.step_becomes e).phase_ne_absent hphase)

/-- A thread that has come to a state can come to all that follows. -/
theorem Reachable.run {s : State} (h : Reachable s) (es : List Event) : Reachable (s.run es) := by
  induction es generalizing s with
  | nil => exact h
  | cons e rest ih => exact ih (h.step e)

/-- When the calls that are under way are done there is a monitor in place. -/
theorem Reachable.exists_run_ready {s : State} (h : Reachable s) (hframes : s.frames ≠ []) :
    ∃ n, (s.run (List.replicate n .proceed)).frames = [] ∧
      (s.run (List.replicate n .proceed)).phase = .ready := by
  obtain ⟨n, hn⟩ := exists_run_proceed_done s
  refine ⟨n, hn, ?_⟩
  -- a state without calls is not one in which a monitor is being put in place
  have hinstalling : (s.run (List.replicate n .proceed)).phase ≠ .installing := fun hphase => by
    have hplacing := (h.run (List.replicate n .proceed)).sound.placing
    rw [hn, if_pos hphase] at hplacing
    cases hplacing
  have habsent : (s.run (List.replicate n .proceed)).phase ≠ .absent := by
    cases n with
    | zero => exact absurd hn hframes
    | succ n =>
      refine phase_run_ne_absent (s := (s.step .proceed).2) ?_ (List.replicate n .proceed)
      obtain ⟨f, rest, hs⟩ := List.exists_cons_of_ne_nil hframes
      cases f with
      | placing id => simp [State.step, hs]
      | making id =>
        -- it begins to put its monitor in place, unless that has begun before
        by_cases hphase : s.phase = .absent <;> simp [State.step, hs, hphase]
  rcases hphase : (s.run (List.replicate n .proceed)).phase with _ | _ | _
  · exact absurd hphase habsent
  · exact absurd hphase hinstalling
  · rfl

/-- Calls that come one from within the other before a monitor is being put in place all begin to
make one. -/
theorem run_replicate_ask {s : State} (hphase : s.phase = .absent) (n : Nat) :
    ∃ makings, (s.run (List.replicate n .ask)).frames = makings ++ s.frames ∧
      makings.length = n ∧ ∀ f ∈ makings, f.isPlacing = false := by
  induction n generalizing s with
  | zero => exact ⟨[], rfl, rfl, fun f hf => by cases hf⟩
  | succ n ih =>
    obtain ⟨makings, hframes, hlength, hmaking⟩ := @ih s.begin.2 hphase
    have hstep : s.run (List.replicate (n + 1) .ask) = s.begin.2.run (List.replicate n .ask) := by
      rw [List.replicate_succ, State.run, State.ask_of_absent hphase]
    refine ⟨makings ++ [.making s.made], ?_, by simp [hlength], ?_⟩
    · -- the calls from within the first one stand before it
      rw [hstep, hframes]
      simp [State.begin]
    · rw [List.forall_mem_append]
      exact ⟨hmaking, fun f hf => by rw [List.mem_singleton.mp hf]; rfl⟩

/-- In every state that a thread can come to, the monitor is there just if it is said to be, and
then stays for good. At most one call puts a monitor in place, and while it does the calls from
within it get none. As long as no call does, each call begins to make a monitor, however many do
already. When all calls are done there is a monitor in place. -/
theorem monitor_of_reachable {s : State} (h : Reachable s) :
    (s.phase = .ready ↔ s.monitor.isSome = true) ∧
    (∀ id, s.monitor = some id → id < s.made ∧ id ∉ s.frames.map Frame.id ∧
      ∀ es, (s.run es).monitor = some id) ∧
    s.frames.countP Frame.isPlacing = (if s.phase = .installing then 1 else 0) ∧
    (s.phase = .ready → s.step .ask = (.monitor s.monitor, s)) ∧
    (s.phase = .installing → s.step .ask = (.absent, s)) ∧
    (s.phase = .absent → (s.step .ask).1 = .pending ∧
      ∀ n, ∃ makings, (s.run (List.replicate n .ask)).frames = makings ++ s.frames ∧
        makings.length = n ∧ ∀ f ∈ makings, f.isPlacing = false) ∧
    (s.frames ≠ [] → ∃ n, (s.run (List.replicate n .proceed)).frames = [] ∧
      (s.run (List.replicate n .proceed)).phase = .ready) := by
  have hsound := h.sound
  refine ⟨hsound.ready_iff, fun id hid => ?_, hsound.placing, State.ask_of_ready,
    State.ask_of_installing, fun hphase => ⟨?_, run_replicate_ask hphase⟩, h.exists_run_ready⟩
  · -- no call that is under way has the monitor in place to give up
    have hmade := hsound.made id
    have hdistinct := hsound.distinct
    rw [hid] at hmade hdistinct
    exact ⟨hmade (by simp), (List.nodup_cons.mp hdistinct).1, h.run_monitor hid⟩
  · rw [State.ask_of_absent hphase]
    rfl

/-- A call from within another one makes a monitor in vain. -/
theorem monitor_of_reachable_nested :
    let s := ({} : State).run [.ask, .ask, .proceed, .proceed, .proceed]
    Reachable s ∧ s.made = 2 ∧ s.frames = [] ∧ s.monitor = some 1 ∧
      ∀ es, (s.run es).monitor = some 1 := by
  have hreachable : Reachable (({} : State).run [.ask, .ask, .proceed, .proceed, .proceed]) :=
    .step .proceed (.step .proceed (.step .proceed (.step .ask (.step .ask .start))))
  obtain ⟨-, hstays, -⟩ := monitor_of_reachable hreachable
  exact ⟨hreachable, by decide, by decide, by decide, (hstays 1 (by decide)).2.2⟩

/-- A call from within one that makes a monitor does not get none, but makes another monitor. -/
theorem nested_ask_makes :
    let s := ({} : State).run [.ask]
    Reachable s ∧ s.frames = [.making 0] ∧ s.phase ≠ .ready ∧
      (s.step .ask).1 ≠ .absent ∧ (s.step .ask).2.frames = [.making 1, .making 0] :=
  ⟨.step .ask .start, by decide, by decide, by decide, by decide⟩

end MemorySentry.Startup
