import MemorySentry.Pool.Registration
import MemorySentry.Proofs.Pool.Storage

/-!
# The objects that a registration takes in

The loop of a registration takes the lowest live object that overlaps the new one, which may have
grown since. Growing brings no further objects in, because what it adds belongs to an object that
was taken already. So the loop is a fold over the objects that overlap the span from the start
(`absorb_eq`), and the fold is known in closed form (`foldl_take`).
-/

namespace MemorySentry.Pool

open SpanMap

/-- A registration after it took in an object. -/
def Intake.take (kind : ObjectKind) (intake : Intake) (o : Object) : Intake :=
  if kind.merges && o.kind.merges then
    { intake with object := { o with span := intake.object.span.hull o.span }, merged := true }
  else
    { intake with previous := some o }

/-- What a registration says that it did. -/
def Intake.registration (intake : Intake) : Registration :=
  if intake.merged then .merged intake.object.span
  else match intake.previous with
    | some previous => .replaced intake.object.span previous
    | none => .inserted intake.object.span

/-- An object that is apart from the one taken in overlaps the intake after it as before. -/
theorem Intake.overlaps_take {kind : ObjectKind} {intake : Intake} {o e : Object}
    (hov : o.span.overlaps intake.object.span = true) (hoff : e.span.overlaps o.span = false) :
    e.span.overlaps (intake.take kind o).object.span = e.span.overlaps intake.object.span := by
  unfold take
  split
  · rw [Span.overlaps_comm] at hov
    rw [Bool.eq_iff_iff, Span.overlaps_hull_iff hov, hoff]
    simp
  · rfl

/-- The other objects of a list overlap the intake after it took one of them in as they did
before. -/
theorem Intake.overlaps_take_of_mem (kind : ObjectKind) {intake : Intake} {os : List Object}
    (h : Apart os) {o : Object} (ho : o ∈ os)
    (hov : o.span.overlaps intake.object.span = true) :
    ∀ e ∈ os.filter fun e => e.span ≠ o.span,
      e.span.overlaps (intake.take kind o).object.span = e.span.overlaps intake.object.span := by
  intro e he
  obtain ⟨hmem, hne⟩ := List.mem_filter.mp he
  refine Intake.overlaps_take hov ?_
  rw [← Bool.not_eq_true]
  intro hov'
  simp [h.eq_of_overlaps hmem ho hov'] at hne

/-- The loop folds over the objects that overlap the new one at the start. -/
theorem absorb_eq {m : SpanMap Object} {os : List Object} (h : m.Lists os) (kind : ObjectKind)
    (n : Nat) (intake : Intake)
    (hn : (os.filter fun o => o.span.overlaps intake.object.span).length < n) :
    ∃ m', absorb kind n m intake =
        (m', (os.filter fun o => o.span.overlaps intake.object.span).foldl (Intake.take kind)
          intake) ∧
      m'.Lists (os.filter fun o => !o.span.overlaps intake.object.span) := by
  induction n generalizing m os intake with
  | zero => omega
  | succ n ih =>
    obtain ⟨m₁, hsearch, hlists⟩ := h.firstOverlapping intake.object.span
    rw [absorb, hsearch]
    cases hfind : os.find? fun o => o.span.overlaps intake.object.span with
    | none =>
      obtain ⟨hnil, hall⟩ := filter_of_find?_eq_none hfind
      rw [hnil, hall]
      exact ⟨m₁, rfl, hlists⟩
    | some o =>
      have hmem := List.mem_of_find?_eq_some hfind
      obtain ⟨hov, -⟩ := List.find?_eq_some_iff_append.mp hfind
      obtain ⟨m₂, hremove, hlists'⟩ := hlists.remove hmem
      obtain ⟨hhit, hrest⟩ := filter_of_find? h.apart hfind
      -- the others are apart from the object taken in, so they overlap the grown one as before
      have hsame := Intake.overlaps_take_of_mem kind h.apart hmem hov
      have hfilter := List.filter_congr hsame
      have hfilter' := List.filter_congr fun e he => congrArg Bool.not (hsame e he)
      rw [hhit, List.length_cons] at hn
      obtain ⟨m', habsorb, hlists''⟩ := ih hlists' (intake.take kind o) (by rw [hfilter]; omega)
      rw [hfilter] at habsorb
      rw [hfilter'] at hlists''
      refine ⟨m', ?_, by rw [hrest]; exact hlists''⟩
      rw [hhit, List.foldl_cons, ← habsorb]
      simp only [Option.map_some, Object.entry, hremove, Intake.take]
      split <;> rfl

/-- An object widened to the hull of a span and of the objects that it was merged with. -/
def widened (fresh : Object) (members : List Object) : Object :=
  match members.getLast? with
  | some o => { o with span := hullOf fresh.span members }
  | none => fresh

/-- A widened object has the hull of the spans that it grew by. -/
theorem widened_span (fresh : Object) (members : List Object) :
    (widened fresh members).span = hullOf fresh.span members := by
  unfold widened
  cases hlast : members.getLast? with
  | none =>
    rw [List.getLast?_eq_none_iff] at hlast
    rw [hlast]
    rfl
  | some o => rfl

/-- What a registration has taken in after some objects. -/
theorem foldl_take (kind : ObjectKind) (fresh : Object) (os : List Object) :
    os.foldl (Intake.take kind) { object := fresh } =
      { object := widened fresh (os.filter fun o => kind.merges && o.kind.merges)
        merged := !(os.filter fun o => kind.merges && o.kind.merges).isEmpty
        previous := (os.filter fun o => !(kind.merges && o.kind.merges)).getLast? } := by
  induction os using List.reverseRecOn with
  | nil => rfl
  | append_singleton os o ih =>
    rw [List.foldl_append, ih, List.foldl_cons, List.foldl_nil, Intake.take, List.filter_append,
      List.filter_append]
    by_cases hmerges : (kind.merges && o.kind.merges) = true
    · -- the object is the last member, and the hull grows by it
      have hspan : ∀ xs, hullOf fresh.span (xs ++ [o]) = (hullOf fresh.span xs).hull o.span := by
        intro xs
        rw [hullOf, List.foldl_append]
        rfl
      simp only [widened_span, List.filter_cons, hmerges, List.filter_nil, Bool.not_true, if_true]
      simp [widened, hspan]
    · -- the object is dropped, and it is the last one that was
      rw [Bool.not_eq_true] at hmerges
      simp only [List.filter_cons, hmerges, List.filter_nil, Bool.not_false, if_true]
      simp

end MemorySentry.Pool
