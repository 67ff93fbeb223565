import Mathlib.Data.List.Induction

/-!
# Since an event

A list of events is looked at from its end: something has been the case since an event, because
nothing that undoes it came later. Each event at the end makes it so, undoes it or leaves it.
-/

namespace MemorySentry

variable {α : Type} {starts undoes : α → Prop}

/-- An event started something that no later event has undone. -/
def Since (starts undoes : α → Prop) (events : List α) : Prop :=
  ∃ before e after, events = before ++ e :: after ∧ starts e ∧ ∀ e' ∈ after, ¬ undoes e'

/-- Nothing has started without an event. -/
theorem not_since_nil : ¬ Since starts undoes [] := by
  rintro ⟨before, e, after, heq, -⟩
  cases before <;> cases heq

/-- What is so was started by some event. -/
theorem Since.exists_mem {events : List α} (h : Since starts undoes events) :
    ∃ e ∈ events, starts e := by
  obtain ⟨before, e, after, rfl, hstarts, -⟩ := h
  exact ⟨e, List.mem_append_right before List.mem_cons_self, hstarts⟩

/-- The last event starts something, or it does not undo what an earlier one has started. -/
theorem since_concat {events : List α} {e : α} :
    Since starts undoes (events ++ [e]) ↔ starts e ∨ Since starts undoes events ∧ ¬ undoes e := by
  constructor
  · rintro ⟨before, e', after, heq, hstarts, hkept⟩
    rcases List.eq_nil_or_concat after with rfl | ⟨after', last, rfl⟩
    · obtain ⟨rfl, hlast⟩ := List.append_inj' heq rfl
      cases hlast
      exact .inl hstarts
    · rw [List.concat_eq_append] at heq hkept
      rw [← List.cons_append, ← List.append_assoc] at heq
      obtain ⟨rfl, hlast⟩ := List.append_inj' heq rfl
      cases hlast
      rw [List.forall_mem_append] at hkept
      exact .inr
        ⟨⟨before, e', after', rfl, hstarts, hkept.1⟩, hkept.2 e (List.mem_singleton_self e)⟩
  · rintro (hstarts | ⟨⟨before, e', after, rfl, hstarts, hkept⟩, hundoes⟩)
    · exact ⟨events, e, [], rfl, hstarts, fun e' he' => by cases he'⟩
    · refine ⟨before, e', after ++ [e], by simp, hstarts, ?_⟩
      rw [List.forall_mem_append]
      exact ⟨hkept, fun e'' he'' => List.mem_singleton.mp he'' ▸ hundoes⟩

/-- Events that start nothing can only undo. -/
theorem since_append_iff {events after : List α} (h : ∀ e ∈ after, ¬ starts e) :
    Since starts undoes (events ++ after) ↔
      Since starts undoes events ∧ ∀ e ∈ after, ¬ undoes e := by
  induction after using List.reverseRecOn with
  | nil => simp
  | append_singleton after e ih =>
    rw [List.forall_mem_append] at h
    have hlast : ¬ starts e := h.2 e (List.mem_singleton_self e)
    rw [← List.append_assoc, since_concat, ih h.1, List.forall_mem_append, or_iff_right hlast,
      and_assoc]
    simp

end MemorySentry
