import MemorySentry.Proofs.Span
import MemorySentry.SpanMap.Sorted
import Mathlib.Data.List.Basic

/-!
# Ascending lists of spans

The entries of a `SpanList` are `Ascending`: each span ends before the next one starts. In such a
list at most one entry covers an address, and what the list answers to a look-up depends only on the
entries next to the address. The lemmas state this for a list that is split at an entry whose
predecessors lie below an address and whose successors lie above it, which is how a search tree
presents the list.
-/

namespace MemorySentry.SpanMap

variable {α : Type}

/-- Each span ends before all later ones start. -/
def Ascending (entries : List (Span × α)) : Prop :=
  entries.Pairwise fun e e' => e.1.Before e'.1

namespace Ascending

theorem nil : Ascending ([] : List (Span × α)) := List.Pairwise.nil

/-- Two lists are in ascending order together if each is and all of one lie before all of the
other. -/
theorem append_iff {low high : List (Span × α)} :
    Ascending (low ++ high) ↔
      Ascending low ∧ Ascending high ∧ ∀ e ∈ low, ∀ e' ∈ high, e.1.Before e'.1 :=
  List.pairwise_append

/-- One entry more in front is in order if it lies before all others. -/
theorem cons_iff {e : Span × α} {high : List (Span × α)} :
    Ascending (e :: high) ↔ (∀ e' ∈ high, e.1.Before e'.1) ∧ Ascending high :=
  List.pairwise_cons

/-- Some of the entries are in order as well. -/
theorem filter {entries : List (Span × α)} (h : Ascending entries) (p : Span × α → Bool) :
    Ascending (entries.filter p) :=
  List.Pairwise.filter p h

/-- Two entries that share an address are the same. -/
theorem eq_of_overlaps {entries : List (Span × α)} (h : Ascending entries) {e e' : Span × α}
    (he : e ∈ entries) (he' : e' ∈ entries) (hov : e.1.overlaps e'.1 = true) : e = e' := by
  induction entries with
  | nil => cases he
  | cons first rest ih =>
    obtain ⟨hfirst, hrest⟩ := cons_iff.mp h
    -- the first entry is before all others, so it overlaps none of them
    rcases List.mem_cons.mp he with rfl | hmem <;> rcases List.mem_cons.mp he' with rfl | hmem'
    · rfl
    · rw [(hfirst e' hmem').overlaps_eq_false] at hov
      cases hov
    · rw [Span.overlaps_comm, (hfirst e hmem).overlaps_eq_false] at hov
      cases hov
    · exact ih hrest hmem hmem'

end Ascending

/-! ### Placing an entry -/

/-- To place an entry adds it and nothing else. -/
theorem place_perm (s : Span) (v : α) (entries : List (Span × α)) :
    (SpanList.place s v entries).Perm ((s, v) :: entries) := by
  induction entries with
  | nil => exact List.Perm.refl _
  | cons e rest ih =>
    unfold SpanList.place
    split
    · exact List.Perm.refl _
    · exact (ih.cons e).trans (List.Perm.swap _ _ _)

/-- An entry is there afterwards if it is the new one or was there. -/
theorem mem_place {s : Span} {v : α} {entries : List (Span × α)} {e : Span × α} :
    e ∈ SpanList.place s v entries ↔ e = (s, v) ∨ e ∈ entries := by
  rw [(place_perm s v entries).mem_iff, List.mem_cons]

/-- Placing a span that overlaps no other keeps the order. -/
theorem Ascending.place {entries : List (Span × α)} (h : Ascending entries) {s : Span} (v : α)
    (hfree : ∀ e ∈ entries, e.1.overlaps s = false) : Ascending (SpanList.place s v entries) := by
  induction entries with
  | nil => exact List.pairwise_singleton _ _
  | cons first rest ih =>
    obtain ⟨hfirst, hrest⟩ := cons_iff.mp h
    unfold SpanList.place
    split
    case isTrue hlt =>
      -- the span goes in front, and what is after the first entry is after the span as well
      have hoff : s.overlaps first.1 = false := by
        rw [Span.overlaps_comm]
        exact hfree first (by simp)
      have hbefore : s.Before first.1 := .of_start_le hoff (UInt64.le_of_lt hlt)
      refine cons_iff.mpr ⟨?_, h⟩
      intro e he
      rcases List.mem_cons.mp he with rfl | hmem
      · exact hbefore
      · exact hbefore.trans (hfirst e hmem)
    case isFalse hle =>
      have hbefore : first.1.Before s :=
        .of_start_le (hfree first (by simp)) (UInt64.not_lt.mp hle)
      refine cons_iff.mpr ⟨?_, ih hrest fun e he => hfree e (List.mem_cons_of_mem first he)⟩
      intro e he
      rcases mem_place.mp he with rfl | hmem
      · exact hbefore
      · exact hfirst e hmem

/-- A span is placed between the lower and the higher ones. -/
theorem place_append {s : Span} {v : α} {low high : List (Span × α)}
    (hlow : ∀ e ∈ low, e.1.start ≤ s.start) (hhigh : ∀ e ∈ high, s.start < e.1.start) :
    SpanList.place s v (low ++ high) = low ++ (s, v) :: high := by
  induction low with
  | nil =>
    cases high with
    | nil => rfl
    | cons e rest => exact if_pos (hhigh e (by simp))
  | cons e rest ih =>
    have hle : ¬ s.start < e.1.start := UInt64.not_lt.mpr (hlow e (by simp))
    rw [List.cons_append, SpanList.place, if_neg hle,
      ih fun e' he' => hlow e' (List.mem_cons_of_mem e he'), List.cons_append]

/-! ### Look-ups in a list that is split around an address -/

/-- What lies below an address does not cover it. -/
theorem find?_contains_low {a : Address} {low : List (Span × α)} (hlow : ∀ e ∈ low, e.1.stop ≤ a) :
    (low.find? fun e => e.1.contains a) = none := by
  rw [List.find?_eq_none]
  intro e he hmem
  exact UInt64.not_le.mpr (Span.contains_iff.mp hmem).2 (hlow e he)

/-- What starts after an address does not cover it. -/
theorem find?_contains_high {a : Address} {high : List (Span × α)}
    (hhigh : ∀ e ∈ high, a < e.1.start) : (high.find? fun e => e.1.contains a) = none := by
  rw [List.find?_eq_none]
  intro e he hmem
  exact UInt64.not_le.mpr (hhigh e he) (Span.contains_iff.mp hmem).1

/-- Only the entry at which the list is split can cover the address. -/
theorem find?_contains_split {a : Address} {low high : List (Span × α)} (e : Span × α)
    (hlow : ∀ e ∈ low, e.1.stop ≤ a) (hhigh : ∀ e ∈ high, a < e.1.start) :
    ((low ++ e :: high).find? fun e => e.1.contains a) =
      if e.1.contains a then some e else none := by
  rw [List.find?_append, find?_contains_low hlow, Option.none_or, List.find?_cons,
    find?_contains_high hhigh]
  split <;> simp_all

/-- What ends before a span starts does not overlap it. -/
theorem find?_overlaps_low {s : Span} {low : List (Span × α)}
    (hlow : ∀ e ∈ low, e.1.stop ≤ s.start) : (low.find? fun e => e.1.overlaps s) = none := by
  rw [List.find?_eq_none]
  intro e he hov
  have hbefore : e.1.Before s := hlow e he
  rw [hbefore.overlaps_eq_false] at hov
  cases hov

/-- Of the entries that start after the first byte of a span, the lowest overlaps it if any does. -/
theorem find?_overlaps_high {s : Span} {high : List (Span × α)} (hasc : Ascending high)
    (hhigh : ∀ e ∈ high, s.start < e.1.start) :
    (high.find? fun e => e.1.overlaps s) = high.head?.filter fun e => e.1.overlaps s := by
  cases high with
  | nil => rfl
  | cons e rest =>
    rw [List.find?_cons, List.head?_cons, Option.filter_some]
    split
    case h_1 hov => rw [if_pos hov]
    case h_2 hov =>
      rw [hov, if_neg Bool.false_ne_true, List.find?_eq_none]
      intro e' he' hov'
      -- `s` ends before the lowest entry starts, so before all others
      rw [Span.overlaps_comm] at hov
      have hbefore : s.Before e.1 := .of_start_le hov (UInt64.le_of_lt (hhigh e (by simp)))
      have hbefore' := hbefore.trans ((Ascending.cons_iff.mp hasc).1 e' he')
      rw [Span.overlaps_comm, hbefore'.overlaps_eq_false] at hov'
      cases hov'

/-- Filtering out the entry at which a list is split. -/
theorem filter_split {p : Span × α → Bool} {low high : List (Span × α)} {e : Span × α}
    (he : p e = false) (hlow : ∀ e ∈ low, p e = true) (hhigh : ∀ e ∈ high, p e = true) :
    (low ++ e :: high).filter p = low ++ high := by
  rw [List.filter_append, List.filter_cons, he, List.filter_eq_self.mpr hlow,
    List.filter_eq_self.mpr hhigh]
  rfl

end MemorySentry.SpanMap
