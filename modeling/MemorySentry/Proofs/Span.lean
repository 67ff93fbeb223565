import MemorySentry.Span

/-!
# The order of spans

`s.Before t` says that a span ends before another one starts. Two spans share no address exactly
when one of them is before the other, so disjoint spans are totally ordered, and an address that a
span does not contain lies on one side of it.

- `overlaps_eq_false_iff`: spans that share no address are ordered;
- `overlaps_iff_exists_contains`: the comparison of bounds says that an address is shared;
- `contains_hull_iff`: the hull of overlapping spans has no addresses but theirs.
-/

namespace MemorySentry.Span

/-- `s` ends before `t` starts, or where it starts. -/
def Before (s t : Span) : Prop :=
  s.stop ≤ t.start

instance (s t : Span) : Decidable (s.Before t) :=
  inferInstanceAs (Decidable (_ ≤ _))

/-- A span contains the addresses from its start on and before its stop. -/
theorem contains_iff {s : Span} {a : Address} :
    s.contains a = true ↔ s.start ≤ a ∧ a < s.stop := by
  simp [contains]

/-- Spans overlap if each starts before the other stops. -/
theorem overlaps_iff {s t : Span} :
    s.overlaps t = true ↔ s.start < t.stop ∧ t.start < s.stop := by
  simp [overlaps]

/-- An address is below a span if it is before its start. -/
theorem side_eq_below_iff {s : Span} {a : Address} : s.side a = .below ↔ a < s.start := by
  unfold side
  grind

/-- It is above if it is not before its stop. -/
theorem side_eq_above_iff {s : Span} {a : Address} : s.side a = .above ↔ s.stop ≤ a := by
  have hs := s.start_lt_stop
  unfold side
  grind

/-- Two spans share no address exactly when one is before the other. -/
theorem overlaps_eq_false_iff {s t : Span} :
    s.overlaps t = false ↔ s.Before t ∨ t.Before s := by
  unfold overlaps Before
  grind

/-- The comparison of bounds decides whether two spans share an address. -/
theorem overlaps_iff_exists_contains {s t : Span} :
    s.overlaps t = true ↔ ∃ a, s.contains a = true ∧ t.contains a = true := by
  have hs := s.start_lt_stop
  have ht := t.start_lt_stop
  simp only [overlaps_iff, contains_iff]
  constructor
  · rintro ⟨hst, hts⟩
    rcases UInt64.le_total s.start t.start with h | h
    · exact ⟨t.start, ⟨h, hts⟩, UInt64.le_refl _, ht⟩
    · exact ⟨s.start, ⟨UInt64.le_refl _, hs⟩, h, hst⟩
  · rintro ⟨a, ⟨hsa, has⟩, hta, hat⟩
    exact ⟨UInt64.lt_of_le_of_lt hsa hat, UInt64.lt_of_le_of_lt hta has⟩

/-- No bytes make no span. -/
theorem ofLength_zero (start : Address) : ∃ e, ofLength start 0 = .error e := by
  have hadd : Word.add? start 0 = some start := Word.add?_eq_some_iff.mpr rfl
  rw [ofLength, hadd]
  exact ⟨.empty start start, dif_neg (UInt64.lt_irrefl start)⟩

/-- Bytes make a span when there are any and their exact end is still an address. -/
theorem ofLength_eq_ok_iff {start : Address} {length : ByteCount} {s : Span} :
    ofLength start length = .ok s ↔
      s.start = start ∧ s.stop.toNat = start.toNat + length.toNat := by
  unfold ofLength ofBounds
  rw [← Word.add?_eq_some_iff]
  cases hadd : Word.add? start length with
  | none => simp
  | some stop =>
    simp only [Option.some.injEq]
    constructor
    · intro h
      split at h
      · cases h
        exact ⟨rfl, rfl⟩
      · cases h
    · rintro ⟨rfl, rfl⟩
      rw [dif_pos s.start_lt_stop]

/-- Bytes lie in a span when their exact end does. -/
theorem containsBytes_iff {s : Span} {a : Address} {length : ByteCount} :
    s.containsBytes a length = true ↔ s.start ≤ a ∧ a.toNat + length.toNat ≤ s.stop.toNat := by
  unfold containsBytes
  cases hadd : Word.add? a length with
  | some stop =>
    rw [← Word.add?_eq_some_iff.mp hadd, ← UInt64.le_iff_toNat_le]
    simp
  | none =>
    have hsize := Word.add?_eq_none_iff.mp hadd
    have hstop := s.stop.toNat_lt_size
    simp only [Bool.and_false, Bool.false_eq_true, false_iff, not_and]
    omega

/-- No span is empty, so each overlaps itself. -/
theorem overlaps_self (s : Span) : s.overlaps s = true :=
  overlaps_iff.mpr ⟨s.start_lt_stop, s.start_lt_stop⟩

/-- A span overlaps every span that contains one of its addresses. -/
theorem overlaps_of_contains {s t : Span} {a : Address} (hs : s.contains a = true)
    (ht : t.contains a = true) : s.overlaps t = true :=
  overlaps_iff_exists_contains.mpr ⟨a, hs, ht⟩

/-- Spans that start alike overlap. -/
theorem overlaps_of_start_eq {s t : Span} (h : s.start = t.start) : s.overlaps t = true :=
  overlaps_of_contains s.contains_start (h ▸ t.contains_start)

/-- Spans with the same addresses are the same. -/
theorem eq_of_contains_iff {s t : Span} (h : ∀ a, s.contains a = true ↔ t.contains a = true) :
    s = t := by
  have hs := s.start_lt_stop
  have ht := t.start_lt_stop
  simp only [contains_iff] at h
  have hstart : s.start = t.start :=
    UInt64.le_antisymm ((h t.start).mpr ⟨UInt64.le_refl _, ht⟩).1
      ((h s.start).mp ⟨UInt64.le_refl _, hs⟩).1
  -- the address after the shorter span would lie in the longer one
  have hstop : s.stop = t.stop := by
    have h₁ := h s.stop
    have h₂ := h t.stop
    grind
  cases s
  cases t
  simp_all

namespace Before

/-- A span that lies before another one starts before it. -/
theorem start_lt {s t : Span} (h : s.Before t) : s.start < t.start :=
  UInt64.lt_of_lt_of_le s.start_lt_stop h

theorem trans {s t u : Span} (hst : s.Before t) (htu : t.Before u) : s.Before u :=
  UInt64.le_trans hst (UInt64.le_of_lt (UInt64.lt_of_lt_of_le t.start_lt_stop htu))

theorem irrefl (s : Span) : ¬ s.Before s :=
  UInt64.not_le.mpr s.start_lt_stop

theorem ne {s t : Span} (h : s.Before t) : s ≠ t := by
  rintro rfl
  exact irrefl s h

/-- It does not overlap it. -/
theorem overlaps_eq_false {s t : Span} (h : s.Before t) : s.overlaps t = false :=
  overlaps_eq_false_iff.mpr (Or.inl h)

/-- Of two spans that share no address, the one that starts first is before the other. -/
theorem of_start_le {s t : Span} (hov : s.overlaps t = false) (hle : s.start ≤ t.start) :
    s.Before t := by
  rcases overlaps_eq_false_iff.mp hov with hst | hts
  · exact hst
  · exact absurd hts.start_lt (UInt64.not_lt.mpr hle)

end Before

/-- The hull of two overlapping spans consists of the addresses of both. -/
theorem contains_hull_iff {s t : Span} (hov : s.overlaps t = true) {a : Address} :
    (s.hull t).contains a = true ↔ s.contains a = true ∨ t.contains a = true := by
  rw [overlaps_iff] at hov
  simp only [contains_iff, hull]
  grind

/-- A span overlaps the hull of two overlapping spans exactly when it overlaps one of them. -/
theorem overlaps_hull_iff {s t u : Span} (hov : s.overlaps t = true) :
    u.overlaps (s.hull t) = true ↔ u.overlaps s = true ∨ u.overlaps t = true := by
  simp only [overlaps_iff_exists_contains, contains_hull_iff hov]
  constructor
  · rintro ⟨a, hu, hs | ht⟩
    · exact Or.inl ⟨a, hu, hs⟩
    · exact Or.inr ⟨a, hu, ht⟩
  · rintro (⟨a, hu, hs⟩ | ⟨a, hu, ht⟩)
    · exact ⟨a, hu, Or.inl hs⟩
    · exact ⟨a, hu, Or.inr ht⟩

end MemorySentry.Span
