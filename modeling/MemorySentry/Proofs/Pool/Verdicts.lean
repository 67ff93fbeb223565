import MemorySentry.Proofs.Pool.Bytes

/-!
# What a pool says to an access

A pool is asked about an access of some bytes. What it says depends on nothing but the live and the
retained objects and the bytes that they have: not on the shape of its maps, not on what it keeps at
hand, and not on sums that do not fit a word. `Judges` lists the outcomes with their conditions, one
rule for each, and `performAll_judges` says that the check keeps to them in every pool that a run
can reach.
-/

namespace MemorySentry

namespace Word

/-- A clamped sum is the exact one or the largest word. -/
theorem toNat_addClamped (a b : UInt64) :
    (addClamped a b).toNat = min (a.toNat + b.toNat) (UInt64.size - 1) := by
  have hlast : last.toNat = UInt64.size - 1 := rfl
  unfold addClamped
  cases hsum : add? a b with
  | some c =>
    have hc : c.toNat = a.toNat + b.toNat := add?_eq_some_iff.mp hsum
    have hfits : c.toNat < UInt64.size := c.toNat_lt_size
    rw [Option.getD_some, hc]
    omega
  | none =>
    have hsize : UInt64.size ≤ a.toNat + b.toNat := add?_eq_none_iff.mp hsum
    rw [Option.getD_none, hlast]
    omega

end Word

namespace Weakness

/-- What an overflow of an object is called in the Common Weakness Enumeration: number 122 on the
heap, number 121 on the stack, and number 120 elsewhere. -/
def IsOverflowOf (w : Weakness) (kind : ObjectKind) : Prop :=
  (kind = .heap ∨ kind = .custom) ∧ w.id = 122 ∨
    (kind = .stack ∨ kind = .byValue) ∧ w.id = 121 ∨
      (kind = .global ∨ kind = .external) ∧ w.id = 120

/-- Each kind of object has one weakness for its overflows. -/
theorem isOverflowOf_iff {w : Weakness} {kind : ObjectKind} :
    w.IsOverflowOf kind ↔ w = .ofOverflow kind := by
  cases kind <;> cases w <;> simp [IsOverflowOf, id, ofOverflow]

end Weakness

namespace Pool

/-- The kind of the violation in an access that leaves its object. -/
def overflowKind : Access → ViolationKind
  | .read => .outOfBounds
  | .write => .writeOutOfBounds

/-- The outcomes of a check of an access, and when each of them is the right one. -/
inductive Judges (p : Pool) (a : Address) (length : ByteCount) (mode : CheckMode) :
    Except Violation Verdict → Prop
  /-- No byte is accessed. -/
  | empty (hlength : length = 0) : Judges p a length mode (.ok .empty)
  /-- One live object has all bytes of the access. -/
  | inBounds {o : Object} (hlength : length ≠ 0) (ho : o ∈ p.objects)
      (hbytes : accessed a length ⊆ o.span.bytes) :
      Judges p a length mode (.ok (.inBounds o.span))
  /-- A live object has the first byte but not all of them. The violation is at the last byte, or at
  the last byte of the address space. -/
  | overflow {o : Object} {last : Address} {w : Weakness} (hlength : length ≠ 0)
      (ho : o ∈ p.objects) (hfirst : a.toNat ∈ o.span.bytes)
      (hbytes : ¬ accessed a length ⊆ o.span.bytes)
      (hlast : last.toNat = min (a.toNat + length.toNat - 1) (UInt64.size - 1))
      (hweakness : w.IsOverflowOf o.kind) :
      Judges p a length mode (.error
        { kind := overflowKind mode.access, pointer := last, weakness := some w,
          span := some o.span, history := some o })
  /-- The null pointer, which cannot point anywhere. -/
  | uninitialized (hlength : length ≠ 0) (hmiss : ∀ o ∈ p.objects, a.toNat ∉ o.span.bytes)
      (hmode : mode.provenance = .complete) (ha : a = 0) :
      Judges p a length mode (.error { kind := .uninitialized, pointer := a })
  /-- A retained object has the first byte, and the pointer can point to nothing else. -/
  | dangling {r : Object} (hlength : length ≠ 0) (hmiss : ∀ o ∈ p.objects, a.toNat ∉ o.span.bytes)
      (hmode : mode.provenance = .complete) (ha : a ≠ 0) (hr : r ∈ p.retainedObjects)
      (hfirst : a.toNat ∈ r.span.bytes) :
      Judges p a length mode (.error
        { kind := .danglingPointer, pointer := a, span := some r.span, history := some r })
  /-- No object has the first byte, and the pointer can point to nothing else. -/
  | outOfBounds (hlength : length ≠ 0) (hmiss : ∀ o ∈ p.objects, a.toNat ∉ o.span.bytes)
      (hmode : mode.provenance = .complete) (ha : a ≠ 0)
      (hforgotten : ∀ r ∈ p.retainedObjects, a.toNat ∉ r.span.bytes) :
      Judges p a length mode (.error { kind := .outOfBounds, pointer := a })
  /-- A retained object has the first byte, but the pointer may point elsewhere. -/
  | suspect {r : Object} (hlength : length ≠ 0) (hmiss : ∀ o ∈ p.objects, a.toNat ∉ o.span.bytes)
      (hmode : mode.provenance = .incomplete) (hr : r ∈ p.retainedObjects)
      (hfirst : a.toNat ∈ r.span.bytes) :
      Judges p a length mode (.error
        { kind := .suspectAccess, pointer := a, span := some r.span, history := some r })
  /-- No object has the first byte, and the pointer may point elsewhere. -/
  | unknown (hlength : length ≠ 0) (hmiss : ∀ o ∈ p.objects, a.toNat ∉ o.span.bytes)
      (hmode : mode.provenance = .incomplete)
      (hforgotten : ∀ r ∈ p.retainedObjects, a.toNat ∉ r.span.bytes) :
      Judges p a length mode (.ok .unknown)

/-- The violation of an access that leaves its object, field by field. -/
theorem overflow_eq (access : Access) (a : Address) (length : ByteCount) (o : Object) :
    overflow access a length o =
      { kind := overflowKind access, pointer := Word.addClamped a (length - 1),
        weakness := some (.ofOverflow o.kind), span := some o.span, history := some o } := by
  cases access <;> rfl

/-- An access is reported at its last byte, or at the last byte of the address space. -/
theorem toNat_lastByte {a : Address} {length : ByteCount} (hlength : length ≠ 0) :
    (Word.addClamped a (length - 1)).toNat =
      min (a.toNat + length.toNat - 1) (UInt64.size - 1) := by
  have hpos : length.toNat ≠ 0 := fun h => hlength (UInt64.toNat_inj.mp h)
  have hle : 1 ≤ length := UInt64.le_iff_toNat_le.mpr (Nat.one_le_iff_ne_zero.mpr hpos)
  have hsub : (length - 1).toNat = length.toNat - 1 := UInt64.toNat_sub_of_le length 1 hle
  rw [Word.toNat_addClamped, hsub, Nat.add_sub_assoc (Nat.one_le_iff_ne_zero.mpr hpos)]

namespace Refines

variable {p : Pool} {q : LinearPool} {a : Address} {length : ByteCount} {mode : CheckMode}

/-- A live object that has the first byte has all of them exactly when the end of the access is not
past its own. -/
theorem accessed_subset_iff (h : p.Refines q) {o : Object} (hat : q.objectAt a = some o)
    (hlength : length ≠ 0) :
    accessed a length ⊆ o.span.bytes ↔ a.toNat + length.toNat ≤ o.span.stop.toNat := by
  have hfirst : a.toNat ∈ o.span.bytes := (h.objectAt_eq_some_iff.mp hat).2
  have hstart : o.span.start ≤ a := UInt64.le_iff_toNat_le.mpr hfirst.1
  rw [Span.accessed_subset_bytes_iff hlength, Span.containsBytes_iff, and_iff_right hstart]

/-- The check comes to one of the outcomes. -/
theorem judges (h : p.Refines q) (a : Address) (length : ByteCount) (mode : CheckMode) :
    p.Judges a length mode (p.checkAccess a length mode).1 := by
  rw [(h.checkAccess a length mode).1, LinearPool.checkAccess]
  by_cases hlength : length = 0
  · rw [if_pos hlength]
    exact .empty hlength
  rw [if_neg hlength]
  cases hat : q.objectAt a with
  | some o =>
    obtain ⟨ho, hfirst⟩ := h.objectAt_eq_some_iff.mp hat
    have hbytes := h.accessed_subset_iff hat hlength
    simp only
    split
    · next hend => exact .inBounds hlength ho (hbytes.mpr hend)
    · next hend =>
      rw [overflow_eq]
      exact .overflow hlength ho hfirst (hbytes.not.mpr hend) (toNat_lastByte hlength)
        (Weakness.isOverflowOf_iff.mpr rfl)
  | none =>
    -- what the pool retains and what is known of the pointer decide
    have hmiss := h.objectAt_eq_none_iff.mp hat
    cases hfreed : q.retainedAt a with
    | some r =>
      obtain ⟨hr, hfirst⟩ := h.retainedAt_eq_some_iff.mp hfreed
      cases hmode : mode.provenance with
      | incomplete => exact .suspect hlength hmiss hmode hr hfirst
      | complete =>
        simp only
        split
        · next ha => exact .uninitialized hlength hmiss hmode ha
        · next ha => exact .dangling hlength hmiss hmode ha hr hfirst
    | none =>
      have hforgotten := h.retainedAt_eq_none_iff.mp hfreed
      cases hmode : mode.provenance with
      | incomplete => exact .unknown hlength hmiss hmode hforgotten
      | complete =>
        simp only
        split
        · next ha => exact .uninitialized hlength hmiss hmode ha
        · next ha => exact .outOfBounds hlength hmiss hmode ha hforgotten

/-- The check comes to every outcome whose condition is met. -/
theorem checkAccess_of_judges (h : p.Refines q) {r : Except Violation Verdict}
    (hjudges : p.Judges a length mode r) : (p.checkAccess a length mode).1 = r := by
  rw [(h.checkAccess a length mode).1, LinearPool.checkAccess]
  -- the rules name the object that the look-up finds
  have hmissed (hmiss : ∀ o ∈ p.objects, a.toNat ∉ o.span.bytes) : q.objectAt a = none :=
    h.objectAt_eq_none_iff.mpr hmiss
  cases hjudges with
  | empty hlength => rw [if_pos hlength]
  | inBounds hlength ho hbytes =>
    have hat := h.objectAt_eq_some_iff.mpr ⟨ho, hbytes (Span.mem_accessed hlength)⟩
    simp only [if_neg hlength, hat, if_pos ((h.accessed_subset_iff hat hlength).mp hbytes)]
  | overflow hlength ho hfirst hbytes hlast hweakness =>
    have hat := h.objectAt_eq_some_iff.mpr ⟨ho, hfirst⟩
    have hpast := (h.accessed_subset_iff hat hlength).not.mp hbytes
    have hsame := UInt64.toNat_inj.mp (hlast.trans (toNat_lastByte hlength).symm)
    obtain rfl := Weakness.isOverflowOf_iff.mp hweakness
    simp only [if_neg hlength, hat, if_neg hpast, overflow_eq, hsame]
  | uninitialized hlength hmiss hmode ha =>
    simp only [if_neg hlength, hmissed hmiss, hmode, if_pos ha]
  | dangling hlength hmiss hmode ha hr hfirst =>
    have hfreed := h.retainedAt_eq_some_iff.mpr ⟨hr, hfirst⟩
    simp only [if_neg hlength, hmissed hmiss, hfreed, hmode, if_neg ha]
    rfl
  | outOfBounds hlength hmiss hmode ha hforgotten =>
    have hfreed := h.retainedAt_eq_none_iff.mpr hforgotten
    simp only [if_neg hlength, hmissed hmiss, hfreed, hmode, if_neg ha]
  | suspect hlength hmiss hmode hr hfirst =>
    have hfreed := h.retainedAt_eq_some_iff.mpr ⟨hr, hfirst⟩
    simp only [if_neg hlength, hmissed hmiss, hfreed, hmode]
    rfl
  | unknown hlength hmiss hmode hforgotten =>
    have hfreed := h.retainedAt_eq_none_iff.mpr hforgotten
    simp only [if_neg hlength, hmissed hmiss, hfreed, hmode]

/-- An access is in bounds of a span exactly if a live object has the span and the span has all
bytes of the access. -/
theorem checkAccess_eq_inBounds_iff (h : p.Refines q) (hlength : length ≠ 0) {u : Span} :
    (p.checkAccess a length mode).1 = .ok (.inBounds u) ↔
      (∃ o ∈ p.objects, o.span = u) ∧ accessed a length ⊆ u.bytes := by
  constructor
  · intro hr
    have hjudges := h.judges a length mode
    rw [hr] at hjudges
    cases hjudges with
    | inBounds _ ho hbytes => exact ⟨⟨_, ho, rfl⟩, hbytes⟩
  · rintro ⟨⟨o, ho, rfl⟩, hbytes⟩
    exact h.checkAccess_of_judges (.inBounds hlength ho hbytes)

end Refines

end Pool

namespace Pools

variable {ι : Type} [DecidableEq ι]

/-- In every pool that a run can reach, a check of an access returns a result exactly if the live
and the retained objects call for it: each of the eight outcomes under its own condition on the
bytes of the access, and no other. In particular no check passes where all objects that the pointer
may point to are known and none of the live ones has its first byte. -/
theorem performAll_judges (retention : ι → Retention) (cs : List (ι × Pool.Command)) (i : ι)
    (a : Address) (length : ByteCount) (mode : CheckMode) :
    let p := ((fresh retention).performAll cs).2.pool i
    (∀ r, (p.checkAccess a length mode).1 = r ↔ p.Judges a length mode r) ∧
      (length ≠ 0 → mode.provenance = .complete → (∀ o ∈ p.objects, a.toNat ∉ o.span.bytes) →
        ∃ v, (p.checkAccess a length mode).1 = .error v) := by
  intro p
  obtain ⟨qs, h, -⟩ := performAll_refines (refines_fresh retention) cs
  have hjudges : p.Judges a length mode (p.checkAccess a length mode).1 :=
    (h.pools i).judges a length mode
  refine ⟨fun r => ⟨?_, (h.pools i).checkAccess_of_judges⟩, ?_⟩
  · rintro rfl
    exact hjudges
  · intro hlength hcomplete hmiss
    -- of the three rules that pass, each asks for something that is ruled out here
    generalize (p.checkAccess a length mode).1 = r at hjudges ⊢
    cases hjudges with
    | empty hempty => exact absurd hempty hlength
    | inBounds _ ho hbytes => exact absurd (hbytes (Span.mem_accessed hlength)) (hmiss _ ho)
    | unknown _ _ hmode => rw [hcomplete] at hmode; cases hmode
    | overflow | uninitialized | dangling | outOfBounds | suspect => exact ⟨_, rfl⟩

end Pools

end MemorySentry
