import MemorySentry.Proofs.Pool.Retention
import Mathlib.Data.Set.Lattice
import Mathlib.Order.Interval.Set.LinearOrder

/-!
# Bytes as numbers

What a check promises is said of bytes, and bytes are numbers here, not words: an access that goes
on past the largest word has bytes that no span has, instead of wrapping around to the first ones.

- `accessed_subset_bytes_iff`: a span has all bytes of an access exactly when it contains them;
- `bytes_hullOf`: the hull of a span and of objects that overlap it has no bytes but theirs;
- `Refines.objectAt_eq_some_iff`, `Refines.retainedAt_eq_some_iff`: what the look-ups of a pool
  find.
-/

namespace MemorySentry

/-- The bytes of an access of `length` bytes from an address on. -/
def accessed (a : Address) (length : ByteCount) : Set ℕ :=
  Set.Ico a.toNat (a.toNat + length.toNat)

namespace Span

/-- The bytes of a span. -/
def bytes (s : Span) : Set ℕ :=
  Set.Ico s.start.toNat s.stop.toNat

/-- A span has the byte at an address exactly if it contains the address. -/
theorem mem_bytes_iff {s : Span} {a : Address} : a.toNat ∈ s.bytes ↔ s.contains a = true := by
  rw [bytes, Set.mem_Ico, contains_iff, UInt64.le_iff_toNat_le, UInt64.lt_iff_toNat_lt]

/-- A span has its first byte. -/
theorem start_mem_bytes (s : Span) : s.start.toNat ∈ s.bytes :=
  mem_bytes_iff.mpr s.contains_start

/-- Every byte of a span has an address. -/
theorem exists_address {s : Span} {n : ℕ} (hn : n ∈ s.bytes) : ∃ a : Address, a.toNat = n := by
  have hstop : s.stop.toNat < UInt64.size := s.stop.toNat_lt_size
  exact ⟨UInt64.ofNat n, UInt64.toNat_ofNat_of_lt' (hn.2.trans hstop)⟩

/-- An access that is not empty stays in a span exactly when its first byte and its end do. -/
theorem accessed_subset_bytes_iff {s : Span} {a : Address} {length : ByteCount}
    (hlength : length ≠ 0) :
    accessed a length ⊆ s.bytes ↔ s.containsBytes a length = true := by
  have hpos : length.toNat ≠ 0 := fun h => hlength (UInt64.toNat_inj.mp h)
  rw [containsBytes_iff, accessed, bytes, Set.Ico_subset_Ico_iff (by omega),
    UInt64.le_iff_toNat_le]

/-- The first byte of an access is one of its bytes. -/
theorem mem_accessed {a : Address} {length : ByteCount} (hlength : length ≠ 0) :
    a.toNat ∈ accessed a length := by
  have hpos : length.toNat ≠ 0 := fun h => hlength (UInt64.toNat_inj.mp h)
  rw [accessed, Set.mem_Ico]
  omega

/-- The hull of a span and of objects that overlap it has the bytes of all of them. -/
theorem bytes_hullOf {s : Span} {os : List Object} (hov : ∀ o ∈ os, o.span.overlaps s = true) :
    (hullOf s os).bytes = s.bytes ∪ ⋃ o ∈ os, o.span.bytes := by
  ext n
  rw [Set.mem_union, Set.mem_iUnion₂]
  -- a byte of either side has an address, and about addresses it is known
  constructor
  · intro hn
    obtain ⟨a, rfl⟩ := exists_address hn
    rcases (contains_hullOf_iff hov).mp (mem_bytes_iff.mp hn) with hs | ⟨o, ho, hcontains⟩
    · exact .inl (mem_bytes_iff.mpr hs)
    · exact .inr ⟨o, ho, mem_bytes_iff.mpr hcontains⟩
  · rintro (hs | ⟨o, ho, hn⟩)
    · obtain ⟨a, rfl⟩ := exists_address hs
      exact mem_bytes_iff.mpr ((contains_hullOf_iff hov).mpr (.inl (mem_bytes_iff.mp hs)))
    · obtain ⟨a, rfl⟩ := exists_address hn
      exact mem_bytes_iff.mpr
        ((contains_hullOf_iff hov).mpr (.inr ⟨o, ho, mem_bytes_iff.mp hn⟩))

end Span

/-! ### What a pool holds and finds -/

namespace LinearPool

/-- Of objects that lie apart, the one that covers an address is the one that has the byte there. -/
theorem covering_eq_some_iff_mem_bytes {os : List Object} (h : Apart os) {a : Address}
    {o : Object} : covering os a = some o ↔ o ∈ os ∧ a.toNat ∈ o.span.bytes := by
  rw [covering_eq_some_iff h, Span.mem_bytes_iff]

/-- No object covers an address exactly if none has the byte there. -/
theorem covering_eq_none_iff_not_mem_bytes {os : List Object} {a : Address} :
    covering os a = none ↔ ∀ o ∈ os, a.toNat ∉ o.span.bytes := by
  simp only [covering_eq_none_iff, Span.mem_bytes_iff, Bool.not_eq_true]

end LinearPool

namespace Pool.Refines

variable {p : Pool} {q : LinearPool} {a : Address} {o : Object}

/-- The retained objects are those of the linear pool, in the order of addresses. -/
theorem retainedObjects_sorted (h : p.Refines q) :
    p.retainedObjects.Perm q.retained ∧ SpanMap.Ascending (p.retainedObjects.map Object.entry) := by
  obtain ⟨sorted, hperm, hlists⟩ := h.retained
  have hobjects : p.retainedObjects = sorted := by
    rw [retainedObjects, hlists.toList, List.map_map]
    exact List.map_id' sorted
  rw [hobjects]
  exact ⟨hperm, hlists.ascending⟩

/-- A look-up finds the live object that has the byte. -/
theorem objectAt_eq_some_iff (h : p.Refines q) :
    q.objectAt a = some o ↔ o ∈ p.objects ∧ a.toNat ∈ o.span.bytes := by
  rw [h.objects]
  exact LinearPool.covering_eq_some_iff_mem_bytes h.valid.apart_live

/-- No live object is found exactly if none has the byte. -/
theorem objectAt_eq_none_iff (h : p.Refines q) :
    q.objectAt a = none ↔ ∀ o ∈ p.objects, a.toNat ∉ o.span.bytes := by
  rw [h.objects]
  exact LinearPool.covering_eq_none_iff_not_mem_bytes

/-- A look-up finds the retained object that has the byte. -/
theorem retainedAt_eq_some_iff (h : p.Refines q) :
    q.retainedAt a = some o ↔ o ∈ p.retainedObjects ∧ a.toNat ∈ o.span.bytes := by
  rw [h.mem_retainedObjects]
  exact LinearPool.covering_eq_some_iff_mem_bytes h.valid.apart_retained

/-- No retained object is found exactly if none has the byte. -/
theorem retainedAt_eq_none_iff (h : p.Refines q) :
    q.retainedAt a = none ↔ ∀ o ∈ p.retainedObjects, a.toNat ∉ o.span.bytes := by
  simp only [h.mem_retainedObjects]
  exact LinearPool.covering_eq_none_iff_not_mem_bytes

/-- No byte belongs to a live and to a retained object. -/
theorem not_mem_bytes_of_retained (h : p.Refines q) {r : Object} (hr : r ∈ p.retainedObjects)
    (hn : a.toNat ∈ r.span.bytes) : ∀ o ∈ p.objects, a.toNat ∉ o.span.bytes := by
  intro o ho hmem
  rw [h.objects] at ho
  have hapart := h.valid.live_retained ho (h.mem_retainedObjects.mp hr)
  have hov := Span.overlaps_of_contains (Span.mem_bytes_iff.mp hmem) (Span.mem_bytes_iff.mp hn)
  rw [hapart] at hov
  cases hov

end Pool.Refines

end MemorySentry
