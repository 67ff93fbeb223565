import MemorySentry.DirectCheck
import MemorySentry.Proofs.Pool.Verdicts

/-!
# Checks that agree with each other

The program is checked twice where it moves a pointer and uses it later: once when it moves it, and
once when it uses it. The two checks draw the line in different places, since a pointer may go to
the address after its object but may not be used there. And where the object that a pointer was
derived from is known in advance, the pool is not asked at all: the check is made against the bounds
of the object alone. These checks are written apart from each other, and nothing but the objects of
the pool makes them agree.

- `Pool.JudgesArithmetic`: the outcomes of a check of pointer arithmetic with their conditions;
- `Pools.performAll_arithmetic`: a pointer that arithmetic was allowed to make may be used up to the
  end of its object, and a pointer that may be used may be moved over the bytes that it may be used
  for;
- `Pools.performAll_derived`: a check against the bounds of a live object passes exactly where the
  check against the pool finds that object.
-/

namespace MemorySentry

namespace Span

/-- The bytes from the base of a span up to its length are the span again. -/
theorem ofLength_length (s : Span) : ofLength s.start s.length = .ok s := by
  have hle : s.start ≤ s.stop := UInt64.le_of_lt s.start_lt_stop
  have hlength : s.length.toNat = s.stop.toNat - s.start.toNat := UInt64.toNat_sub_of_le _ _ hle
  refine ofLength_eq_ok_iff.mpr ⟨rfl, ?_⟩
  rw [hlength, Nat.add_sub_cancel' (UInt64.le_iff_toNat_le.mp hle)]

/-- An access of one byte stays in a span exactly when the span contains the address. -/
theorem accessed_one_subset_bytes_iff {s : Span} {a : Address} :
    accessed a 1 ⊆ s.bytes ↔ s.contains a = true := by
  have hone : (1 : ByteCount).toNat = 1 := rfl
  rw [accessed_subset_bytes_iff (by decide), containsBytes_iff, contains_iff, hone,
    UInt64.lt_iff_toNat_lt, Nat.succ_le_iff]

end Span

namespace Pool

/-- The outcomes of a check of pointer arithmetic, and when each of them is the right one. -/
inductive JudgesArithmetic (p : Pool) (source dest : Address) (mode : CheckMode) :
    Except Violation Verdict → Prop
  /-- The pointer is in a live object and stays there, or goes to the address after it. -/
  | inBounds {o : Object} (ho : o ∈ p.objects) (hsource : source.toNat ∈ o.span.bytes)
      (hdest : o.span.start ≤ dest ∧ dest ≤ o.span.stop) :
      JudgesArithmetic p source dest mode (.ok (.inBounds o.span))
  /-- The pointer is in a live object and leaves it. -/
  | leaves {o : Object} {w : Weakness} (ho : o ∈ p.objects)
      (hsource : source.toNat ∈ o.span.bytes)
      (hdest : ¬ (o.span.start ≤ dest ∧ dest ≤ o.span.stop)) (hweakness : w.IsOverflowOf o.kind) :
      JudgesArithmetic p source dest mode (.error
        { kind := .outOfBounds, pointer := dest, weakness := some w, span := some o.span,
          history := some o })
  /-- The pointer is in no live object, but in the first page, and stays there. -/
  | firstPage (hmiss : ∀ o ∈ p.objects, source.toNat ∉ o.span.bytes)
      (hpage : source < 4096 ∧ dest < 4096) :
      JudgesArithmetic p source dest mode (.ok .empty)
  /-- The pointer is in a retained object and can point to nothing else. -/
  | dangling {r : Object} (hmiss : ∀ o ∈ p.objects, source.toNat ∉ o.span.bytes)
      (hpage : ¬ (source < 4096 ∧ dest < 4096)) (hmode : mode.provenance = .complete)
      (hr : r ∈ p.retainedObjects) (hsource : source.toNat ∈ r.span.bytes) :
      JudgesArithmetic p source dest mode (.error
        { kind := .danglingPointer, pointer := source, span := some r.span, history := some r })
  /-- The pointer is in no object and can point to nothing else. -/
  | outOfBounds (hmiss : ∀ o ∈ p.objects, source.toNat ∉ o.span.bytes)
      (hpage : ¬ (source < 4096 ∧ dest < 4096)) (hmode : mode.provenance = .complete)
      (hforgotten : ∀ r ∈ p.retainedObjects, source.toNat ∉ r.span.bytes) :
      JudgesArithmetic p source dest mode (.error { kind := .outOfBounds, pointer := dest })
  /-- The pointer is in no live object and may point elsewhere. -/
  | unknown (hmiss : ∀ o ∈ p.objects, source.toNat ∉ o.span.bytes)
      (hpage : ¬ (source < 4096 ∧ dest < 4096)) (hmode : mode.provenance = .incomplete) :
      JudgesArithmetic p source dest mode (.ok .unknown)

namespace Refines

variable {p p' : Pool} {q : LinearPool} {source dest : Address} {mode : CheckMode}

/-- The check comes to one of the outcomes. -/
theorem judgesArithmetic (h : p.Refines q) (source dest : Address) (mode : CheckMode) :
    p.JudgesArithmetic source dest mode (p.checkArithmetic source dest mode).1 := by
  rw [(h.checkArithmetic source dest mode).1, LinearPool.checkArithmetic]
  -- a live object decides whatever is known of the pointer
  cases hat : q.objectAt source with
  | some o =>
    obtain ⟨ho, hsource⟩ := h.objectAt_eq_some_iff.mp hat
    simp only
    split
    · next hdest => exact .inBounds ho hsource hdest
    · next hdest => exact .leaves ho hsource hdest (Weakness.isOverflowOf_iff.mpr rfl)
  | none =>
    have hmiss := h.objectAt_eq_none_iff.mp hat
    simp only
    split
    · next hpage => exact .firstPage hmiss hpage
    · next hpage =>
      -- what is retained matters only where the pointer can point to nothing else
      cases hmode : mode.provenance with
      | incomplete => exact .unknown hmiss hpage hmode
      | complete =>
        cases hfreed : q.retainedAt source with
        | some r =>
          obtain ⟨hr, hsource⟩ := h.retainedAt_eq_some_iff.mp hfreed
          exact .dangling hmiss hpage hmode hr hsource
        | none => exact .outOfBounds hmiss hpage hmode (h.retainedAt_eq_none_iff.mp hfreed)

/-- The check comes to every outcome whose condition is met. -/
theorem checkArithmetic_of_judges (h : p.Refines q) {r : Except Violation Verdict}
    (hjudges : p.JudgesArithmetic source dest mode r) :
    (p.checkArithmetic source dest mode).1 = r := by
  rw [(h.checkArithmetic source dest mode).1, LinearPool.checkArithmetic]
  -- the rules name the object that the look-up finds
  have hmissed (hmiss : ∀ o ∈ p.objects, source.toNat ∉ o.span.bytes) :
      q.objectAt source = none := h.objectAt_eq_none_iff.mpr hmiss
  cases hjudges with
  | inBounds ho hsource hdest =>
    have hat := h.objectAt_eq_some_iff.mpr ⟨ho, hsource⟩
    simp only [hat, if_pos hdest]
  | leaves ho hsource hdest hweakness =>
    have hat := h.objectAt_eq_some_iff.mpr ⟨ho, hsource⟩
    obtain rfl := Weakness.isOverflowOf_iff.mp hweakness
    simp only [hat, if_neg hdest]
    rfl
  | firstPage hmiss hpage =>
    rw [hmissed hmiss]
    exact if_pos hpage
  | dangling hmiss hpage hmode hr hsource =>
    have hfreed := h.retainedAt_eq_some_iff.mpr ⟨hr, hsource⟩
    simp only [hmissed hmiss, hmode, hfreed]
    exact if_neg hpage
  | outOfBounds hmiss hpage hmode hforgotten =>
    have hfreed := h.retainedAt_eq_none_iff.mpr hforgotten
    simp only [hmissed hmiss, hmode, hfreed]
    exact if_neg hpage
  | unknown hmiss hpage hmode =>
    simp only [hmissed hmiss, hmode]
    exact if_neg hpage

/-- Without a live object at the pointer, arithmetic passes as empty exactly where it stays in the
first page. Elsewhere it fails if the pointer can point to nothing else, and is unknown
otherwise. -/
theorem checkArithmetic_of_missed (h : p.Refines q)
    (hmiss : ∀ o ∈ p.objects, source.toNat ∉ o.span.bytes) (dest : Address) (mode : CheckMode) :
    ((p.checkArithmetic source dest mode).1 = .ok .empty ↔ source < 4096 ∧ dest < 4096) ∧
      (¬ (source < 4096 ∧ dest < 4096) → mode.provenance = .complete →
        ∃ v, (p.checkArithmetic source dest mode).1 = .error v) ∧
      (¬ (source < 4096 ∧ dest < 4096) → mode.provenance = .incomplete →
        (p.checkArithmetic source dest mode).1 = .ok .unknown) := by
  have hjudges := h.judgesArithmetic source dest mode
  generalize (p.checkArithmetic source dest mode).1 = r at hjudges ⊢
  -- four rules are left, and each of them says where it holds
  cases hjudges with
  | inBounds ho hsource => exact absurd hsource (hmiss _ ho)
  | leaves ho hsource => exact absurd hsource (hmiss _ ho)
  | firstPage _ hpage => simp [hpage]
  | dangling _ hpage hmode => simp [hpage, hmode]
  | outOfBounds _ hpage hmode => simp [hpage, hmode]
  | unknown _ hpage hmode => simp [hpage, hmode]

/-- Where arithmetic was allowed to go, an access that ends with the object is allowed. -/
theorem checkAccess_of_arithmetic (h : p.Refines q) (h' : p'.Refines q) {u : Span}
    (hr : (p.checkArithmetic source dest mode).1 = .ok (.inBounds u)) {length : ByteCount}
    (hlength : length ≠ 0) (hend : dest.toNat + length.toNat ≤ u.stop.toNat) (mode' : CheckMode) :
    (p'.checkAccess dest length mode').1 = .ok (.inBounds u) := by
  have hjudges := h.judgesArithmetic source dest mode
  rw [hr] at hjudges
  cases hjudges with
  | @inBounds o ho _ hdest =>
    have hstart : o.span.start.toNat ≤ dest.toNat := UInt64.le_iff_toNat_le.mp hdest.1
    have hbytes : accessed dest length ⊆ o.span.bytes := Set.Ico_subset_Ico hstart hend
    -- the other pool may have its maps turned over, but it has the same objects
    rw [h.objects, ← h'.objects] at ho
    exact (h'.checkAccess_eq_inBounds_iff hlength).mpr ⟨⟨o, ho, rfl⟩, hbytes⟩

/-- Arithmetic may move a pointer over the bytes of an access that is allowed, and to the address
after them, which is the exact sum. -/
theorem checkArithmetic_of_access (h : p.Refines q) (h' : p'.Refines q) {u : Span}
    {length : ByteCount} {mode' : CheckMode}
    (hr : (p.checkAccess source length mode').1 = .ok (.inBounds u)) {k : ByteCount}
    (hk : k ≤ length) (mode : CheckMode) :
    (source + k).toNat = source.toNat + k.toNat ∧
      (p'.checkArithmetic source (source + k) mode).1 = .ok (.inBounds u) := by
  have hjudges := h.judges source length mode'
  rw [hr] at hjudges
  cases hjudges with
  | @inBounds o hlength ho hbytes =>
    obtain ⟨hstart, hend⟩ :=
      Span.containsBytes_iff.mp ((Span.accessed_subset_bytes_iff hlength).mp hbytes)
    have hle : source.toNat + k.toNat ≤ o.span.stop.toNat :=
      (Nat.add_le_add_left (UInt64.le_iff_toNat_le.mp hk) _).trans hend
    -- the object ends in the address space, so the sum does too
    have hsum : (source + k).toNat = source.toNat + k.toNat :=
      Word.toNat_add_of_lt (hle.trans_lt o.span.stop.toNat_lt_size)
    have hdest : o.span.start ≤ source + k ∧ source + k ≤ o.span.stop := by
      simp only [UInt64.le_iff_toNat_le, hsum] at hstart ⊢
      exact ⟨Nat.le_add_right_of_le hstart, hle⟩
    rw [h.objects, ← h'.objects] at ho
    exact ⟨hsum, h'.checkArithmetic_of_judges
      (.inBounds ho (hbytes (Span.mem_accessed hlength)) hdest)⟩

/-- Operations that only ask leave the pool tied to the same linear pool. -/
theorem performAll_of_isReading (h : p.Refines q) (numbers : Numbering) {cs : List Command}
    (hcs : ∀ c ∈ cs, c.isReading = true) : (p.performAll numbers cs).2.1.Refines q := by
  have hrefines := (performAll_refines h numbers cs).2.1
  rwa [q.performAll_of_isReading numbers hcs] at hrefines

/-! ### Checks against the bounds of one object -/

variable {o : Object} {pointer : Address}

/-- A check of an access against the bounds of a live object passes where the pool finds the access
in bounds of that object, and where there is nothing to access. -/
theorem access_eq_ok_iff (h : p.Refines q) (ho : o ∈ p.objects) (length : ByteCount)
    (mode : CheckMode) :
    DirectCheck.access o.span.start pointer o.span.length length = .ok () ↔
      length = 0 ∨ (p.checkAccess pointer length mode).1 = .ok (.inBounds o.span) := by
  -- the base and the length of the object make its own span
  simp only [DirectCheck.access, Span.ofLength_length]
  by_cases hlength : length = 0
  · simp [hlength]
  · have hfound : ∃ o' ∈ p.objects, o'.span = o.span := ⟨o, ho, rfl⟩
    rw [h.checkAccess_eq_inBounds_iff hlength, and_iff_right hfound,
      Span.accessed_subset_bytes_iff hlength]
    simp [hlength]

/-- A check of a pointer against the bounds of a live object passes where the pool finds an access
of one byte there in bounds of that object. -/
theorem address_eq_ok_iff (h : p.Refines q) (ho : o ∈ p.objects) (mode : CheckMode) :
    DirectCheck.address o.span.start pointer o.span.length = .ok pointer ↔
      (p.checkAccess pointer 1 mode).1 = .ok (.inBounds o.span) := by
  have hfound : ∃ o' ∈ p.objects, o'.span = o.span := ⟨o, ho, rfl⟩
  rw [h.checkAccess_eq_inBounds_iff (by decide), and_iff_right hfound,
    Span.accessed_one_subset_bytes_iff]
  simp [DirectCheck.address, Span.ofLength_length]

end Refines

end Pool

namespace Pools

variable {ι : Type} [DecidableEq ι]

/-- In every pool that a run can reach, a check of pointer arithmetic comes to one of six outcomes,
each under its own condition and no other. Without a live object at the pointer it passes as empty
exactly in the first page; elsewhere it fails where the pointer can point to nothing else, and says
nothing otherwise. It agrees with the check of accesses, whatever the pool is asked in between:
where arithmetic was found to be in bounds, so is every access from there that ends with the object,
and where an access was, so is arithmetic from its first byte to any other one or to the address
after the last. -/
theorem performAll_arithmetic (retention : ι → Retention) (cs : List (ι × Pool.Command)) (i : ι)
    (source dest : Address) (mode : CheckMode) :
    let ps := ((fresh retention).performAll cs).2
    let p := ps.pool i
    let r := (p.checkArithmetic source dest mode).1
    (∀ v, r = v ↔ p.JudgesArithmetic source dest mode v) ∧
    ((∀ o ∈ p.objects, source.toNat ∉ o.span.bytes) →
      (r = .ok .empty ↔ source < 4096 ∧ dest < 4096) ∧
      (¬ (source < 4096 ∧ dest < 4096) → mode.provenance = .complete → ∃ v, r = .error v) ∧
      (¬ (source < 4096 ∧ dest < 4096) → mode.provenance = .incomplete → r = .ok .unknown)) ∧
    ∀ questions : List Pool.Command, (∀ c ∈ questions, c.isReading = true) →
      let later := (p.performAll ps.numbers questions).2.1
      (∀ u length mode', r = .ok (.inBounds u) → length ≠ 0 →
        dest.toNat + length.toNat ≤ u.stop.toNat →
        (later.checkAccess dest length mode').1 = .ok (.inBounds u)) ∧
      (∀ u length mode' k, (p.checkAccess source length mode').1 = .ok (.inBounds u) →
        k ≤ length →
        (source + k).toNat = source.toNat + k.toNat ∧
          (later.checkArithmetic source (source + k) mode).1 = .ok (.inBounds u)) := by
  intro ps p r
  obtain ⟨qs, h, -⟩ := performAll_refines (refines_fresh retention) cs
  have hp : p.Refines (qs i) := h.pools i
  refine ⟨fun v => ⟨?_, hp.checkArithmetic_of_judges⟩, ?_, ?_⟩
  · rintro rfl
    exact hp.judgesArithmetic source dest mode
  · intro hmiss
    exact hp.checkArithmetic_of_missed hmiss dest mode
  · intro questions hquestions later
    -- what is asked in between turns the maps over, but the objects stay the same
    have hlater : later.Refines (qs i) := hp.performAll_of_isReading ps.numbers hquestions
    constructor
    · intro u length mode' hr hlength hend
      exact hp.checkAccess_of_arithmetic hlater hr hlength hend mode'
    · intro u length mode' k hr hk
      exact hp.checkArithmetic_of_access hlater hr hk mode

/-- A pointer into the first of two neighbouring blocks is moved towards its end. The bytes up to
the end may be written there, also after the second block was looked up. And a pointer from which
the first block may be read to its end may be moved to its end, where the second one begins. -/
theorem performAll_arithmetic_neighbours :
    let ps := ((fresh fun _ : Unit => .immediate).performAll
      [((), .registerBytes 4096 64 .heap none), ((), .registerBytes 4160 16 .heap none)]).2
    let p := ps.pool ()
    let first : Span := ⟨4096, 4160, by decide⟩
    let later := (p.performAll ps.numbers [.objectAt 4160]).2.1
    (later.checkAccess 4152 8 ⟨.complete, .write⟩).1 = .ok (.inBounds first) ∧
      (later.checkArithmetic 4100 4160 ⟨.complete, .read⟩).1 = .ok (.inBounds first) := by
  intro ps p first later
  obtain ⟨-, -, hagrees⟩ := performAll_arithmetic (fun _ : Unit => .immediate)
    [((), .registerBytes 4096 64 .heap none), ((), .registerBytes 4160 16 .heap none)] () 4100 4152
    ⟨.complete, .read⟩
  obtain ⟨haccess, harithmetic⟩ := hagrees [.objectAt 4160] (by decide)
  constructor
  · exact haccess first 8 ⟨.complete, .write⟩ rfl (by decide) (by decide)
  · obtain ⟨-, hmoved⟩ := harithmetic first 60 ⟨.incomplete, .read⟩ 60 rfl (by decide)
    exact hmoved

/-- In every pool that a run can reach, a check against the bounds of a live object comes to what
the pool says. An access passes exactly if it is empty or the pool finds it in bounds of that very
object, and a pointer does exactly if the pool finds its byte there. -/
theorem performAll_derived (retention : ι → Retention) (cs : List (ι × Pool.Command)) (i : ι)
    {o : Object} (ho : o ∈ (((fresh retention).performAll cs).2.pool i).objects)
    (pointer : Address) (length : ByteCount) (mode : CheckMode) :
    let p := ((fresh retention).performAll cs).2.pool i
    (DirectCheck.access o.span.start pointer o.span.length length = .ok () ↔
      length = 0 ∨ (p.checkAccess pointer length mode).1 = .ok (.inBounds o.span)) ∧
    (DirectCheck.address o.span.start pointer o.span.length = .ok pointer ↔
      (p.checkAccess pointer 1 mode).1 = .ok (.inBounds o.span)) := by
  intro p
  obtain ⟨qs, h, -⟩ := performAll_refines (refines_fresh retention) cs
  have hp : p.Refines (qs i) := h.pools i
  exact ⟨hp.access_eq_ok_iff ho length mode, hp.address_eq_ok_iff ho mode⟩

/-- The last bytes of the first of two neighbouring blocks may be written. One byte more belongs to
the second block, and both checks refuse it. -/
theorem performAll_derived_neighbours :
    let p := ((fresh fun _ : Unit => .immediate).performAll
      [((), .registerBytes 4096 64 .heap none),
        ((), .registerBytes 4160 16 .heap none)]).2.pool ()
    let first : Object :=
      { span := ⟨4096, 4160, by decide⟩, kind := .heap, allocId := 1, allocSite := none }
    first ∈ p.objects ∧
      (p.checkAccess 4152 8 ⟨.complete, .write⟩).1 = .ok (.inBounds first.span) ∧
      (p.checkAccess 4152 9 ⟨.complete, .write⟩).1 ≠ .ok (.inBounds first.span) ∧
      DirectCheck.address first.span.start 4160 first.span.length ≠ .ok 4160 := by
  intro p first
  have hfirst : first ∈ p.objects := by decide +kernel
  have hderived := performAll_derived (fun _ : Unit => .immediate)
    [((), .registerBytes 4096 64 .heap none), ((), .registerBytes 4160 16 .heap none)] () hfirst
  refine ⟨hfirst, ?_, ?_, ?_⟩
  · have hpasses : DirectCheck.access first.span.start 4152 first.span.length 8 = .ok () := by
      decide +kernel
    exact ((hderived 4152 8 ⟨.complete, .write⟩).1.mp hpasses).resolve_left (by decide)
  · intro hr
    have hfails : DirectCheck.access first.span.start 4152 first.span.length 9 ≠ .ok () := by
      decide +kernel
    exact hfails ((hderived 4152 9 ⟨.complete, .write⟩).1.mpr (.inr hr))
  · have hmissed : (p.checkAccess 4160 1 ⟨.complete, .read⟩).1 ≠ .ok (.inBounds first.span) := by
      decide +kernel
    exact mt (hderived 4160 1 ⟨.complete, .read⟩).2.mp hmissed

end Pools

end MemorySentry
