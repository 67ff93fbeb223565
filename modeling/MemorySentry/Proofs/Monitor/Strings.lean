import MemorySentry.Proofs.Monitor.Verdicts

/-!
# Strings that end in their object

The check of a string looks for a zero byte between the pointer and the end of the object that the
pointer points into. That object is the live one in the pool, and without one there the one from
outside (`Locates`).

- `stringLength?_eq_some_iff`, `stringLength?_eq_none_iff`: what the search finds in the bytes that
  it may read, and that it depends on no others (`stringLength?_congr`);
- `exists_checkString_eq`: the check reports what the search says of the object that is located;
- `checkAccess_of_locates`: an access that starts like the string and stays in its object passes,
  where the pool does not know better of a freed object.

`checkString_of_reachable` puts them together, for every monitor that a program can come to.
-/

namespace MemorySentry.Monitor

/-! ### The search for the terminator -/

/-- The string at an address ends with the zero byte at another one. -/
structure Terminated (memory : Address → UInt8) (a z : Address) : Prop where
  /-- The terminator does not come before the string. -/
  le : a ≤ z
  /-- It is a zero byte. -/
  zero : memory z = 0
  /-- It is the first one. -/
  nonzero : ∀ b, a ≤ b → b < z → memory b ≠ 0

namespace Terminated

variable {memory : Address → UInt8} {a z : Address}

/-- A string ends only once. -/
theorem unique {z' : Address} (h : Terminated memory a z) (h' : Terminated memory a z') :
    z = z' := by
  rcases Nat.lt_trichotomy z.toNat z'.toNat with hlt | heq | hgt
  · exact absurd h.zero (h'.nonzero z h.le (UInt64.lt_iff_toNat_lt.mpr hlt))
  · exact UInt64.toNat_inj.mp heq
  · exact absurd h'.zero (h.nonzero z' h'.le (UInt64.lt_iff_toNat_lt.mpr hgt))

/-- A string with one more byte before it ends where it did. -/
theorem cons (h : Terminated memory (a + 1) z) (hnext : (a + 1).toNat = a.toNat + 1)
    (ha : memory a ≠ 0) : Terminated memory a z := by
  have hle := UInt64.le_iff_toNat_le.mp h.le
  refine ⟨UInt64.le_iff_toNat_le.mpr (by omega), h.zero, fun b hab hbz => ?_⟩
  by_cases hfirst : b = a
  · rw [hfirst]
    exact ha
  · have hne : b.toNat ≠ a.toNat := fun heq => hfirst (UInt64.toNat_inj.mp heq)
    have hab := UInt64.le_iff_toNat_le.mp hab
    exact h.nonzero b (UInt64.le_iff_toNat_le.mpr (by omega)) hbz

end Terminated

section

variable {memory memory' : Address → UInt8} {a : Address} {n : Nat}

/-- What is found is the distance to the terminator, which is among the bytes that are read. -/
theorem terminated_of_stringLength? (h : a.toNat + n < UInt64.size) {k : ByteCount}
    (hk : stringLength? memory a n = some k) :
    k.toNat < n ∧ ∃ z, z.toNat = a.toNat + k.toNat ∧ Terminated memory a z := by
  induction n generalizing a k with
  | zero => cases hk
  | succ n ih =>
    rw [stringLength?] at hk
    split at hk
    · next hzero =>
      obtain rfl := Option.some.inj hk
      refine ⟨Nat.succ_pos n, a, rfl, UInt64.le_refl a, hzero, fun b hab hba => ?_⟩
      exact absurd hab (UInt64.not_le.mpr hba)
    · next hne =>
      -- the rest of the search starts one byte further on, and what it finds is one less
      have hnext : (a + 1).toNat = a.toNat + 1 := Word.toNat_succ (by omega)
      obtain ⟨k', hk', rfl⟩ := Option.map_eq_some_iff.mp hk
      obtain ⟨hlt, z, hz, hterminated⟩ := ih (by omega) hk'
      have hcount : (k' + 1).toNat = k'.toNat + 1 := Word.toNat_succ (by omega)
      exact ⟨by omega, z, by omega, hterminated.cons hnext hne⟩

/-- The search depends on the bytes that it reads and on no others. -/
theorem stringLength?_congr (h : a.toNat + n < UInt64.size)
    (hsame : ∀ b, a ≤ b → b.toNat < a.toNat + n → memory b = memory' b) :
    stringLength? memory a n = stringLength? memory' a n := by
  induction n generalizing a with
  | zero => rfl
  | succ n ih =>
    have hnext : (a + 1).toNat = a.toNat + 1 := Word.toNat_succ (by omega)
    have hrest : stringLength? memory (a + 1) n = stringLength? memory' (a + 1) n := by
      refine ih (by omega) fun b hab hb => ?_
      have hab := UInt64.le_iff_toNat_le.mp hab
      exact hsame b (UInt64.le_iff_toNat_le.mpr (by omega)) (by omega)
    rw [stringLength?, stringLength?, hrest, hsame a (UInt64.le_refl a) (by omega)]

/-- If no byte that is read is zero, nothing is found. -/
theorem stringLength?_eq_none_iff (h : a.toNat + n < UInt64.size) :
    stringLength? memory a n = none ↔ ∀ b, a ≤ b → b.toNat < a.toNat + n → memory b ≠ 0 := by
  constructor
  · intro hnone b hab hb hzero
    have hle := UInt64.le_iff_toNat_le.mp hab
    obtain ⟨k, hk⟩ := stringLength?_of_zero hab hzero (n := n) (by omega)
    rw [hnone] at hk
    cases hk
  · intro hnonzero
    rw [Option.eq_none_iff_forall_ne_some]
    intro k hk
    obtain ⟨hlt, z, hz, hterminated⟩ := terminated_of_stringLength? h hk
    exact hnonzero z hterminated.le (by omega) hterminated.zero

/-- A length is found exactly if the string has it and ends among the bytes that are read. -/
theorem stringLength?_eq_some_iff (h : a.toNat + n < UInt64.size) {k : ByteCount} :
    stringLength? memory a n = some k ↔ k.toNat < n ∧ Terminated memory a (a + k) := by
  have hfind : ∀ {k : ByteCount}, stringLength? memory a n = some k →
      k.toNat < n ∧ Terminated memory a (a + k) := by
    intro k hk
    obtain ⟨hlt, z, hz, hterminated⟩ := terminated_of_stringLength? h hk
    have hsum : (a + k).toNat = a.toNat + k.toNat := Word.toNat_add_of_lt (by omega)
    have hsame : a + k = z := UInt64.toNat_inj.mp (hsum.trans hz.symm)
    exact ⟨hlt, hsame ▸ hterminated⟩
  refine ⟨hfind, fun ⟨hlt, hterminated⟩ => ?_⟩
  have hsum : (a + k).toNat = a.toNat + k.toNat := Word.toNat_add_of_lt (by omega)
  -- the search comes to the zero byte at the latest, and what it finds there is the length
  obtain ⟨k', hk'⟩ := stringLength?_of_zero hterminated.le hterminated.zero (n := n) (by omega)
  obtain ⟨hlt', hterminated'⟩ := hfind hk'
  have hsum' : (a + k').toNat = a.toNat + k'.toNat := Word.toNat_add_of_lt (by omega)
  have hsame : k'.toNat = k.toNat := by
    rw [hterminated'.unique hterminated] at hsum'
    omega
  rw [hk', UInt64.toNat_inj.mp hsame]

end

/-! ### The object of a string -/

/-- The object that a string should end in. -/
inductive Locates (m : Monitor) (id : PoolId) (a : Address) (x : Object) : Prop
  /-- A live object of the pool has the first byte. -/
  | pool {p : Pool} (hp : m.pool? id = some p) (hx : x ∈ p.objects)
      (hfirst : a.toNat ∈ x.span.bytes)
  /-- No live object of the pool has the first byte, or there is no such pool, and an object from
  outside has it. -/
  | outside (hmiss : ∀ p, m.pool? id = some p → ∀ o ∈ p.objects, a.toNat ∉ o.span.bytes)
      (hx : x ∈ m.external.objects) (hfirst : a.toNat ∈ x.span.bytes)

/-- The object in which a string is looked for has its first byte. -/
theorem Locates.first {m : Monitor} {id : PoolId} {a : Address} {x : Object}
    (h : m.Locates id a x) : a.toNat ∈ x.span.bytes := by
  cases h with
  | pool _ _ hfirst | outside _ _ hfirst => exact hfirst

/-- What the check of a string finds: the live object of the pool, or else the one from outside. -/
def stringObject? (m : Monitor) (id : PoolId) (a : Address) : Option Object :=
  ((m.pool? id).bind fun p => (p.objectAt a).1).or (m.external.objectAt a).1

section

variable {m : Monitor} {id : PoolId} {a : Address} {x : Object}

/-- An existing pool finds the live object that has the byte. -/
theorem bind_objectAt_eq_some_iff (h : m.WellFormed) :
    ((m.pool? id).bind fun p => (p.objectAt a).1) = some x ↔
      ∃ p, m.pool? id = some p ∧ x ∈ p.objects ∧ a.toNat ∈ x.span.bytes := by
  rw [Option.bind_eq_some_iff]
  refine exists_congr fun p => and_congr_right fun hp => ?_
  obtain ⟨q, hq⟩ := h.pools id p hp
  rw [hq.objectAt_fst, hq.objectAt_eq_some_iff]

/-- Nothing is found if no pool exists or none of its objects has the byte. -/
theorem bind_objectAt_eq_none_iff (h : m.WellFormed) :
    ((m.pool? id).bind fun p => (p.objectAt a).1) = none ↔
      ∀ p, m.pool? id = some p → ∀ o ∈ p.objects, a.toNat ∉ o.span.bytes := by
  rw [Option.bind_eq_none_iff]
  refine forall_congr' fun p => forall_congr' fun hp => ?_
  obtain ⟨q, hq⟩ := h.pools id p hp
  rw [hq.objectAt_fst, hq.objectAt_eq_none_iff]

/-- What is found is the object that the string should end in. -/
theorem stringObject?_eq_some_iff (h : m.WellFormed) :
    m.stringObject? id a = some x ↔ m.Locates id a x := by
  obtain ⟨outside, houtside, -⟩ := h.external
  rw [stringObject?, Option.or_eq_some_iff, bind_objectAt_eq_some_iff h,
    bind_objectAt_eq_none_iff h, houtside.objectAt_fst, houtside.objectAt_eq_some_iff]
  constructor
  · rintro (⟨p, hp, hx, hfirst⟩ | ⟨hmiss, hx, hfirst⟩)
    · exact .pool hp hx hfirst
    · exact .outside hmiss hx hfirst
  · rintro (⟨hp, hx, hfirst⟩ | ⟨hmiss, hx, hfirst⟩)
    · exact .inl ⟨_, hp, hx, hfirst⟩
    · exact .inr ⟨hmiss, hx, hfirst⟩

/-- There is only one object that a string should end in. -/
theorem Locates.unique (h : m.WellFormed) {y : Object} (hx : m.Locates id a x)
    (hy : m.Locates id a y) : x = y := by
  rw [← stringObject?_eq_some_iff h] at hx hy
  exact Option.some.inj (hx.symm.trans hy)

/-- The check reports what is read of the object that it finds, and finds it without reading. -/
theorem exists_checkString_eq (m : Monitor) (id : PoolId) (ha : a ≠ 0) :
    ∃ m' : Monitor, ∀ memory function site, m.checkString memory id a function site =
      m'.reportString memory a function site (m.stringObject? id a) := by
  obtain ⟨hanswer, -⟩ := m.countCheck.askPool_spec id (fun p => p.objectAt a)
    (c := .objectAt a) fun p numbers => rfl
  have hexternal : (m.countCheck.askPool id fun p => p.objectAt a).2.external = m.external :=
    m.countCheck.askPool_external id fun p => p.objectAt a
  have hpool : m.countCheck.pool? id = m.pool? id := rfl
  rw [hpool] at hanswer
  rcases hasked : m.countCheck.askPool id fun p => p.objectAt a with ⟨o, m'⟩
  rw [hasked] at hanswer hexternal
  have hfound : m.stringObject? id a = o.or (m'.external.objectAt a).1 := by
    rw [stringObject?, ← hanswer, hexternal]
  -- the objects from outside are asked only where the pool has no answer
  cases o with
  | some o =>
    refine ⟨m', fun memory function site => ?_⟩
    rw [m.checkString_eq id memory ha, hasked, hfound, Option.some_or]
  | none =>
    refine ⟨(m'.externalAt a).2, fun memory function site => ?_⟩
    rw [m.checkString_eq id memory ha, hasked, hfound, Option.none_or]
    rfl

/-! ### What is said of a string -/

variable {memory memory' : Address → UInt8} {function : String}

/-- The bytes that are read are those up to the end of the object. -/
theorem toNat_available (hfirst : a.toNat ∈ x.span.bytes) :
    a.toNat + (x.span.stop - a).toNat = x.span.stop.toNat := by
  have hle : a.toNat ≤ x.span.stop.toNat := hfirst.2.le
  rw [UInt64.toNat_sub_of_le _ _ (UInt64.le_iff_toNat_le.mpr hle), Nat.add_sub_cancel' hle]

/-- A string is read with the length at which it ends, before the object does. -/
theorem readString_eq_ok_iff (hfirst : a.toNat ∈ x.span.bytes) {r : Option ByteCount} :
    readString memory a function (some x) = .ok r ↔
      ∃ n, r = some n ∧ a.toNat + n.toNat < x.span.stop.toNat ∧ Terminated memory a (a + n) := by
  have hend := toNat_available hfirst
  have hfits : a.toNat + (x.span.stop - a).toNat < UInt64.size := by
    rw [hend]
    exact x.span.stop.toNat_lt_size
  have hiff {n : ByteCount} : stringLength? memory a (x.span.stop - a).toNat = some n ↔
      a.toNat + n.toNat < x.span.stop.toNat ∧ Terminated memory a (a + n) := by
    rw [stringLength?_eq_some_iff hfits, ← hend, Nat.add_lt_add_iff_left]
  simp only [← hiff, readString]
  cases stringLength? memory a (x.span.stop - a).toNat with
  | none => simp
  | some k => simp [eq_comm]

/-- It is misused exactly if no byte of the object from its first one on ends it. -/
theorem readString_eq_error_iff (hfirst : a.toNat ∈ x.span.bytes) {v : Violation} :
    readString memory a function (some x) = .error v ↔
      (∀ b, a ≤ b → b < x.span.stop → memory b ≠ 0) ∧
      v = { kind := .libraryMisuse, pointer := a, span := some x.span, history := some x,
            function := some function } := by
  have hend := toNat_available hfirst
  have hfits : a.toNat + (x.span.stop - a).toNat < UInt64.size := by
    rw [hend]
    exact x.span.stop.toNat_lt_size
  have hiff : stringLength? memory a (x.span.stop - a).toNat = none ↔
      ∀ b, a ≤ b → b < x.span.stop → memory b ≠ 0 := by
    simp only [stringLength?_eq_none_iff hfits, hend, UInt64.lt_iff_toNat_lt]
  rw [← hiff, readString]
  cases stringLength? memory a (x.span.stop - a).toNat with
  | none =>
    simp only [true_and, Except.error.injEq]
    exact eq_comm
  | some k => simp

/-- What is said of a string depends on no byte outside of its object or before the pointer. -/
theorem readString_congr (hfirst : a.toNat ∈ x.span.bytes)
    (hsame : ∀ b, a ≤ b → b < x.span.stop → memory b = memory' b) :
    readString memory a function (some x) = readString memory' a function (some x) := by
  have hend := toNat_available hfirst
  have hlength : stringLength? memory a (x.span.stop - a).toNat =
      stringLength? memory' a (x.span.stop - a).toNat := by
    refine stringLength?_congr (hend ▸ x.span.stop.toNat_lt_size) fun b hab hb => ?_
    rw [hend] at hb
    exact hsame b hab (UInt64.lt_iff_toNat_lt.mpr hb)
  rw [readString, readString, hlength]

/-! ### What the check of a string comes to -/

/-- The check of a string reads it in the object where it is looked for. -/
theorem checkString_fst (m : Monitor) (id : PoolId) (ha : a ≠ 0) (memory : Address → UInt8)
    (function : String) (site : Option Site) :
    (m.checkString memory id a function site).1 =
      located (readString memory a function (m.stringObject? id a)) site := by
  obtain ⟨m', hcheck⟩ := m.exists_checkString_eq id ha
  rw [hcheck, reportString_fst]

/-- Nothing is said exactly if there is no object that the string should end in. -/
theorem checkString_eq_none_iff (h : m.WellFormed) (ha : a ≠ 0) {site : Option Site} :
    (m.checkString memory id a function site).1 = .ok none ↔ ∀ x, ¬ m.Locates id a x := by
  rw [m.checkString_fst id ha, located_eq_ok_iff]
  simp only [← stringObject?_eq_some_iff h]
  cases hobject : m.stringObject? id a with
  | none => simp [readString]
  | some x =>
    have hfirst := ((stringObject?_eq_some_iff h).mp hobject).first
    simp [readString_eq_ok_iff hfirst]

/-- A length is returned exactly if the string has it and ends in its object. -/
theorem checkString_eq_some_iff (h : m.WellFormed) (ha : a ≠ 0) {site : Option Site}
    {n : ByteCount} :
    (m.checkString memory id a function site).1 = .ok (some n) ↔
      ∃ x, m.Locates id a x ∧ a.toNat + n.toNat < x.span.stop.toNat ∧
        Terminated memory a (a + n) := by
  rw [m.checkString_fst id ha, located_eq_ok_iff]
  simp only [← stringObject?_eq_some_iff h]
  cases hobject : m.stringObject? id a with
  | none => simp [readString]
  | some x =>
    have hfirst := ((stringObject?_eq_some_iff h).mp hobject).first
    simp [readString_eq_ok_iff hfirst]

/-- A violation is found exactly if the string does not end in its object. -/
theorem checkString_eq_error_iff (h : m.WellFormed) (ha : a ≠ 0) {site : Option Site}
    {v : Violation} :
    (m.checkString memory id a function site).1 = .error v ↔
      ∃ x, m.Locates id a x ∧ (∀ b, a ≤ b → b < x.span.stop → memory b ≠ 0) ∧
        v = ({ kind := .libraryMisuse, pointer := a, span := some x.span, history := some x,
               function := some function } : Violation).atSite? site := by
  rw [m.checkString_fst id ha, located_eq_error_iff]
  simp only [← stringObject?_eq_some_iff h]
  cases hobject : m.stringObject? id a with
  | none => simp [readString]
  | some x =>
    have hfirst := ((stringObject?_eq_some_iff h).mp hobject).first
    simp only [readString_eq_error_iff hfirst, Option.some.injEq, exists_eq_left', and_assoc,
      exists_and_left, exists_eq_left, eq_comm]

/-- The check reads no byte but those from the pointer to the end of the object. -/
theorem checkString_congr (h : m.WellFormed) (ha : a ≠ 0) {site : Option Site}
    (hsame : ∀ x, m.Locates id a x → ∀ b, a ≤ b → b < x.span.stop → memory b = memory' b) :
    m.checkString memory id a function site = m.checkString memory' id a function site := by
  obtain ⟨m', hcheck⟩ := m.exists_checkString_eq id ha
  rw [hcheck, hcheck]
  cases hobject : m.stringObject? id a with
  | none => rfl
  | some x =>
    have hx : m.Locates id a x := (stringObject?_eq_some_iff h).mp hobject
    rw [reportString, reportString, readString_congr hx.first (hsame x hx)]

/-! ### Reading the string -/

/-- Without a pool, the objects from outside decide about an access. -/
theorem checkAccess_of_unknown (hunknown : m.pool? id = none) (length : ByteCount)
    (mode : CheckMode) (site : Option Site) :
    (m.checkAccess id a length mode site).1 =
      located (m.external.checkAccess a length { mode with provenance := .incomplete }).1 site := by
  have hanswer : Answer.verdict (m.checkAccess id a length mode site).1 =
      (Command.checkAccess id a length mode site).conclude m.external none := by
    rw [← poolAnswer?_of_unknown (c := .checkAccess id a length mode site) rfl hunknown]
    exact (m.perform_spec (c := .checkAccess id a length mode site) rfl rfl).answer
  rw [Answer.verdict.inj hanswer]
  exact congrArg (located · site) (settle_unknown a _)

/-- An access that stays in the object passes in every mode, unless the pool knows the first byte
from a freed object. -/
theorem checkAccess_of_locates {settings : Settings} {sink : Sink} (hm : Reachable settings sink m)
    (hx : m.Locates id a x)
    (hforgotten : ∀ p, m.pool? id = some p → ∀ o ∈ p.retainedObjects, a.toNat ∉ o.span.bytes)
    {length : ByteCount} (hlength : length ≠ 0) (hbytes : accessed a length ⊆ x.span.bytes)
    (mode : CheckMode) (site : Option Site) :
    (m.checkAccess id a length mode site).1 = .ok (.inBounds x.span) := by
  cases hx with
  | pool hp hx hfirst =>
    -- the pool knows the first byte, so it decides
    obtain ⟨q, hq⟩ := hm.wellFormed.pools id _ hp
    obtain ⟨-, hdecided⟩ := decides_of_reachable hm hp a hlength mode site
    rw [(hdecided _ _ (.pool ⟨x, .inl hx, hfirst⟩)).1,
      hq.checkAccess_of_judges (.inBounds hlength hx hbytes)]
    rfl
  | outside hmiss hx hfirst =>
    cases hp : m.pool? id with
    | some p =>
      -- the pool knows the first byte neither from a live nor from a freed object
      obtain ⟨-, hdecided⟩ := decides_of_reachable hm hp a hlength mode site
      have hunknown : ¬ p.Knows a := Pool.not_knows_iff.mpr ⟨hmiss p hp, hforgotten p hp⟩
      rw [(hdecided _ _ (.inBounds hunknown hx hbytes)).1]
      rfl
    | none =>
      obtain ⟨outside, houtside, -⟩ := hm.wellFormed.external
      rw [checkAccess_of_unknown hp,
        houtside.checkAccess_of_judges (.inBounds hlength hx hbytes)]
      rfl

/-- A string that ends in its object has all its bytes there, the terminator included. -/
theorem accessed_string (hfirst : a.toNat ∈ x.span.bytes) {n : ByteCount}
    (hn : a.toNat + n.toNat < x.span.stop.toNat) :
    n + 1 ≠ 0 ∧ accessed a (n + 1) ⊆ x.span.bytes := by
  have hsize : x.span.stop.toNat < UInt64.size := x.span.stop.toNat_lt_size
  have hnext : (n + 1).toNat = n.toNat + 1 := Word.toNat_succ (by omega)
  constructor
  · intro hzero
    rw [hzero] at hnext
    cases hnext
  · rw [accessed, hnext]
    exact Set.Ico_subset_Ico hfirst.1 hn

end

/-- In every monitor that a program can come to, and whatever its memory holds: the check of a
string that does not start at the null address looks for its terminator in one object, the live one
of the pool or else the one from outside. Without such an object it says nothing, where the string
ends in the object it returns the exact length, and where it does not it is a violation that names
the object and the function. It reads no byte but those from the pointer to the end of the object.
A string with a length can be read with its terminator in every mode, unless the pool knows its
first byte from a freed object. -/
theorem checkString_of_reachable {settings : Settings} {sink : Sink} {m : Monitor}
    (hm : Reachable settings sink m) (id : PoolId) {a : Address} (ha : a ≠ 0)
    (memory : Address → UInt8) (function : String) (site : Option Site) :
    let r := (m.checkString memory id a function site).1
    (∀ x y, m.Locates id a x → m.Locates id a y → x = y) ∧
    (r = .ok none ↔ ∀ x, ¬ m.Locates id a x) ∧
    (∀ n, r = .ok (some n) ↔
      ∃ x, m.Locates id a x ∧ a.toNat + n.toNat < x.span.stop.toNat ∧
        Terminated memory a (a + n)) ∧
    (∀ v, r = .error v ↔
      ∃ x, m.Locates id a x ∧ (∀ b, a ≤ b → b < x.span.stop → memory b ≠ 0) ∧
        v = ({ kind := .libraryMisuse, pointer := a, span := some x.span, history := some x,
               function := some function } : Violation).atSite? site) ∧
    (∀ memory' : Address → UInt8,
      (∀ x, m.Locates id a x → ∀ b, a ≤ b → b < x.span.stop → memory b = memory' b) →
      m.checkString memory id a function site = m.checkString memory' id a function site) ∧
    (∀ n x, r = .ok (some n) → m.Locates id a x →
      (∀ p, m.pool? id = some p → ∀ o ∈ p.retainedObjects, a.toNat ∉ o.span.bytes) →
      ∀ mode site', (m.checkAccess id a (n + 1) mode site').1 = .ok (.inBounds x.span)) := by
  have h : m.WellFormed := hm.wellFormed
  refine ⟨fun x y hx hy => hx.unique h hy, checkString_eq_none_iff h ha,
    fun n => checkString_eq_some_iff h ha, fun v => checkString_eq_error_iff h ha,
    fun memory' hsame => checkString_congr h ha hsame, ?_⟩
  intro n x hn hx hforgotten mode site'
  -- the string ends within the object that the pointer is in, and so does the access
  obtain ⟨y, hy, hlt, -⟩ := (checkString_eq_some_iff h ha).mp hn
  obtain rfl := hx.unique h hy
  obtain ⟨hlength, hbytes⟩ := accessed_string hx.first hlt
  exact checkAccess_of_locates hm hx hforgotten hlength hbytes mode site'

/-- A string in an argument of the program is measured, and may then be read with its terminator,
although the pool that is asked knows nothing of it. -/
theorem checkString_of_reachable_argument :
    let m :=
      ((start {} (.buffer 0) 4096).performAll [.createPool, .registerExternal 4096 16 none]).2
    let memory : Address → UInt8 := fun b => if b < 4100 then 65 else 0
    (m.checkString memory 1 4097 "strlen" none).1 = .ok (some 3) ∧
      ∀ mode site, (m.checkAccess 1 4097 4 mode site).1 =
        .ok (.inBounds ⟨4096, 4112, by decide⟩) := by
  intro m memory
  let argument : Object :=
    { span := ⟨4096, 4112, by decide⟩, kind := .external, allocId := 1, allocSite := none }
  have hm : Reachable {} (.buffer 0) m := (Reachable.start 4096).performAll _
  have hp : m.pool? 1 = some { retention := Settings.retention {} } := rfl
  have hempty : ∀ p, m.pool? 1 = some p → p.objects = [] ∧ p.retainedObjects = [] := by
    intro p hp'
    obtain rfl := Option.some.inj (hp.symm.trans hp')
    exact ⟨rfl, rfl⟩
  have hx : m.Locates 1 4097 argument := by
    refine .outside (fun p hp' => ?_) (by decide +kernel) (Span.mem_bytes_iff.mpr (by decide))
    simp [(hempty p hp').1]
  obtain ⟨-, -, -, -, -, hread⟩ := checkString_of_reachable hm 1
    (show (4097 : Address) ≠ 0 by decide) memory "strlen" none
  have hlength : (m.checkString memory 1 4097 "strlen" none).1 = .ok (some 3) := by
    decide +kernel
  refine ⟨hlength, hread 3 argument hlength hx fun p hp' => ?_⟩
  simp [(hempty p hp').2]

end MemorySentry.Monitor
