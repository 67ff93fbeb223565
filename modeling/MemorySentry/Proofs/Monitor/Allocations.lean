import MemorySentry.Proofs.Allocator.Table
import MemorySentry.Proofs.Monitor.Reachability
import MemorySentry.Proofs.Pool.Moving

/-!
# What a call allocates

A call that a monitor is told of becomes an object if a family of functions recognises it, if the
size is known and not zero, if the object ends in the address space, and if what it resizes can be
freed. `Allocates` says so, with the object that the call becomes, and `AllocatesNothing` lists the
reasons for which a call becomes none. Each call has an object or a reason (`allocates_or_nothing`).

- `Reachable.extends_standard`: the known families are the standard ones and those announced;
- `allocated_announce`: a family that is announced later does not matter to a call that is
  recognised already;
- `allocated_of_reachable`: what becomes of every call.
-/

namespace MemorySentry.Monitor

/-! ### The known families -/

/-- A program that announces families adds them to the standard ones. -/
theorem Reachable.extends_standard {settings : Settings} {sink : Sink} {m : Monitor}
    (h : Reachable settings sink m) : ∃ fs, m.allocators.Extends fs := by
  induction h with
  | start => exact ⟨[], AllocatorTable.extends_standard⟩
  | @perform m _ c ih =>
    obtain ⟨fs, hfs⟩ := ih
    cases hs : c.isStructural with
    | true =>
      cases c with
      | announce f => exact ⟨fs ++ [f], hfs.announce f⟩
      | createPool => exact ⟨fs, hfs⟩
      | destroyPool id =>
        have hsame := (m.sameApartFromPools_destroyPool id).allocators
        exact ⟨fs, hsame ▸ hfs⟩
      | registerExternal a size site =>
        obtain ⟨numbers, counters, heq⟩ := m.registerExternal_eq a size site
        refine ⟨fs, ?_⟩
        show (m.registerExternal a size site).2.allocators.Extends fs
        rw [heq]
        exact hfs
      | _ => cases hs
    -- an operation that goes on in a pool does not reach the table
    | false =>
      refine ⟨fs, ?_⟩
      rw [(m.perform_tracks hs).allocators, (m.sameApartFromPools_afterPool c).allocators]
      exact hfs
  | @onPool m _ id c ih =>
    obtain ⟨fs, hfs⟩ := ih
    exact ⟨fs, (m.sameApartFromPools_onPool id c).allocators ▸ hfs⟩

section

variable (m : Monitor) (id : PoolId) (new old : Address) (size : ByteCount) (kind : ObjectKind)
  (site : Option Site)

/-- Without an old object a move is a registration. -/
theorem move_null : m.move id new 0 size kind site =
    (.ok (m.register id new size kind site).1, (m.register id new size kind site).2) := by
  unfold move register
  cases m.pool? id with
  | none => rfl
  | some p =>
    simp only [Pool.move_null]
    rcases p.registerBytes m.numbers new size kind site with ⟨_ | r, p', numbers⟩ <;> rfl

/-- Families of allocators have no part in a move. -/
theorem move_announce (f : Allocator) : (m.announce f).move id new old size kind site =
    ((m.move id new old size kind site).1, (m.move id new old size kind site).2.announce f) := by
  have hpool : (m.announce f).pool? id = m.pool? id := rfl
  unfold move
  rw [hpool]
  cases m.pool? id with
  | none => rfl
  | some p =>
    have hnumbers : (m.announce f).numbers = m.numbers := rfl
    simp only [hnumbers]
    rcases p.move m.numbers new old size kind site with ⟨v | _ | r, p', numbers⟩ <;> rfl

end

variable {m : Monitor} {id : PoolId} {c : Call} {measure : Address → Option ByteCount}
  {site : Option Site} {p : Pool} {s : Span} {f : Allocator} {kind : ObjectKind}

/-- What an allocation with a known size does is what a move does. A call that resizes nothing has
no old object. -/
theorem allocated_eq_move (hchosen : m.allocators.Chooses c f kind) {size : ByteCount}
    (hsize : f.size? c measure = some size) :
    m.allocated id c measure site =
      m.move id c.returned ((f.resized? c).getD 0) size kind site := by
  simp only [allocated, hchosen.allocating?_eq, hsize]
  cases f.resized? c with
  | some old => rfl
  | none => exact (m.move_null id c.returned size kind site).symm

/-- A family that is announced later changes nothing about a call that is recognised already. -/
theorem allocated_announce (hchosen : m.allocators.Chooses c f kind) (g : Allocator) :
    (m.announce g).allocated id c measure site =
      ((m.allocated id c measure site).1, (m.allocated id c measure site).2.announce g) := by
  have hchosen' : (m.announce g).allocators.Chooses c f kind := hchosen.announce g
  cases hsize : f.size? c measure with
  | none => simp only [allocated, hchosen.allocating?_eq, hchosen'.allocating?_eq, hsize]
  | some size =>
    rw [allocated_eq_move hchosen hsize, allocated_eq_move hchosen' hsize, move_announce]

/-- Neither do any number of them. -/
theorem allocated_announceAll (hchosen : m.allocators.Chooses c f kind) (fs : List Allocator) :
    (fs.foldl announce m).allocated id c measure site =
      ((m.allocated id c measure site).1,
        fs.foldl announce (m.allocated id c measure site).2) := by
  induction fs generalizing m with
  | nil => rfl
  | cons g rest ih =>
    have hchosen' : (m.announce g).allocators.Chooses c f kind := hchosen.announce g
    rw [List.foldl_cons, ih hchosen', allocated_announce hchosen g]
    rfl

/-! ### Objects and reasons -/

/-- A call allocates an object in a pool: the pool, the span of the object and its kind. -/
inductive Allocates (m : Monitor) (id : PoolId) (c : Call) (measure : Address → Option ByteCount) :
    Pool → Span → ObjectKind → Prop
  | intro {p : Pool} {s : Span} {f : Allocator} {kind : ObjectKind} {n : Nat}
      (hpool : m.pool? id = some p) (hchosen : m.allocators.Chooses c f kind)
      (hsize : f.ExactSize c measure n) (hreturned : c.returned ≠ 0)
      (hstart : s.start = c.returned) (hstop : s.stop.toNat = c.returned.toNat + n)
      (hold : ∀ old, f.resized? c = some old → old ≠ 0 → ∃ o, p.FreeableAt old o) :
      Allocates m id c measure p s kind

/-- The reasons for which a call allocates nothing. -/
inductive AllocatesNothing (m : Monitor) (id : PoolId) (c : Call)
    (measure : Address → Option ByteCount) : Prop
  /-- No family recognises the call. -/
  | unrecognised (hnone : ∀ g ∈ m.allocators.families, ¬ g.Recognises c)
  /-- An argument is missing that the size is computed from, or the string cannot be measured. -/
  | unsized {f : Allocator} {kind : ObjectKind} (hchosen : m.allocators.Chooses c f kind)
      (hsize : ∀ n, ¬ f.ExactSize c measure n)
  /-- The function has returned null. -/
  | null (hreturned : c.returned = 0)
  /-- There is no pool with the number. -/
  | noPool (hpool : m.pool? id = none)
  /-- The size is zero or does not fit a word, or the object would not end in the address space. -/
  | unfit {f : Allocator} {kind : ObjectKind} {n : Nat} (hchosen : m.allocators.Chooses c f kind)
      (hsize : f.ExactSize c measure n)
      (hn : n = 0 ∨ UInt64.size ≤ n ∨ UInt64.size ≤ c.returned.toNat + n)
  /-- The object that is to be resized cannot be freed. -/
  | refused {f : Allocator} {kind : ObjectKind} {p : Pool} {old : Address}
      (hchosen : m.allocators.Chooses c f kind) (hpool : m.pool? id = some p)
      (hold : f.resized? c = some old) (hne : old ≠ 0) (hrefused : ∀ o, ¬ p.FreeableAt old o)

/-- Every call allocates an object, or there is a reason for which it does not. -/
theorem allocates_or_nothing (m : Monitor) (id : PoolId) (c : Call)
    (measure : Address → Option ByteCount) :
    (∃ p s kind, m.Allocates id c measure p s kind) ∨ m.AllocatesNothing id c measure := by
  -- the conditions one after the other; the first that fails is the reason
  rcases m.allocators.exists_chooses_or c with ⟨f, kind, hchosen⟩ | hnone
  swap
  · exact .inr (.unrecognised hnone)
  by_cases hsize : ∃ n, f.ExactSize c measure n
  swap
  · exact .inr (.unsized hchosen fun n hn => hsize ⟨n, hn⟩)
  obtain ⟨n, hsize⟩ := hsize
  by_cases hreturned : c.returned = 0
  · exact .inr (.null hreturned)
  by_cases hn : n = 0 ∨ UInt64.size ≤ n ∨ UInt64.size ≤ c.returned.toNat + n
  · exact .inr (.unfit hchosen hsize hn)
  cases hpool : m.pool? id with
  | none => exact .inr (.noPool hpool)
  | some p =>
    by_cases hrefused : ∃ old, f.resized? c = some old ∧ old ≠ 0 ∧ ∀ o, ¬ p.FreeableAt old o
    · obtain ⟨old, hold, hne, hrefused⟩ := hrefused
      exact .inr (.refused hchosen hpool hold hne hrefused)
    · have hstop : (UInt64.ofNat (c.returned.toNat + n)).toNat = c.returned.toNat + n :=
        UInt64.toNat_ofNat_of_lt' (by omega)
      -- all hold, so the bytes of the block are a span
      let s : Span := ⟨c.returned, .ofNat (c.returned.toNat + n), by
        rw [UInt64.lt_iff_toNat_lt, hstop]
        omega⟩
      refine .inl ⟨p, s, kind, .intro hpool hchosen hsize hreturned rfl hstop ?_⟩
      intro old hold hne
      by_contra hnone
      exact hrefused ⟨old, hold, hne, fun o ho => hnone ⟨o, ho⟩⟩

/-- A call that allocates an object registers it: the new object is live, and the others were so
before. -/
theorem Allocates.registers (h : m.Allocates id c measure p s kind) {q : LinearPool}
    (hq : p.Refines q) (site : Option Site) :
    (∃ registration, (m.allocated id c measure site).1 = .ok (some registration) ∧
      registration.span = s) ∧
    ∃ p', (m.allocated id c measure site).2.pool? id = some p' ∧
      Pool.newObject m.numbers s kind site ∈ p'.objects ∧
      ∀ e ∈ p'.objects, e = Pool.newObject m.numbers s kind site ∨ e ∈ p.objects := by
  obtain ⟨hpool, hchosen, hsize, hreturned, hstart, hstop, hold⟩ := h
  rename_i f n
  -- a size that ends in the address space fits a word
  have hword : (UInt64.ofNat n).toNat = n := by
    have hsmall := s.stop.toNat_lt_size
    exact UInt64.toNat_ofNat_of_lt' (by omega)
  have hknown : f.size? c measure = some (.ofNat n) := by
    rw [Allocator.size?_eq_some_iff, hword]
    exact hsize
  have hspan : Span.ofLength c.returned (.ofNat n) = .ok s :=
    Span.ofLength_eq_ok_iff.mpr ⟨hstart, by rw [hword, hstop]⟩
  have hfreeable : (f.resized? c).getD 0 ≠ 0 → ∃ o, p.FreeableAt ((f.resized? c).getD 0) o := by
    cases hresized : f.resized? c with
    | none => exact fun hne => absurd rfl hne
    | some old => exact hold old hresized
  obtain ⟨⟨registration, hanswer, hregistered⟩, hnew, hothers⟩ :=
    hq.move_registers m.numbers hspan hreturned hfreeable hchosen.not_merges site
  obtain ⟨hmoved, htracks⟩ := m.move_spec id c.returned ((f.resized? c).getD 0) (.ofNat n) kind site
  rw [allocated_eq_move hchosen hknown]
  refine ⟨⟨registration, ?_, hregistered⟩, _, ?_, hnew, hothers⟩
  · rw [hmoved, hpool]
    simp only [hanswer]
    rfl
  · rw [htracks.pools, pool?_onPool, if_pos rfl, hpool]
    rfl

/-- What is so after a call that registers nothing: no number was drawn, and no pool has an object
that it did not have. -/
structure RegistersNothing (m : Monitor) (r : Except Violation (Option Registration) × Monitor) :
    Prop where
  /-- The answer tells of no registration. -/
  answer : ∀ registration, r.1 ≠ .ok (some registration)
  /-- No number was drawn for an allocation. -/
  nextAlloc : r.2.numbers.nextAlloc = m.numbers.nextAlloc
  /-- What is live was so before. -/
  objects : ∀ id p', r.2.pool? id = some p' → ∃ p, m.pool? id = some p ∧ p'.objects ⊆ p.objects

/-- To do nothing registers nothing. -/
theorem registersNothing_refl (m : Monitor) : m.RegistersNothing (.ok none, m) :=
  ⟨by simp, rfl, fun _ p hp => ⟨p, hp, List.Subset.refl _⟩⟩

/-- A move that its pool takes no object from. -/
theorem registersNothing_move {q : LinearPool} (hpool : m.pool? id = some p) (hq : p.Refines q)
    {new old : Address} {size : ByteCount}
    (hnothing : new = 0 ∨ (∀ s, Span.ofLength new size ≠ .ok s) ∨
      (old ≠ 0 ∧ ∀ o, ¬ p.FreeableAt old o)) :
    m.RegistersNothing (m.move id new old size kind site) := by
  obtain ⟨hanswer, hnext, hobjects⟩ := hq.move_registers_nothing m.numbers hnothing kind site
  obtain ⟨hmoved, htracks⟩ := m.move_spec id new old size kind site
  refine ⟨?_, ?_, ?_⟩
  · rw [hmoved, hpool]
    simp only
    cases hresult : (p.move m.numbers new old size kind site).1 with
    | error v => exact fun registration => nofun
    | ok r =>
      rw [hresult] at hanswer
      exact hanswer
  · rw [htracks.numbers, onPool, hpool]
    exact hnext
  · -- in the pool itself no object is new, and other pools stay as they are
    intro id' p' hp'
    rw [htracks.pools, pool?_onPool] at hp'
    split at hp'
    · next hid =>
      subst hid
      rw [hpool] at hp'
      cases hp'
      exact ⟨p, hpool, hobjects⟩
    · exact ⟨p', hp', List.Subset.refl _⟩

/-- A call for which there is a reason registers nothing. -/
theorem AllocatesNothing.registersNothing (h : m.AllocatesNothing id c measure)
    (hm : m.WellFormed) (site : Option Site) :
    m.RegistersNothing (m.allocated id c measure site) := by
  rcases m.allocators.exists_chooses_or c with ⟨f, kind, hchosen⟩ | hnone
  swap
  · simp only [allocated, AllocatorTable.allocating?_eq_none hnone]
    exact m.registersNothing_refl
  cases hsize : f.size? c measure with
  | none =>
    simp only [allocated, hchosen.allocating?_eq, hsize]
    exact m.registersNothing_refl
  | some size =>
    rw [allocated_eq_move hchosen hsize]
    cases hpool : m.pool? id with
    | none =>
      simp only [move, hpool]
      exact m.registersNothing_refl
    | some p =>
      obtain ⟨q, hq⟩ := hm.pools id p hpool
      apply registersNothing_move hpool hq
      have hexact := Allocator.size?_eq_some_iff.mp hsize
      -- the call is recognised, its size is known and the pool is there; three reasons are left
      cases h with
      | unrecognised hnone =>
        cases hchosen.allocating?_eq.symm.trans (AllocatorTable.allocating?_eq_none hnone)
      | unsized hchosen' hunsized =>
        obtain ⟨rfl, rfl⟩ := hchosen.unique hchosen'
        exact absurd hexact (hunsized size.toNat)
      | null hreturned => exact .inl hreturned
      | noPool hnone =>
        rw [hpool] at hnone
        cases hnone
      | unfit hchosen' hexact' hn =>
        obtain ⟨rfl, rfl⟩ := hchosen.unique hchosen'
        obtain rfl := hexact'.unique hexact
        refine .inr (.inl fun s hspan => ?_)
        obtain ⟨hstart, hstop⟩ := Span.ofLength_eq_ok_iff.mp hspan
        have hnonempty := UInt64.lt_iff_toNat_lt.mp s.start_lt_stop
        rw [hstart] at hnonempty
        have hend := s.stop.toNat_lt_size
        have hword := size.toNat_lt_size
        omega
      | refused hchosen' hpool' hold hne hrefused =>
        obtain ⟨rfl, rfl⟩ := hchosen.unique hchosen'
        rw [hpool] at hpool'
        cases hpool'
        rw [hold]
        exact .inr (.inr ⟨hne, hrefused⟩)

/-- In every monitor that a program can come to, the known families are the standard ones and after
them those that the program has announced, and a call is understood through the first of them that
recognises it. The call allocates an object or there is a reason for which it does not. If it
allocates one, the object is registered with the exact size and with the kind that the family gives,
and no other object becomes live. If there is a reason, nothing is registered. Families that are
announced later do not change what becomes of a call that one of the families recognises. -/
theorem allocated_of_reachable {settings : Settings} {sink : Sink} {m : Monitor}
    (hm : Reachable settings sink m) (id : PoolId) (c : Call)
    (measure : Address → Option ByteCount) (site : Option Site) :
    let r := m.allocated id c measure site
    (∃ fs, m.allocators.Extends fs) ∧
    ((∃ p s kind, m.Allocates id c measure p s kind) ∨ m.AllocatesNothing id c measure) ∧
    (∀ p s kind, m.Allocates id c measure p s kind →
      (∃ registration, r.1 = .ok (some registration) ∧ registration.span = s) ∧
      ∃ p', r.2.pool? id = some p' ∧ Pool.newObject m.numbers s kind site ∈ p'.objects ∧
        ∀ e ∈ p'.objects, e = Pool.newObject m.numbers s kind site ∨ e ∈ p.objects) ∧
    (m.AllocatesNothing id c measure → m.RegistersNothing r) ∧
    (∀ f kind, m.allocators.Chooses c f kind → ∀ fs : List Allocator,
      (fs.foldl announce m).allocated id c measure site = (r.1, fs.foldl announce r.2)) := by
  intro r
  refine ⟨hm.extends_standard, m.allocates_or_nothing id c measure, ?_, ?_, ?_⟩
  · intro p s kind hallocates
    have hpool : m.pool? id = some p := by
      obtain ⟨hpool, -⟩ := hallocates
      exact hpool
    obtain ⟨q, hq⟩ := hm.wellFormed.pools id p hpool
    exact hallocates.registers hq site
  · intro hnothing
    exact hnothing.registersNothing hm.wellFormed site
  · intro f kind hchosen fs
    exact allocated_announceAll hchosen fs

/-- An array of three elements of sixteen bytes is allocated through the second of the standard
families. A family of the same name that is announced later does not matter. -/
theorem allocated_of_reachable_array :
    let m := ((start {} (.buffer 0) 4096).performAll [.createPool]).2
    let c : Call := { callee := "calloc", args := [3, 16], returned := 4096 }
    let other : Allocator := { allocName := "calloc", freeName := "free", rule := .given 1 }
    let s : Span := ⟨4096, 4144, by decide⟩
    (∃ registration, (m.allocated 1 c (fun _ => none) none).1 = .ok (some registration) ∧
      registration.span = s) ∧
    ((m.announce other).allocated 1 c (fun _ => none) none).1 =
      (m.allocated 1 c (fun _ => none) none).1 := by
  intro m c other s
  have hm : Reachable {} (.buffer 0) m := (Reachable.start 4096).performAll _
  let calloc : Allocator := { allocName := "calloc", freeName := "free", rule := .product 1 2 }
  have hchosen : m.allocators.Chooses c calloc .heap := by
    have hfamilies : m.allocators.families = AllocatorTable.standardFamilies.take 1 ++
        calloc :: AllocatorTable.standardFamilies.drop 2 := rfl
    refine .intro hfamilies ?_ ⟨rfl, nofun⟩
    simp only [← Allocator.allocates_iff]
    decide +kernel
  have hallocates :
      m.Allocates 1 c (fun _ => none) { retention := Settings.retention {} } s .heap :=
    .intro rfl hchosen (.product rfl rfl rfl) (by decide) rfl rfl nofun
  obtain ⟨-, -, hregisters, -, hannounced⟩ := allocated_of_reachable hm 1 c (fun _ => none) none
  have hsame : (m.announce other).allocated 1 c (fun _ => none) none = _ :=
    hannounced _ _ hchosen [other]
  refine ⟨(hregisters _ _ _ hallocates).1, ?_⟩
  rw [hsame]

/-- A family that the program has announced resizes objects, and its functions take the old object
as their second argument. A call with the new size alone is recognised, and its second argument is
missing, but an object is registered: nothing says that there is an old one. -/
theorem allocated_without_old_object :
    let grow : Allocator := { allocName := "grow", freeName := "free", rule := .resized 2 1 }
    let m := ((start {} (.buffer 0) 4096).performAll [.createPool, .announce grow]).2
    let c : Call := { callee := "grow", args := [64], returned := 36864 }
    m.allocators.Chooses c grow .custom ∧ c.arg? 2 = none ∧
      ¬ m.RegistersNothing (m.allocated 1 c (fun _ => none) none) := by
  intro grow m c
  refine ⟨?_, rfl, ?_⟩
  · have hfamilies : m.allocators.families = AllocatorTable.standardFamilies ++ grow :: [] := rfl
    refine .intro hfamilies ?_ ⟨rfl, nofun⟩
    simp only [← Allocator.allocates_iff]
    decide +kernel
  · intro hnothing
    refine hnothing.answer (.inserted ⟨36864, 36928, by decide⟩) ?_
    decide +kernel

end MemorySentry.Monitor
