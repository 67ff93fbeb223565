import MemorySentry.Proofs.Monitor.Reporting
import MemorySentry.Proofs.Pool.Ownership

/-!
# Programs without errors

A program that uses memory as it should keeps a `Ledger` of the blocks that it holds in each pool.
`Ledger.Permits` says which operations such a program makes: it registers memory that no other block
of the pool has, gives back what it holds, and checks pointers into blocks that it holds. Memory
that was given back may be registered again at once.

A monitor follows the ledger (`Monitor.Follows`): the live objects of its pools are the blocks of
the program. So it never raises an alert (`performAll_silent`), whatever it retains of old blocks,
keeps at hand, and has counted.
-/

namespace MemorySentry

open Block (Obtains Returns without)

/-- What a program knows of the memory that it holds. -/
structure Ledger where
  /-- The number of the next pool. -/
  nextPool : PoolId := 1
  /-- The blocks in each pool; none for a pool that does not exist. -/
  held : PoolId → Option (List Block) := fun _ => none

namespace Ledger

/-- The ledger with other blocks in a pool. -/
def holding (l : Ledger) (id : PoolId) (bs : List Block) : Ledger :=
  { l with held := Function.update l.held id (some bs) }

/-- The ledger with a new pool. -/
def withPool (l : Ledger) : Ledger :=
  { l.holding l.nextPool [] with nextPool := l.nextPool + 1 }

/-- The operations of a program that uses memory as it should, and what it holds after them. -/
inductive Permits (l : Ledger) : Monitor.Command → Ledger → Prop
  | createPool : Permits l .createPool l.withPool
  | register {id : PoolId} {bs bs' : List Block} (hheld : l.held id = some bs) {a : Address}
      {size : ByteCount} {kind : ObjectKind} (hnew : Obtains bs a size kind bs')
      (site : Option Site) :
    Permits l (.register id a size kind site) (l.holding id bs')
  | free {id : PoolId} {bs bs' : List Block} (hheld : l.held id = some bs) {a : Address}
      (hold : Returns bs a bs') (site : Option Site) :
    Permits l (.free id a site) (l.holding id bs')
  | endScope {id : PoolId} {bs : List Block} (hheld : l.held id = some bs) {b : Block} (hb : b ∈ bs)
      (hkind : b.kind = .stack ∨ b.kind = .byValue) :
    Permits l (.endScope id b.span.start) (l.holding id (without bs b.span.start))
  | move {id : PoolId} {bs bs' bs'' : List Block} (hheld : l.held id = some bs) {new old : Address}
      {size : ByteCount} (hold : Returns bs old bs') (hnew : Obtains bs' new size .heap bs'')
      (site : Option Site) :
    Permits l (.move id new old size site) (l.holding id bs'')
  /-- A move to no bytes only gives back. -/
  | moveEmpty {id : PoolId} {bs bs' : List Block} (hheld : l.held id = some bs) (new : Address)
      {old : Address} (hold : Returns bs old bs') (site : Option Site) :
    Permits l (.move id new old 0 site) (l.holding id bs')
  /-- A move that found no memory changes nothing. -/
  | moveFailed {id : PoolId} {bs : List Block} (hheld : l.held id = some bs) {old : Address}
      {size : ByteCount} (hold : old ≠ 0) (hsize : size ≠ 0) (site : Option Site) :
    Permits l (.move id 0 old size site) l
  | checkAccess {id : PoolId} {bs : List Block} (hheld : l.held id = some bs) {b : Block}
      (hb : b ∈ bs) {a : Address} (ha : b.span.contains a = true) {length : ByteCount}
      (hend : a.toNat + length.toNat ≤ b.span.stop.toNat) (mode : CheckMode)
      (site : Option Site) :
    Permits l (.checkAccess id a length mode site) l
  | checkArithmetic {id : PoolId} {bs : List Block} (hheld : l.held id = some bs) {b : Block}
      (hb : b ∈ bs) {source dest : Address} (hsource : b.span.contains source = true)
      (hdest : b.span.start ≤ dest ∧ dest ≤ b.span.stop) (mode : CheckMode) (site : Option Site) :
    Permits l (.checkArithmetic id source dest mode site) l
  | checkAlignment {id : PoolId} {bs : List Block} (hheld : l.held id = some bs) {b : Block}
      (hb : b ∈ bs) {a : Address} (ha : b.span.contains a = true) {elementSize : ByteCount}
      (hmultiple : elementSize.toNat ∣ a.toNat - b.span.start.toNat) (site : Option Site) :
    Permits l (.checkAlignment id a elementSize site) l
  | checkString {id : PoolId} {bs : List Block} (hheld : l.held id = some bs) {b : Block}
      (hb : b ∈ bs) {a : Address} (ha : b.span.contains a = true) {memory : Address → UInt8}
      {z : Address} (hz : a ≤ z ∧ z < b.span.stop) (hzero : memory z = 0) (function : String)
      (site : Option Site) :
    Permits l (.checkString memory id a function site) l

/-- A run of such a program. -/
inductive PermitsAll : Ledger → List Monitor.Command → Ledger → Prop
  | nil (l : Ledger) : PermitsAll l [] l
  | cons {l l' l'' : Ledger} {c : Monitor.Command} {rest : List Monitor.Command}
      (hfirst : l.Permits c l') (hrest : PermitsAll l' rest l'') : PermitsAll l (c :: rest) l''

/-- A pool that holds what it held leaves the ledger as it is. -/
theorem holding_self {l : Ledger} {id : PoolId} {bs : List Block} (hheld : l.held id = some bs) :
    l.holding id bs = l := by
  rw [holding, ← hheld, Function.update_eq_self]

end Ledger

namespace Monitor

/-- A zero byte ends the string. -/
theorem stringLength?_of_zero {memory : Address → UInt8} {a z : Address} (hle : a ≤ z)
    (hzero : memory z = 0) {n : Nat} (hn : z.toNat - a.toNat < n) :
    ∃ k, stringLength? memory a n = some k := by
  induction n generalizing a with
  | zero => exact absurd hn (Nat.not_lt_zero _)
  | succ n ih =>
    unfold stringLength?
    by_cases ha : memory a = 0
    · exact ⟨0, if_pos ha⟩
    · -- the byte at the address is not the zero byte, which so lies further on
      have hne : a ≠ z := by
        rintro rfl
        exact ha hzero
      have hlt : a.toNat < z.toNat :=
        Nat.lt_of_le_of_ne (UInt64.le_iff_toNat_le.mp hle) fun h => hne (UInt64.toNat_inj.mp h)
      have hnext : (a + 1).toNat = a.toNat + 1 :=
        Word.toNat_succ (Nat.lt_of_le_of_lt hlt z.toNat_lt_size)
      obtain ⟨k, hk⟩ := ih (a := a + 1) (by rw [UInt64.le_iff_toNat_le, hnext]; exact hlt)
        (by rw [hnext]; omega)
      exact ⟨k + 1, by rw [if_neg ha, hk]; rfl⟩

/-- The pools that a program has created are there, and their live objects are its blocks. -/
structure Follows (m : Monitor) (l : Ledger) : Prop where
  numbered : m.Numbered
  nextPool : m.nextPool = l.nextPool
  pools : ∀ id bs, l.held id = some bs →
    ∃ p q, m.pool? id = some p ∧ p.Refines q ∧ q.Backs bs

/-- A new monitor follows an empty ledger. -/
theorem follows_start (settings : Settings) (sink : Sink) (page : UInt64) :
    (start settings sink page).Follows {} :=
  ⟨numbered_start settings sink page, rfl, fun id bs hheld => by cases hheld⟩

namespace Follows

variable {m : Monitor} {l : Ledger}

/-- After a new pool it follows the ledger with one. -/
theorem createPool (h : m.Follows l) : m.createPool.2.Follows l.withPool := by
  refine ⟨h.numbered.createPool, congrArg (· + 1) h.nextPool, fun id bs hheld => ?_⟩
  rw [pool?_createPool h.numbered, h.nextPool]
  by_cases hid : id = l.nextPool
  · -- the new pool is empty, as the program knows
    have hnew : l.withPool.held id = some [] := by
      rw [hid]
      exact Function.update_self _ _ _
    rw [hnew] at hheld
    cases hheld
    rw [if_pos hid]
    exact ⟨_, _, rfl, Pool.refines_empty _, LinearPool.backs_empty _⟩
  · have hold : l.withPool.held id = l.held id := Function.update_of_ne hid _ _
    rw [hold] at hheld
    rw [if_neg hid]
    exact h.pools id bs hheld

/-- An operation on a pool that the program has created. It raises no alert and leaves the blocks
`bs'` if it does so on every linear pool with the blocks of the pool. -/
theorem inPool (h : m.Follows l) {c : Command} (hc : c.isStructural = false) {id : PoolId}
    (hpool : c.pool? = some id) {pc : Pool.Command} (hin : c.inPool m.allocators = some (id, pc))
    (hpc : pc ≠ .stats) {bs bs' : List Block} (hheld : l.held id = some bs)
    (hlegal : ∀ (q : LinearPool) (numbers : Numbering), q.Valid → q.Backs bs →
      (q.perform numbers pc).2.1.Backs bs' ∧
        ∀ external, (c.conclude external (some (q.perform numbers pc).1)).violation? = none) :
    (m.perform c).1.violation? = none ∧ (m.perform c).2.Follows (l.holding id bs') := by
  obtain ⟨p, q, hp, hrefines, hbacks⟩ := h.pools id bs hheld
  obtain ⟨hbacks', hsilent⟩ := hlegal q m.numbers hrefines.valid hbacks
  obtain ⟨hanswer, htracks⟩ := m.perform_spec hc hpool
  have hafter : m.afterPool c = m.onPool id pc := by
    simp only [afterPool, hin]
  have hasked : m.poolAnswer? c = some (q.perform m.numbers pc).1 := by
    simp only [poolAnswer?, hin, Option.bind_some, hp, Option.map_some,
      hrefines.perform_answer m.numbers hpc]
  rw [hafter] at htracks
  refine ⟨by rw [hanswer, hasked]; exact hsilent m.external, ?_⟩
  refine ⟨htracks.numbered (h.numbered.onPool id pc), ?_, fun id' bs₁ hheld' => ?_⟩
  · rw [htracks.nextPool, onPool, hp]
    exact h.nextPool
  · rw [htracks.pools, pool?_onPool]
    by_cases hid : id' = id
    · -- the pool itself holds the new blocks
      have hnew : (l.holding id bs').held id' = some bs' := by
        rw [hid]
        exact Function.update_self _ _ _
      rw [hnew] at hheld'
      cases hheld'
      rw [if_pos hid, hp]
      exact ⟨_, _, rfl, (Pool.perform_refines hrefines m.numbers pc).2.1, hbacks'⟩
    · -- no other pool is touched
      have hold : (l.holding id bs').held id' = l.held id' := Function.update_of_ne hid _ _
      rw [hold] at hheld'
      rw [if_neg hid]
      exact h.pools id' bs₁ hheld'

/-- A question about a pool, which leaves the blocks of the program alone. -/
theorem asking (h : m.Follows l) {c : Command} (hc : c.isStructural = false) {id : PoolId}
    (hpool : c.pool? = some id) {pc : Pool.Command} (hin : c.inPool m.allocators = some (id, pc))
    (hpc : pc ≠ .stats) (hreading : pc.isReading = true) {bs : List Block}
    (hheld : l.held id = some bs)
    (hlegal : ∀ (q : LinearPool) (numbers : Numbering), q.Valid → q.Backs bs →
      ∀ external, (c.conclude external (some (q.perform numbers pc).1)).violation? = none) :
    (m.perform c).1.violation? = none ∧ (m.perform c).2.Follows l := by
  rw [← Ledger.holding_self hheld]
  refine h.inPool hc hpool hin hpc hheld fun q numbers hvalid hbacks => ⟨?_, ?_⟩
  · rw [q.perform_of_isReading numbers hreading]
    exact hbacks
  · exact hlegal q numbers hvalid hbacks

/-- What a pool finds in bounds needs no objects from outside, and is no violation. -/
theorem settle_verdict (a : Address) {verdict : Verdict} (h : verdict ≠ .unknown)
    (fromOutside : Except Violation Verdict) (site : Option Site) :
    (Answer.verdict (located (settle a (.ok verdict) fromOutside) site)).violation? = none := by
  cases verdict with
  | unknown => exact absurd rfl h
  | inBounds s => rfl
  | empty => rfl

/-- An operation of a program that uses memory as it should raises no alert, and the monitor goes on
to follow the ledger. -/
theorem permits (h : m.Follows l) {c : Command} {l' : Ledger} (hpermits : l.Permits c l') :
    (m.perform c).1.violation? = none ∧ (m.perform c).2.Follows l' := by
  cases hpermits with
  | createPool => exact ⟨rfl, h.createPool⟩
  | register hheld hnew site =>
    refine h.inPool rfl rfl rfl (by simp) hheld fun q numbers hvalid hbacks => ?_
    exact ⟨hbacks.registerBytes hnew numbers site, fun external => rfl⟩
  | free hheld hold site =>
    refine h.inPool rfl rfl rfl (by simp) hheld fun q numbers hvalid hbacks => ?_
    obtain ⟨freed, q', numbers', hfree, hbacks'⟩ := hbacks.free hvalid hold numbers site
    simp only [LinearPool.perform, hfree]
    exact ⟨hbacks', fun external => rfl⟩
  | endScope hheld hb hkind =>
    refine h.inPool rfl rfl rfl (by simp) hheld fun q numbers hvalid hbacks => ?_
    exact ⟨hbacks.endScope _, fun external => rfl⟩
  | move hheld hold hnew site =>
    refine h.inPool rfl rfl rfl (by simp) hheld fun q numbers hvalid hbacks => ?_
    obtain ⟨registration, hanswer, hbacks'⟩ := hbacks.move hvalid hold hnew numbers site
    simp only [LinearPool.perform, hanswer]
    exact ⟨hbacks', fun external => rfl⟩
  | moveEmpty hheld new hold site =>
    refine h.inPool rfl rfl rfl (by simp) hheld fun q numbers hvalid hbacks => ?_
    obtain ⟨registration, hanswer, hbacks'⟩ :=
      hbacks.move_empty hvalid hold new .heap numbers site
    simp only [LinearPool.perform, hanswer]
    exact ⟨hbacks', fun external => rfl⟩
  | @moveFailed id bs hheld old size hold hsize site =>
    rw [← Ledger.holding_self hheld]
    refine h.inPool rfl rfl rfl (by simp) hheld fun q numbers hvalid hbacks => ?_
    simp only [LinearPool.perform, LinearPool.Backs.move_failed hold hsize]
    exact ⟨hbacks, fun external => rfl⟩
  | @checkAccess id bs hheld b hb a ha length hend mode site =>
    refine h.asking rfl rfl rfl (by simp) rfl hheld fun q numbers hvalid hbacks external => ?_
    obtain ⟨verdict, hverdict, hknown⟩ := hbacks.checkAccess hvalid hb ha hend mode
    simp only [LinearPool.perform, hverdict]
    exact settle_verdict a hknown _ site
  | @checkArithmetic id bs hheld b hb source dest hsource hdest mode site =>
    refine h.asking rfl rfl rfl (by simp) rfl hheld fun q numbers hvalid hbacks external => ?_
    obtain ⟨verdict, hverdict, hknown⟩ := hbacks.checkArithmetic hvalid hb hsource hdest mode
    simp only [LinearPool.perform, hverdict]
    exact settle_verdict source hknown _ site
  | checkAlignment hheld hb ha hmultiple site =>
    refine h.asking rfl rfl rfl (by simp) rfl hheld fun q numbers hvalid hbacks external => ?_
    simp only [LinearPool.perform, hbacks.checkAlignment hvalid hb ha hmultiple]
    rfl
  | @checkString id bs hheld b hb a ha memory z hz hzero function site =>
    have hnull : a ≠ 0 := by
      obtain ⟨p, q, -, -, hbacks⟩ := h.pools id bs hheld
      exact hbacks.ne_null hb ha
    have hin : (Command.checkString memory id a function site).inPool m.allocators =
        some (id, .objectAt a) := if_neg hnull
    refine h.asking rfl rfl hin (by simp) rfl hheld fun q numbers hvalid hbacks external => ?_
    obtain ⟨o, -, rfl, hfind⟩ := hbacks.objectAt hvalid hb ha
    -- the zero byte is among those that are read
    have hle : a ≤ o.span.stop := UInt64.le_of_lt (Span.contains_iff.mp ha).2
    have hstop : z.toNat < o.span.stop.toNat := UInt64.lt_iff_toNat_lt.mp hz.2
    have hstart : a.toNat ≤ z.toNat := UInt64.le_iff_toNat_le.mp hz.1
    obtain ⟨k, hk⟩ := stringLength?_of_zero hz.1 hzero (n := (o.span.stop - a).toNat) (by
      rw [UInt64.toNat_sub_of_le _ _ hle]
      omega)
    simp only [LinearPool.perform, hfind, Command.conclude, if_neg hnull, objectIn, Option.some_or,
      readString, hk]
    rfl

end Follows

/-- A run of a program that uses memory as it should raises no alert. -/
theorem performAll_permits {m : Monitor} {l l' : Ledger} (h : m.Follows l) {cs : List Command}
    (hpermits : l.PermitsAll cs l') :
    (∀ answer ∈ (m.performAll cs).1, answer.violation? = none) ∧
      (m.performAll cs).2.told = m.told ∧ (m.performAll cs).2.Follows l' := by
  induction hpermits generalizing m with
  | nil l => exact ⟨by simp [performAll], rfl, h⟩
  | @cons l l' l'' c rest hfirst _ ih =>
    obtain ⟨hsilent, hfollows⟩ := h.permits hfirst
    obtain ⟨hrest, htold, hfollows'⟩ := ih hfollows
    have hrun : m.performAll (c :: rest) = ((m.perform c).1 :: ((m.perform c).2.performAll rest).1,
        ((m.perform c).2.performAll rest).2) := rfl
    -- a legal run tells of no violation by itself either
    have hnoReport : ∀ v, c ≠ .report v := by
      rintro v rfl
      cases hfirst
    rw [hrun]
    refine ⟨?_, ?_, hfollows'⟩
    · intro answer hanswer
      rcases List.mem_cons.mp hanswer with rfl | hlater
      · exact hsilent
      · exact hrest answer hlater
    · rw [htold, m.perform_told hnoReport, hsilent]
      rfl

/-- No run of a program that uses memory as it should raises an alert: no operation returns a
violation, the log is what it was, with its whole error budget, and no warning or fault is counted.
After the run the live objects of every pool are the blocks that the program holds there. -/
theorem performAll_silent (settings : Settings) (sink : Sink) (page : UInt64)
    {cs : List Command} {l : Ledger} (hpermits : Ledger.PermitsAll {} cs l) :
    let run := (start settings sink page).performAll cs
    (∀ answer ∈ run.1, answer.violation? = none) ∧
      run.2.alerts = (start settings sink page).alerts ∧
      run.2.counters.warnings = 0 ∧ run.2.counters.faults = 0 ∧
      ∀ id bs, l.held id = some bs →
        ∃ p, run.2.pool? id = some p ∧ (p.objects.map Object.block).Perm bs := by
  intro run
  obtain ⟨hsilent, htold, hfollows⟩ :=
    performAll_permits (follows_start settings sink page) hpermits
  refine ⟨hsilent, congrArg Told.alerts htold, congrArg Told.warnings htold,
    congrArg Told.faults htold, fun id bs hheld => ?_⟩
  obtain ⟨p, q, hp, hrefines, hbacks⟩ := hfollows.pools id bs hheld
  refine ⟨p, hp, ?_⟩
  rw [hrefines.objects]
  exact hbacks.perm

/-- A program registers 64 bytes at 4096, gives them back, receives 32 bytes at the same address,
moves them to 8192, and uses each block to its very end. -/
theorem performAll_silent_address_reused :
    let run := (start {} .standardError 4096).performAll
      [.createPool, .register 1 4096 64 .heap none, .checkAccess 1 4152 8 ⟨.complete, .write⟩ none,
        .free 1 4096 none, .register 1 4096 32 .heap none,
        .checkAccess 1 4096 32 ⟨.complete, .read⟩ none, .move 1 8192 4096 128 none,
        .checkArithmetic 1 8192 8320 ⟨.complete, .read⟩ none]
    run.1.filterMap Answer.violation? = [] ∧
      run.2.alerts = (start {} .standardError 4096).alerts := by
  intro run
  let first : Block := ⟨⟨4096, 4160, by decide⟩, .heap⟩
  let second : Block := ⟨⟨4096, 4128, by decide⟩, .heap⟩
  let third : Block := ⟨⟨8192, 8320, by decide⟩, .heap⟩
  have hempty : (Ledger.withPool {}).held 1 = some [] := rfl
  have hfirst : Obtains [] 4096 64 .heap [first] := .intro rfl (by decide) (by simp)
  have hsecond : Obtains (without [first] 4096) 4096 32 .heap [second] :=
    .intro rfl (by decide) (by decide)
  have hthird : Obtains (without [second] 4096) 8192 128 .heap [third] :=
    .intro rfl (by decide) (by decide)
  obtain ⟨l, hpermits⟩ : ∃ l, Ledger.PermitsAll {}
      [.createPool, .register 1 4096 64 .heap none, .checkAccess 1 4152 8 ⟨.complete, .write⟩ none,
        .free 1 4096 none, .register 1 4096 32 .heap none,
        .checkAccess 1 4096 32 ⟨.complete, .read⟩ none, .move 1 8192 4096 128 none,
        .checkArithmetic 1 8192 8320 ⟨.complete, .read⟩ none] l := by
    refine ⟨_, .cons .createPool <| .cons (.register hempty hfirst none) <|
      .cons (.checkAccess (b := first) rfl (by simp) (by decide) (by decide) _ none) <|
      .cons (.free rfl (.base (b := first) (by simp) rfl) none) <|
      .cons (.register rfl hsecond none) <|
      .cons (.checkAccess (b := second) rfl (by simp) (by decide) (by decide) _ none) <|
      .cons (.move rfl (.base (b := second) (by simp) rfl) hthird none) <|
      .cons (.checkArithmetic (b := third) rfl (by simp) (by decide) (by decide) _ none) (.nil _)⟩
  obtain ⟨hsilent, halerts, -⟩ := performAll_silent {} .standardError 4096 hpermits
  exact ⟨List.filterMap_eq_nil_iff.mpr hsilent, halerts⟩

end Monitor

end MemorySentry
