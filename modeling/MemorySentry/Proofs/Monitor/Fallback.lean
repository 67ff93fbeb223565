import MemorySentry.Proofs.Monitor.Alerts
import MemorySentry.Proofs.Monitor.Legality
import MemorySentry.Proofs.Monitor.Reachability

/-!
# Objects from outside and the checks of a pool

A pool may know nothing about a pointer that the program received from outside. The checks of
accesses, of pointer arithmetic and of strings then ask the objects from outside and find no fault
with a use that stays in the object (`OnlyOutside.permits`). The alignment check does not ask them:
it calls the pointer misaligned, wherever it is in its object (`OnlyOutside.misaligned`).
-/

namespace MemorySentry.Monitor

/-- A pool knows nothing about an address, but an object from outside covers it. -/
structure OnlyOutside (m : Monitor) (id : PoolId) (a : Address) (o : Object) : Prop where
  pool : ∃ p, m.pool? id = some p ∧ (p.objectAt a).1 = none ∧ (p.findRetained a).1 = none
  outside : (m.externalAt a).1 = some o

/-- The checks of uses of an address that stay in its object, in any mode. -/
inductive StaysIn (o : Object) (id : PoolId) (a : Address) : Command → Prop
  | access {length : ByteCount} (hbytes : o.span.containsBytes a length = true) (mode : CheckMode)
      (site : Option Site) : StaysIn o id a (.checkAccess id a length mode site)
  | arithmetic {dest : Address} (hdest : o.span.start ≤ dest ∧ dest ≤ o.span.stop)
      (mode : CheckMode) (site : Option Site) :
      StaysIn o id a (.checkArithmetic id a dest mode site)
  | string {memory : Address → UInt8} {z : Address} (hz : a ≤ z ∧ z < o.span.stop)
      (hzero : memory z = 0) (function : String) (site : Option Site) :
      StaysIn o id a (.checkString memory id a function site)

end MemorySentry.Monitor

namespace MemorySentry.LinearPool

variable {q : LinearPool} {a : Address}

/-- An access within the object at its address is in bounds. -/
theorem checkAccess_of_objectAt {o : Object} (hat : q.objectAt a = some o) {length : ByteCount}
    (hlength : length ≠ 0) (hbytes : o.span.containsBytes a length = true) (mode : CheckMode) :
    q.checkAccess a length mode = .ok (.inBounds o.span) := by
  have hend := (Span.containsBytes_iff.mp hbytes).2
  simp only [checkAccess, if_neg hlength, hat, if_pos hend]

/-- So is arithmetic that stays in it. -/
theorem checkArithmetic_of_objectAt {o : Object} (hat : q.objectAt a = some o) {dest : Address}
    (hdest : o.span.start ≤ dest ∧ dest ≤ o.span.stop) (mode : CheckMode) :
    q.checkArithmetic a dest mode = .ok (.inBounds o.span) := by
  simp only [checkArithmetic, hat, if_pos hdest]

/-- A pool that knows nothing about an address leaves an access there to others. -/
theorem missed_checkAccess (hlive : q.objectAt a = none) (hretained : q.retainedAt a = none)
    (hnull : a ≠ 0) {length : ByteCount} (hlength : length ≠ 0) (mode : CheckMode) :
    Monitor.missed a (q.checkAccess a length mode) = true := by
  simp only [checkAccess, if_neg hlength, hlive, hretained]
  cases mode.provenance with
  | complete => simp [Monitor.missed, hnull]
  | incomplete => rfl

/-- A pool that knows nothing about an address leaves arithmetic there to others, unless it stays in
the first page. -/
theorem missed_checkArithmetic (hlive : q.objectAt a = none) (hretained : q.retainedAt a = none)
    (hnull : a ≠ 0) (dest : Address) (mode : CheckMode) :
    q.checkArithmetic a dest mode = .ok .empty ∨
      Monitor.missed a (q.checkArithmetic a dest mode) = true := by
  simp only [checkArithmetic, hlive, hretained]
  split
  · exact .inl rfl
  · right
    cases mode.provenance with
    | complete => simp [Monitor.missed, hnull]
    | incomplete => rfl

end MemorySentry.LinearPool

namespace MemorySentry.Monitor

/-- An operation on a pool that exists has the answer of this pool. -/
theorem poolAnswer?_of_inPool {m : Monitor} {c : Command} {id : PoolId} {pc : Pool.Command}
    (hin : c.inPool m.allocators = some (id, pc)) {p : Pool} (hp : m.pool? id = some p) :
    m.poolAnswer? c = some (p.perform m.numbers pc).1 := by
  simp only [poolAnswer?, hin, Option.bind_some, hp, Option.map_some]

namespace OnlyOutside

variable {m : Monitor} {id : PoolId} {a : Address} {o : Object}

/-- The same said of linear pools. -/
theorem linear (h : m.OnlyOutside id a o) (hm : m.WellFormed) :
    ∃ p q outside, m.pool? id = some p ∧ p.Refines q ∧ q.objectAt a = none ∧
      q.retainedAt a = none ∧ m.external.Refines outside ∧ outside.objectAt a = some o ∧
      o.span.contains a = true ∧ a ≠ 0 := by
  obtain ⟨p, hp, hlive, hretained⟩ := h.pool
  obtain ⟨q, hq⟩ := hm.pools id p hp
  obtain ⟨outside, houtside, hnull⟩ := hm.external
  obtain ⟨p', hfindr, -⟩ := hq.findRetained a
  have hat : outside.objectAt a = some o := (houtside.objectAt_fst a).symm.trans h.outside
  obtain ⟨hmem, hcontains⟩ :=
    (LinearPool.covering_eq_some_iff houtside.valid.apart_live).mp hat
  refine ⟨p, q, outside, hp, hq, ?_, ?_, houtside, hat, hcontains, ?_⟩
  · exact (hq.objectAt_fst a).symm.trans hlive
  · simpa only [hfindr] using hretained
  · rintro rfl
    rw [hnull o hmem] at hcontains
    cases hcontains

/-- A use of the address that stays in its object from outside is no violation. -/
theorem permits (h : m.OnlyOutside id a o) (hm : m.WellFormed) {c : Command}
    (hc : StaysIn o id a c) : (m.perform c).1.violation? = none := by
  obtain ⟨p, q, outside, hp, hq, hlive, hretained, houtside, hat, hcontains, hnull⟩ := h.linear hm
  cases hc with
  | @access length hbytes mode site =>
    have hpool := poolAnswer?_of_inPool (m := m) (c := .checkAccess id a length mode site) rfl hp
    have hverdict : (p.checkAccess a length mode).1 = q.checkAccess a length mode :=
      (hq.checkAccess a length mode).1
    rw [(m.perform_spec rfl rfl).answer, hpool]
    simp only [Command.conclude, Pool.perform, verdictIn, hverdict,
      (houtside.checkAccess a length _).1]
    by_cases hlength : length = 0
    · -- no byte is accessed, and nobody is asked
      have hempty : q.checkAccess a length mode = .ok .empty := if_pos hlength
      rw [hempty]
      rfl
    · rw [settle_of_missed (LinearPool.missed_checkAccess hlive hretained hnull hlength mode),
        LinearPool.checkAccess_of_objectAt hat hlength hbytes]
      · rfl
      · rw [LinearPool.checkAccess_of_objectAt hat hlength hbytes]
        simp
  | @arithmetic dest hdest mode site =>
    have hpool := poolAnswer?_of_inPool (m := m) (c := .checkArithmetic id a dest mode site) rfl hp
    have hverdict : (p.checkArithmetic a dest mode).1 = q.checkArithmetic a dest mode :=
      (hq.checkArithmetic a dest mode).1
    rw [(m.perform_spec rfl rfl).answer, hpool]
    simp only [Command.conclude, Pool.perform, verdictIn, hverdict,
      (houtside.checkArithmetic a dest _).1, LinearPool.checkArithmetic_of_objectAt hat hdest]
    rcases LinearPool.missed_checkArithmetic hlive hretained hnull dest mode with hempty | hmissed
    · rw [hempty]
      rfl
    · rw [settle_of_missed hmissed (by simp)]
      rfl
  | @string memory z hz hzero function site =>
    have hin : (Command.checkString memory id a function site).inPool m.allocators =
        some (id, .objectAt a) := if_neg hnull
    obtain ⟨p', hfind, -⟩ := hq.find a
    obtain ⟨external, hfindx, -⟩ := houtside.find a
    -- the zero byte is among those that are read
    have hle : a ≤ o.span.stop := UInt64.le_of_lt (Span.contains_iff.mp hcontains).2
    have hstop : z.toNat < o.span.stop.toNat := UInt64.lt_iff_toNat_lt.mp hz.2
    have hstart : a.toNat ≤ z.toNat := UInt64.le_iff_toNat_le.mp hz.1
    obtain ⟨k, hk⟩ := stringLength?_of_zero hz.1 hzero (n := (o.span.stop - a).toNat) (by
      rw [UInt64.toNat_sub_of_le _ _ hle]
      omega)
    rw [(m.perform_spec rfl rfl).answer, poolAnswer?_of_inPool hin hp]
    simp only [Command.conclude, if_neg hnull, Pool.perform, objectIn, Pool.objectAt, hfind, hlive,
      hfindx, hat, Option.none_or, readString, hk]
    rfl

/-- The alignment check does not ask the objects from outside. -/
theorem misaligned (h : m.OnlyOutside id a o) (hm : m.WellFormed) {elementSize : ByteCount}
    (hsize : elementSize ≠ 0) (site : Option Site) :
    (m.perform (.checkAlignment id a elementSize site)).1 =
      .checked (.error
        ((({ kind := .misaligned, pointer := a } : Violation).requiring elementSize).atSite?
          site)) := by
  obtain ⟨p, q, outside, hp, hq, hlive, -, -, -, -, hnull⟩ := h.linear hm
  have hpool := poolAnswer?_of_inPool (m := m) (c := .checkAlignment id a elementSize site) rfl hp
  have hverdict : (p.checkAlignment a elementSize).1 =
      .error (({ kind := .misaligned, pointer := a } : Violation).requiring elementSize) := by
    rw [(hq.checkAlignment a elementSize).1, LinearPool.checkAlignment,
      if_neg (not_or.mpr ⟨hnull, hsize⟩), hlive]
  rw [(m.perform_spec rfl rfl).answer, hpool]
  simp only [Command.conclude, Pool.perform, alignedIn, hverdict]
  rfl

end OnlyOutside

/-- In every state that a program can come to: where a pool knows nothing about an address that an
object from outside covers, accesses, pointer arithmetic and strings that stay in the object are no
violations. The alignment check alone finds one wherever the address is in the object, since it does
not ask the objects from outside. -/
theorem fallback_of_reachable {settings : Settings} {sink : Sink} {m : Monitor}
    (hm : Reachable settings sink m) {id : PoolId} {a : Address} {o : Object}
    (hoccurs : m.OnlyOutside id a o) :
    (∀ c, StaysIn o id a c → (m.perform c).1.violation? = none) ∧
      ∀ elementSize site, elementSize ≠ 0 →
        (m.perform (.checkAlignment id a elementSize site)).1 =
          .checked (.error
            ((({ kind := .misaligned, pointer := a } : Violation).requiring elementSize).atSite?
              site)) :=
  ⟨fun _ hc => hoccurs.permits hm.wellFormed hc,
    fun _ site hsize => hoccurs.misaligned hm.wellFormed hsize site⟩

/-- The last bytes of an argument of the program are written, and a pointer is moved to its end,
while the pool is empty. -/
theorem fallback_of_reachable_argument :
    let m :=
      ((start {} (.buffer 0) 4096).performAll [.createPool, .registerExternal 4096 16 none]).2
    (m.perform (.checkAccess 1 4104 8 ⟨.complete, .write⟩ none)).1.violation? = none ∧
      (m.perform (.checkArithmetic 1 4104 4112 ⟨.complete, .read⟩ none)).1.violation? = none := by
  intro m
  let argument : Object := ⟨⟨4096, 4112, by decide⟩, .external, 1, none, none⟩
  have hm : Reachable {} (.buffer 0) m := (Reachable.start 4096).performAll _
  have houtside : m.OnlyOutside 1 4104 argument := ⟨⟨_, rfl, rfl, rfl⟩, rfl⟩
  obtain ⟨hpermits, -⟩ := fallback_of_reachable hm houtside
  exact ⟨hpermits _ (.access (by decide) ⟨.complete, .write⟩ none),
    hpermits _ (.arithmetic (by decide) ⟨.complete, .read⟩ none)⟩

/-- The same argument is called misaligned at a multiple of the size of its elements. -/
theorem checkAlignment_ignores_argument :
    let m :=
      ((start {} (.buffer 0) 4096).performAll [.createPool, .registerExternal 4096 16 none]).2
    (∃ o, m.OnlyOutside 1 4104 o ∧ o.span.start = 4096 ∧ (4104 - o.span.start) % 8 = 0) ∧
      (m.perform (.checkAlignment 1 4104 8 none)).1.violation? =
        some ((({ kind := .misaligned, pointer := 4104 } : Violation).requiring 8)) := by
  intro m
  let argument : Object := ⟨⟨4096, 4112, by decide⟩, .external, 1, none, none⟩
  exact ⟨⟨argument, ⟨⟨_, rfl, rfl, rfl⟩, rfl⟩, rfl, by decide⟩, rfl⟩

end MemorySentry.Monitor
