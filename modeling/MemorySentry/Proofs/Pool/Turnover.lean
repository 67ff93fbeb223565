import MemorySentry.Proofs.Pool.Frees

/-!
# How many objects come and go

The answer of an operation tells how many objects it has brought into a pool and how many it has
taken away (`Pool.Command.turnover`). If what it registers overlaps no object but the one that it
moves (`Pool.Command.Fits`), the number of live objects changes by just as many (`length_perform`).
-/

namespace MemorySentry

/-- How many objects came and went. -/
structure Turnover where
  /-- The objects that were registered. -/
  brought : Nat := 0
  /-- The objects that were freed, or dropped at the end of their scope. -/
  taken : Nat := 0
  /-- The objects that a move took away from their old place. -/
  moved : Nat := 0

namespace Pool

/-- The objects that come and go with an operation, by its answer. -/
def Command.turnover : Command → Answer → Turnover
  | .register .., _ | .registerBytes .., .registration (some _) => { brought := 1 }
  | .free .., .freed (.ok (some _)) | .endScope _, .object (some _) => { taken := 1 }
  | .move new old size _ _, .moved (.ok r) =>
    { brought := if r.isSome then 1 else 0
      moved := if old ≠ 0 ∧ (size = 0 ∨ new ≠ 0) then 1 else 0 }
  | _, _ => {}

/-- The base of the object that an operation moves. -/
def Command.movedFrom? : Command → Option Address
  | .move _ old _ _ _ => if old = 0 then none else some old
  | _ => none

/-- What an operation registers overlaps no live object, except the one that it moves. -/
def Command.Fits (c : Command) (answer : Answer) (live : List Object) : Prop :=
  ∀ s ∈ c.registered answer, ∀ o ∈ live, o.span.overlaps s = true →
    c.movedFrom? = some o.span.start

instance (c : Command) (answer : Answer) (live : List Object) : Decidable (c.Fits answer live) :=
  inferInstanceAs (Decidable (∀ s ∈ c.registered answer, ∀ o ∈ live,
    o.span.overlaps s = true → c.movedFrom? = some o.span.start))

section

variable {c : Command} {answer : Answer} {live : List Object} {s : Span}

/-- What an operation registers lies beside every live object that it does not move. -/
theorem Command.Fits.overlaps_eq_false (h : c.Fits answer live) (hs : c.registered answer = some s)
    {o : Object} (ho : o ∈ live) (hmoved : c.movedFrom? ≠ some o.span.start) :
    o.span.overlaps s = false :=
  Bool.eq_false_iff.mpr fun hov => hmoved (h s hs o ho hov)

/-- Where an operation moves nothing, what it registers lies beside all live objects. -/
theorem Command.Fits.beside (h : c.Fits answer live) (hs : c.registered answer = some s)
    (hmoved : c.movedFrom? = none) : ∀ o ∈ live, o.span.overlaps s = false :=
  fun o ho => h.overlaps_eq_false hs ho (by simp [hmoved])

end

end Pool

/-- Objects that are apart are different. -/
theorem Apart.nodup {os : List Object} (h : Apart os) : os.Nodup :=
  h.imp fun {o o'} hov heq => by simp [heq, Span.overlaps_self] at hov

/-- Without the object at a base there is one object less. -/
theorem Apart.length_filter_start_ne {os : List Object} (h : Apart os) {o : Object} (ho : o ∈ os) :
    (os.filter fun e => e.span.start ≠ o.span.start).length + 1 = os.length := by
  have herase : (os.filter fun e => e ≠ o) = os.erase o := by
    rw [h.nodup.erase_eq_filter]
    exact List.filter_congr fun e _ => by simp [bne, beq_eq_decide]
  have hpos := List.length_pos_of_mem ho
  rw [h.filter_start_ne ho, herase, List.length_erase_of_mem ho]
  omega

namespace LinearPool

open Pool (Command)

variable {q : LinearPool} {numbers : Numbering}

/-- A registration beside all live objects brings one more. -/
theorem length_register {s : Span} (hfree : ∀ o ∈ q.live, o.span.overlaps s = false)
    (kind : ObjectKind) (site : Option Site) :
    (q.register numbers s kind site).2.1.live.length = q.live.length + 1 := by
  have hkept : (q.live.filter fun o => !o.span.overlaps s) = q.live :=
    List.filter_eq_self.mpr fun o ho => by rw [hfree o ho, Bool.not_false]
  have hlive : (q.register numbers s kind site).2.1.live =
      place (q.newcomer numbers s kind site) (q.live.filter fun o => !o.span.overlaps s) := rfl
  rw [hlive, (place_perm _ _).length_eq, List.length_cons, hkept]

/-- Bytes that are registered bring one more as well, and bytes that are refused bring none. -/
theorem length_registerBytes (a : Address) (size : ByteCount) (kind : ObjectKind)
    (site : Option Site)
    (hfree : ∀ r, (q.registerBytes numbers a size kind site).1 = some r →
      ∀ s, Span.ofLength a size = .ok s → ∀ o ∈ q.live, o.span.overlaps s = false) :
    (q.registerBytes numbers a size kind site).2.1.live.length =
      q.live.length + if (q.registerBytes numbers a size kind site).1.isSome then 1 else 0 := by
  rcases registerBytes_cases q numbers a size kind site with ⟨s, hspan, heq⟩ | heq
  · rw [heq] at hfree ⊢
    exact length_register (hfree _ rfl s hspan) kind site
  · rw [heq]
    rfl

/-- A move takes the old object away unless it is refused or the reallocation has failed, and brings
the new one if that can be registered. -/
theorem length_move (h : q.Valid) (new old : Address) (size : ByteCount) (kind : ObjectKind)
    (site : Option Site)
    (hfits : (Command.move new old size kind site).Fits
      (.moved (q.move numbers new old size kind site).1) q.live) :
    let turnover := (Command.move new old size kind site).turnover
      (.moved (q.move numbers new old size kind site).1)
    (q.move numbers new old size kind site).2.1.live.length + turnover.taken + turnover.moved =
      q.live.length + turnover.brought := by
  by_cases hfailed : old ≠ 0 ∧ size ≠ 0 ∧ new = 0
  · simp [LinearPool.move, hfailed, Command.turnover]
  -- unless it has failed, a move is a free and then a registration
  have hmove {freed : Option Object} {q' : LinearPool} {numbers' : Numbering}
      (hfree : q.free numbers old site = (.ok freed, q', numbers')) :
      q.move numbers new old size kind site =
        (.ok (q'.registerBytes numbers' new size kind site).1,
          (q'.registerBytes numbers' new size kind site).2) := by
    rw [LinearPool.move, if_neg hfailed, hfree]
  have hregistered {r : Registration} {s : Span} (hs : Span.ofLength new size = .ok s) :
      (Command.move new old size kind site).registered (.moved (.ok (some r))) = some s := by
    rw [Command.registered, hs]
    rfl
  rcases free_cases q numbers old site with
    ⟨hold, hfree⟩ | ⟨hold, o, hlive, -, hbase, hfree⟩ | ⟨v, hfree⟩
  · -- without an old object nothing is freed
    rw [hmove hfree] at hfits ⊢
    have hlength := length_registerBytes new size kind site fun r hr s hs =>
      hfits.beside (by rw [hr]; exact hregistered hs) (by simp [Command.movedFrom?, hold])
    simpa [Command.turnover, hold] using hlength
  · -- the new object lies beside all objects but the old one, which is gone before it comes
    obtain ⟨q', numbers', hfree, hkept⟩ : ∃ q' numbers',
        q.free numbers old site = (.ok (some (o.retire numbers.nextFree site)), q', numbers') ∧
          q'.live = q.live.filter fun e => e.span.start ≠ o.span.start := ⟨_, _, hfree, rfl⟩
    rw [hmove hfree] at hfits ⊢
    have hgone := h.apart_live.length_filter_start_ne hlive
    rw [← hkept] at hgone
    have hlength : (q'.registerBytes numbers' new size kind site).2.1.live.length = _ :=
      length_registerBytes new size kind site fun r hr s hs e he => by
        obtain ⟨helive, hne⟩ := List.mem_filter.mp (hkept ▸ he)
        refine hfits.overlaps_eq_false (by rw [hr]; exact hregistered hs) helive ?_
        rw [Command.movedFrom?, if_neg hold, ← hbase]
        exact fun hmoved => of_decide_eq_true hne (Option.some.inj hmoved).symm
    have hdone : size = 0 ∨ new ≠ 0 := by tauto
    simp only [Command.turnover, hold, hdone, ne_eq, not_false_eq_true, true_and, if_true]
    omega
  · -- a refused free ends the move
    simp [LinearPool.move, hfailed, hfree, Command.turnover]

/-- The number of live objects changes by what an operation brings and takes away. -/
theorem length_perform (h : q.Valid) {c : Command} (hc : c ≠ .reset)
    (hfits : c.Fits (q.perform numbers c).1 q.live) :
    let turnover := c.turnover (q.perform numbers c).1
    (q.perform numbers c).2.1.live.length + turnover.taken + turnover.moved =
      q.live.length + turnover.brought := by
  cases c with
  | register s kind site =>
    simpa [perform, Command.turnover] using length_register (hfits.beside rfl rfl) kind site
  | registerBytes a size kind site =>
    have hanswer : (q.perform numbers (.registerBytes a size kind site)).1 =
        .registration (q.registerBytes numbers a size kind site).1 := rfl
    have hlength : (q.registerBytes numbers a size kind site).2.1.live.length = _ :=
      length_registerBytes a size kind site fun r hr s hs =>
        hfits.beside (by rw [hanswer, hr, Command.registered, hs]; rfl) rfl
    simp only [perform]
    rw [hlength]
    cases (q.registerBytes numbers a size kind site).1 <;> rfl
  | free a site =>
    rcases free_cases q numbers a site with
      ⟨-, hfree⟩ | ⟨-, o, hlive, -, hbase, hfree⟩ | ⟨v, hfree⟩
    · simp [perform, hfree, Command.turnover]
    · simpa [perform, hfree, Command.turnover] using h.apart_live.length_filter_start_ne hlive
    · simp [perform, hfree, Command.turnover]
  | endScope a =>
    simp only [perform, endScope_eq]
    cases hfind : q.live.find? fun o => o.span.start == a with
    | none =>
      -- no live object has the base
      have hall : (q.live.filter fun e => e.span.start ≠ a) = q.live :=
        List.filter_eq_self.mpr fun e he => by simpa using List.find?_eq_none.mp hfind e he
      rw [hall]
      rfl
    | some o =>
      have hbase : o.span.start = a := by simpa using List.find?_some hfind
      exact hbase ▸ h.apart_live.length_filter_start_ne (List.mem_of_find?_eq_some hfind)
  | move new old size kind site =>
    exact length_move h new old size kind site hfits
  | reset => exact absurd rfl hc
  | checkAccess | checkAlignment | checkArithmetic | objectAt | retainedAt | objects | stats => rfl

end LinearPool

namespace Pool

/-- The number of objects of a pool changes by what an operation brings and takes away. -/
theorem Refines.length_objects {p : Pool} {q : LinearPool} (h : p.Refines q) {numbers : Numbering}
    {c : Command} (hc : c ≠ .reset) (hfits : c.Fits (p.perform numbers c).1 p.objects) :
    let turnover := c.turnover (p.perform numbers c).1
    (p.perform numbers c).2.1.objects.length + turnover.taken + turnover.moved =
      p.objects.length + turnover.brought := by
  by_cases hstats : c = .stats
  · subst hstats
    rfl
  · rw [h.perform_answer numbers hstats] at hfits ⊢
    rw [h.objects] at hfits ⊢
    rw [(perform_refines h numbers c).2.1.objects]
    exact LinearPool.length_perform h.valid hc hfits

end Pool

end MemorySentry
