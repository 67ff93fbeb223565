import MemorySentry.Proofs.Pool.Equivalence

/-!
# What a pool keeps at hand

A linear pool keeps nothing at hand, so that it does not tell how many look-ups the objects at hand
answer. `AtHand` says the rest: what every operation does to the objects at hand, as a function of
the live objects alone (`perform_atHand`). What is retained and how it is numbered has no influence.
-/

namespace MemorySentry

/-- The objects that a pool keeps at hand. -/
structure AtHand where
  /-- The live object that was found last. -/
  recent : Option Object := none
  /-- The live object that was found last before that one. -/
  earlier : Option Object := none
  /-- The number of look-ups that the objects at hand answered. -/
  hits : Nat := 0
deriving DecidableEq

/-- The objects at hand of a pool. -/
def Pool.atHand (p : Pool) : AtHand :=
  ⟨p.recent, p.earlier, p.hits⟩

namespace AtHand

/-- Looks for the live object that covers an address. -/
def lookup (h : AtHand) (live : List Object) (a : Address) : AtHand :=
  if (Pool.covering? h.recent a).isSome then { h with hits := h.hits + 1 }
  else if (Pool.covering? h.earlier a).isSome then
    { recent := h.earlier, earlier := h.recent, hits := h.hits + 1 }
  else
    match LinearPool.covering live a with
    | some o => { h with recent := some o, earlier := h.recent }
    | none => h

/-- Keeps nothing at hand any more. -/
def forget (h : AtHand) : AtHand :=
  { h with recent := none, earlier := none }

/-- Registers bytes. -/
def registerBytes (h : AtHand) (a : Address) (size : ByteCount) : AtHand :=
  if a ≠ 0 ∧ (Span.ofLength a size).toOption.isSome then h.forget else h

/-- Whether a free of an address is a free of a live object. -/
def frees (live : List Object) (a : Address) : Bool :=
  (LinearPool.covering live a).any fun o => o.kind.isHeap && o.span.start == a

/-- Frees the object based at an address. -/
def free (h : AtHand) (live : List Object) (a : Address) : AtHand :=
  if a = 0 then h
  else if frees live a then (h.lookup live a).forget
  else h.lookup live a

/-- The objects at hand after an operation. -/
def after (h : AtHand) (live : List Object) : Pool.Command → AtHand
  | .register .. | .endScope _ | .reset => h.forget
  | .registerBytes a size _ _ => h.registerBytes a size
  | .free a _ => h.free live a
  | .move new old size _ _ =>
    if old = 0 then h.registerBytes new size
    else if size ≠ 0 ∧ new = 0 then h
    else h.free live old
  | .checkAccess a length _ => if length = 0 then h else h.lookup live a
  | .checkAlignment a elementSize => if a = 0 ∨ elementSize = 0 then h else h.lookup live a
  | .checkArithmetic a _ _ | .objectAt a => h.lookup live a
  | .retainedAt _ | .objects | .stats => h

/-- After a free of an object nothing is at hand that a registration could make the pool forget. -/
theorem registerBytes_free (h : AtHand) (live : List Object) (a new : Address) (size : ByteCount)
    (ha : a ≠ 0) (hfrees : frees live a = true) :
    (h.free live a).registerBytes new size = h.free live a := by
  rw [free, if_neg ha, if_pos hfrees, registerBytes]
  split <;> rfl

end AtHand

namespace Pool

/-- A registration forgets what was at hand. -/
theorem atHand_register (p : Pool) (numbers : Numbering) (s : Span) (kind : ObjectKind)
    (site : Option Site) : (p.register numbers s kind site).2.1.atHand = p.atHand.forget := by
  rfl

/-- So does one of some bytes from an address on, if there is an object to register. -/
theorem atHand_registerBytes (p : Pool) (numbers : Numbering) (a : Address) (size : ByteCount)
    (kind : ObjectKind) (site : Option Site) :
    (p.registerBytes numbers a size kind site).2.1.atHand = p.atHand.registerBytes a size := by
  unfold Pool.registerBytes AtHand.registerBytes
  by_cases ha : a = 0
  · simp [ha]
  · cases Span.ofLength a size with
    | error e => simp [ha, Except.toOption]
    | ok s => simp [ha, Except.toOption, atHand_register]

/-- To retain an object leaves alone what is at hand. -/
theorem atHand_retain (p : Pool) (o : Object) (most : Nat) :
    (p.retain o most).atHand = p.atHand := by
  simp only [Pool.retain]
  split <;> rfl

/-- To retire one does, too. -/
theorem atHand_retire (p : Pool) (numbers : Numbering) (o : Object) (site : Option Site) :
    (p.retire numbers o site).2.1.atHand = p.atHand := by
  unfold Pool.retire
  simp only
  split
  · exact atHand_retain _ _ _
  · rfl

namespace Refines

variable {p : Pool} {q : LinearPool}

/-- A look-up leaves at hand what the linear pool says that it does. -/
theorem atHand_find (h : p.Refines q) (a : Address) :
    (p.find a).2.atHand = p.atHand.lookup q.live a := by
  obtain ⟨live, hlookup, -⟩ := h.live.lookup a
  unfold Pool.find AtHand.lookup
  cases hrecent : covering? p.recent a with
  | some o => simp [atHand, hrecent]
  | none =>
    cases hearlier : covering? p.earlier a with
    | some o => simp [atHand, hrecent, hearlier]
    | none =>
      rw [hlookup]
      cases LinearPool.covering q.live a <;> simp [atHand, hrecent, hearlier, Object.entry]

/-- So does a free. -/
theorem atHand_free (h : p.Refines q) (numbers : Numbering) (a : Address) (site : Option Site) :
    (p.free numbers a site).2.1.atHand = p.atHand.free q.live a := by
  unfold Pool.free AtHand.free AtHand.frees
  by_cases ha : a = 0
  · rw [if_pos ha, if_pos ha]
  rw [if_neg ha, if_neg ha, ← h.atHand_find a]
  obtain ⟨p₁, hfind, -⟩ := h.find a
  rw [hfind, LinearPool.objectAt]
  cases LinearPool.covering q.live a with
  | none => rfl
  | some o =>
    by_cases hheap : o.kind.isHeap = true
    · by_cases hstart : o.span.start = a
      · simp [hheap, hstart, atHand_retire]
        rfl
      · simp [hheap, hstart]
    · simp [hheap]

/-- A free that the linear pool carries out is one of a live object. -/
theorem frees_eq (q : LinearPool) (numbers : Numbering) {a : Address} (ha : a ≠ 0)
    (site : Option Site) :
    AtHand.frees q.live a = true ↔ ∃ o, (q.free numbers a site).1 = .ok o := by
  unfold LinearPool.free AtHand.frees LinearPool.objectAt
  rw [if_neg ha]
  cases LinearPool.covering q.live a with
  | none => cases q.retainedAt a <;> simp
  | some o =>
    by_cases hheap : o.kind.isHeap = true
    · by_cases hstart : o.span.start = a <;> simp [hheap, hstart]
    · simp [hheap]

/-- So does a move. -/
theorem atHand_move (h : p.Refines q) (numbers : Numbering) (new old : Address) (size : ByteCount)
    (kind : ObjectKind) (site : Option Site) :
    (p.move numbers new old size kind site).2.1.atHand =
      p.atHand.after q.live (.move new old size kind site) := by
  unfold Pool.move
  simp only [AtHand.after]
  by_cases hold : old = 0
  · simp [hold, atHand_registerBytes]
  by_cases hsize : size = 0
  · simp [hold, hsize, h.atHand_free]
  by_cases hnew : new = 0
  · simp [hold, hsize, hnew]
  have hfree := h.atHand_free numbers old site
  have hanswer := (h.free numbers old site).answer
  rcases heq : p.free numbers old site with ⟨r, p', numbers'⟩
  rw [heq] at hfree hanswer
  rw [if_neg hold, if_neg hsize, if_neg hnew, if_neg hold, if_neg (by simp [hnew])]
  cases r with
  | error v => exact hfree
  | ok freed =>
    -- the free has left nothing at hand for the registration to forget
    have hfrees := (frees_eq q numbers hold site).mpr ⟨freed, hanswer.symm⟩
    simp only [atHand_registerBytes]
    rw [hfree, AtHand.registerBytes_free _ _ _ _ _ hold hfrees]

end Refines

/-- What an operation does to the objects at hand depends only on them and on the live objects. -/
theorem perform_atHand {p : Pool} {q : LinearPool} (h : p.Refines q) (numbers : Numbering)
    (c : Command) : (p.perform numbers c).2.1.atHand = p.atHand.after q.live c := by
  cases c with
  | register s kind site => rfl
  | registerBytes a size kind site => exact atHand_registerBytes p numbers a size kind site
  | free a site => exact h.atHand_free numbers a site
  | endScope a =>
    simp only [perform, Pool.endScope]
    rcases p.forgetRecent.live.removeAt a with ⟨_ | _, live⟩ <;> rfl
  | move new old size kind site => exact h.atHand_move numbers new old size kind site
  | checkAccess a length mode =>
    simp only [perform, Pool.checkAccess, AtHand.after]
    -- no bytes are looked up nowhere
    by_cases hlength : length = 0
    · simp [hlength]
    · obtain ⟨p₁, hfind, -⟩ := h.find a
      rw [if_neg hlength, if_neg hlength, ← h.atHand_find a, hfind]
      cases q.objectAt a with
      | none => rfl
      | some o =>
        simp only
        split <;> rfl
  | checkAlignment a elementSize =>
    simp only [perform, Pool.checkAlignment, AtHand.after]
    -- an alignment that cannot be wrong is looked up nowhere
    by_cases htrivial : a = 0 ∨ elementSize = 0
    · rw [if_pos htrivial, if_pos htrivial]
    · obtain ⟨p₁, hfind, -⟩ := h.find a
      rw [if_neg htrivial, if_neg htrivial, ← h.atHand_find a, hfind]
      cases q.objectAt a with
      | none => rfl
      | some o =>
        simp only
        split <;> rfl
  | checkArithmetic source dest mode =>
    simp only [perform, Pool.checkArithmetic, AtHand.after]
    obtain ⟨p₁, hfind, -⟩ := h.find source
    rw [← h.atHand_find source, hfind]
    cases q.objectAt source with
    | none =>
      simp only
      split <;> rfl
    | some o =>
      simp only
      split <;> rfl
  | objectAt a => exact h.atHand_find a
  | retainedAt a => rfl
  | objects => rfl
  | stats => rfl
  | reset => rfl

end Pool

end MemorySentry
