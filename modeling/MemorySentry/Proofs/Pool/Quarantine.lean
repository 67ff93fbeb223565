import MemorySentry.Proofs.Pool.Frees
import MemorySentry.Proofs.Pool.Registering

/-!
# The quarantine

A pool keeps freed objects twice: a map has them by their addresses, and the quarantine names them
in the order of their frees. The program changes one after the other, and where they disagree it
goes on without a word. They never do: `Queues` says that the quarantine names the objects of the
map, from the oldest free to the newest.

- `requeued`: the objects in this order after an operation. A free puts one at the end and drops the
  first if there are too many, a registration takes out those that it overlaps, a reset takes out
  all, and nothing else changes them.
- `Trims`: the loop that drops objects, as the program runs it, without the cases in which the
  quarantine names an object that is not there.

`performAll_quarantine` says both of every pool that a run can reach.
-/

namespace MemorySentry

namespace Pool

/-- The retained objects of a pool in the order of their frees, which is the order in which the
quarantine names them. -/
structure Queues (p : Pool) (os : List Object) : Prop where
  /-- They are the retained objects. -/
  perm : os.Perm p.retainedObjects
  /-- The numbers of their frees increase. -/
  ascending : os.Pairwise fun o o' => o.freeId < o'.freeId
  /-- The quarantine names each of them once and nothing else. -/
  quarantine : p.quarantine = os.map Object.key

/-! ### What operations do to the order -/

/-- A freed object, if there is one, goes to the end. The first one is dropped if there are more
than `most` then. -/
def enqueue (most : Nat) (os : List Object) : Option Object → List Object
  | none => os
  | some freed => if os.length < most then os ++ [freed] else (os ++ [freed]).tail

/-- The objects that do not overlap a span, if there is one. -/
def vacate (os : List Object) : Option Span → List Object
  | none => os
  | some s => os.filter fun o => !o.span.overlaps s

/-- The object that an operation frees. A move that has failed frees nothing. -/
def freedBy (p : Pool) (numbers : Numbering) : Command → Option Object
  | .free a site => (p.free numbers a site).1.toOption.join
  | .move new old size _ site =>
    if size = 0 ∨ new ≠ 0 then (p.free numbers old site).1.toOption.join else none
  | _ => none

/-- The retained objects after an operation, in the order of their frees. -/
def requeued (p : Pool) (numbers : Numbering) (most : Nat) (os : List Object) (c : Command) :
    List Object :=
  if c = .reset then []
  else vacate (enqueue most os (p.freedBy numbers c)) (c.registered (p.perform numbers c).1)

/-! ### The loop that drops objects -/

/-- The loop that drops the oldest objects while there are more than `most`: a quarantine and a map
before it and after it, and what it dropped. Each entry that it takes from the front of the
quarantine names an object that the map has and gives up. -/
inductive Trims (most : Nat) : List (Address × Nat) → SpanMap Object → List Object →
    List (Address × Nat) → SpanMap Object → Prop
  /-- There are no more than `most`. -/
  | done {quarantine : List (Address × Nat)} {retained : SpanMap Object}
      (hsize : retained.size ≤ most) : Trims most quarantine retained [] quarantine retained
  /-- The oldest object is taken out, and the loop goes on. -/
  | drop {quarantine quarantine' : List (Address × Nat)}
      {retained found removed retained' : SpanMap Object} {o : Object} {dropped : List Object}
      (hsize : most < retained.size)
      (hlookup : retained.lookup o.span.start = (some o.entry, found))
      (hremove : found.removeAt o.span.start = (.ok o.entry, removed))
      (hrest : Trims most quarantine removed dropped quarantine' retained') :
      Trims most (o.key :: quarantine) retained (o :: dropped) quarantine' retained'

/-- A freed object is retained without a surprise: the eviction before it does not touch the
quarantine, the map accepts the object, and the loop drops at most one. -/
inductive Retires (p : Pool) (most : Nat) (freed : Object) (p' : Pool) : Prop
  | intro {evicted inserted : SpanMap Object} {dropped : List Object}
      (hevict : Evicts freed.span p.retained p.quarantine evicted p.quarantine)
      (hinsert : evicted.insert freed.span freed = (.ok (), inserted))
      (htrim : Trims most (p.quarantine ++ [freed.key]) inserted dropped p'.quarantine p'.retained)
      (hdropped : dropped.length ≤ 1)

end Pool

/-! ### The loop on lists -/

namespace SpanMap.Stores

variable {m : SpanMap Object} {os : List Object}

/-- A map gives up an object that it has. -/
theorem removeAt_start (h : m.Stores os) {o : Object} (ho : o ∈ os) :
    (m.removeAt o.span.start).1 = .ok o.entry := by
  have happart := h.apart
  obtain ⟨sorted, hperm, hlists⟩ := h
  obtain ⟨r, m', hremove, hanswer, -⟩ := hlists.removeAt o.span.start
  -- only the object itself is based where it is
  have hfind : (sorted.find? fun e => e.span.start == o.span.start) = some o := by
    have hsome : (sorted.find? fun e => e.span.start == o.span.start).isSome = true :=
      List.find?_isSome.mpr ⟨o, hperm.mem_iff.mpr ho, beq_self_eq_true _⟩
    obtain ⟨e, he⟩ := Option.isSome_iff_exists.mp hsome
    have hmem : e ∈ os := hperm.mem_iff.mp (List.mem_of_find?_eq_some he)
    have hstart : e.span.start = o.span.start := by simpa using List.find?_some he
    rw [he, happart.eq_of_start_eq hmem ho hstart]
  rw [hfind] at hanswer
  rw [hremove]
  cases r with
  | error e => cases hanswer
  | ok e => rw [Option.some.inj hanswer]

end SpanMap.Stores

namespace LinearPool

/-- Of objects of which one more than may stay has come to the end, the newest stay. -/
theorem newest_concat {most : Nat} {os : List Object} (h : os.length ≤ most) (freed : Object) :
    newest most (os ++ [freed]) = Pool.enqueue most os (some freed) := by
  rw [newest, List.length_append, List.length_singleton, Pool.enqueue]
  by_cases hroom : os.length < most
  · rw [if_pos hroom, Nat.sub_eq_zero_of_le (Nat.succ_le_of_lt hroom), List.drop_zero]
  · have hfull : os.length = most := Nat.le_antisymm h (Nat.not_lt.mp hroom)
    rw [if_neg hroom, hfull, Nat.add_sub_cancel_left, List.drop_one]

end LinearPool

namespace Pool

open SpanMap

/-- The loop runs to its end and drops what is older than the newest objects. -/
theorem trims_trim {m : SpanMap Object} {os : List Object} (h : m.Stores os) (most : Nat) :
    ∃ dropped, dropped ++ LinearPool.newest most os = os ∧
      Trims most (os.map Object.key) m dropped (trim most (os.map Object.key) m).1
        (trim most (os.map Object.key) m).2 := by
  induction os generalizing m with
  | nil =>
    refine ⟨[], LinearPool.newest_of_length_le (Nat.zero_le most), .done ?_⟩
    rw [h.size]
    exact Nat.zero_le most
  | cons o rest ih =>
    have hsize : m.size = rest.length + 1 := h.size
    by_cases hlt : most < rest.length + 1
    · -- the front of the quarantine names an object of the map
      obtain ⟨m₁, hlookup, hstores⟩ := h.lookup o.span.start
      rw [(LinearPool.covering_eq_some_iff h.apart).mpr
        ⟨List.mem_cons_self, o.span.contains_start⟩] at hlookup
      have hremove := hstores.removeAt_start (o := o) List.mem_cons_self
      have hstores' := hstores.removeAt o.span.start
      have hrest : ((o :: rest).filter fun e => e.span.start ≠ o.span.start) = rest := by
        rw [h.apart.filter_start_ne List.mem_cons_self, List.filter_cons_of_neg (by simp)]
        refine List.filter_eq_self.mpr fun e he => ?_
        have hov := (Apart.cons_iff.mp h.apart).1 e he
        simp only [ne_eq, decide_eq_true_eq]
        rintro rfl
        rw [Span.overlaps_self] at hov
        cases hov
      rw [hrest] at hstores'
      obtain ⟨dropped, hdropped, htrims⟩ := ih hstores'
      refine ⟨o :: dropped, ?_, ?_⟩
      · rw [LinearPool.newest_cons (Nat.le_of_lt_succ hlt), List.cons_append, hdropped]
      · have hstep : trim most ((o :: rest).map Object.key) m =
            trim most (rest.map Object.key) (m₁.removeAt o.span.start).2 := by
          rw [List.map_cons, Object.key, trim, hsize, if_pos hlt, hlookup]
          simp [Object.entry]
        rw [hstep]
        exact .drop (hsize ▸ hlt) hlookup (Prod.ext hremove rfl) htrims
    · -- so few objects may all stay
      have hfew : (o :: rest).length ≤ most := Nat.not_lt.mp hlt
      refine ⟨[], LinearPool.newest_of_length_le hfew, ?_⟩
      rw [List.map_cons, Object.key, trim, hsize, if_neg hlt]
      exact .done (hsize ▸ Nat.not_lt.mp hlt)

namespace Refines

variable {p : Pool} {q : LinearPool}

/-- A freed object that overlaps no retained one is retained without a surprise. -/
theorem retires_retain (h : p.Refines q) {most : Nat} (hmost : q.retained.length ≤ most)
    {freed : Object} (hoff : ∀ r ∈ q.retained, r.span.overlaps freed.span = false) :
    p.Retires most freed (p.retain freed most) := by
  -- the eviction finds nothing to take out, so the map and the quarantine still agree after it
  have hkept : (q.retained.filter fun r => !r.span.overlaps freed.span) = q.retained :=
    List.filter_eq_self.mpr fun r hr => by simp [hoff r hr]
  have hevicts := h.evicts freed.span
  have hevicted := h.evictRetained freed.span
  have hquarantine : (p.evictRetained freed.span).quarantine = p.quarantine := by
    rw [hevicted.quarantine, h.quarantine, hkept]
  have hstores : (p.evictRetained freed.span).retained.Stores q.retained := by
    rw [← hkept]
    exact hevicted.retained
  obtain ⟨inserted, hinsert, hstores'⟩ := hstores.insert hoff
  obtain ⟨dropped, hdropped, htrims⟩ := trims_trim hstores' most
  have hentries : (q.retained ++ [freed]).map Object.key = p.quarantine ++ [freed.key] := by
    rw [List.map_append, h.quarantine, List.map_singleton]
  rw [hentries] at htrims
  have hretain : p.retain freed most =
      { p.evictRetained freed.span with
        retained := (trim most (p.quarantine ++ [freed.key]) inserted).2
        quarantine := (trim most (p.quarantine ++ [freed.key]) inserted).1 } := by
    simp only [Pool.retain, hinsert, hquarantine, Object.key]
  rw [hretain]
  rw [hquarantine] at hevicts
  refine .intro hevicts hinsert htrims ?_
  -- there was room for the others, so at most one object is too many
  have hlength := congrArg List.length hdropped
  rw [LinearPool.newest, List.length_append, List.length_drop, List.length_append,
    List.length_singleton] at hlength
  omega

end Refines

/-- A look-up among the live objects leaves what is retained alone. -/
theorem find_retained (p : Pool) (a : Address) :
    (p.find a).2.retained = p.retained ∧ (p.find a).2.quarantine = p.quarantine := by
  unfold find
  split
  · exact ⟨rfl, rfl⟩
  · split
    · exact ⟨rfl, rfl⟩
    · split <;> exact ⟨rfl, rfl⟩

/-- What retaining an object does depends on what is retained and on nothing else. -/
theorem Retires.congr {p p₁ p' : Pool} {most : Nat} {freed : Object}
    (h : p₁.Retires most freed p') (hretained : p₁.retained = p.retained)
    (hquarantine : p₁.quarantine = p.quarantine) : p.Retires most freed p' := by
  obtain ⟨hevict, hinsert, htrim, hdropped⟩ := h
  rw [hretained, hquarantine] at hevict
  rw [hquarantine] at htrim
  exact .intro hevict hinsert htrim hdropped

/-- A free that gives back an object retains it without a surprise, if anything is retained. -/
theorem Refines.retires_free {p : Pool} {q : LinearPool} (h : p.Refines q)
    (hretains : 0 < q.retention.capacity) {numbers : Numbering} {a : Address}
    {site : Option Site} {freed : Object}
    (hfree : (p.free numbers a site).1 = .ok (some freed)) :
    p.Retires q.retention.capacity freed (p.free numbers a site).2.1 := by
  have hanswer := (h.free numbers a site).answer
  rw [hfree] at hanswer
  rcases q.free_cases numbers a site with ⟨-, heq⟩ | ⟨ha, o, hlive, hheap, hstart, heq⟩ | ⟨v, heq⟩
  · -- without an address nothing is freed
    rw [heq] at hanswer
    cases hanswer
  · -- a heap object is freed: taken out of the live ones and put into the quarantine
    rw [heq] at hanswer
    obtain rfl : freed = o.retire numbers.nextFree site := Option.some.inj (Except.ok.inj hanswer)
    subst hstart
    obtain ⟨p₁, hfind, h₁⟩ := h.find o.span.start
    have hat : q.objectAt o.span.start = some o :=
      (LinearPool.covering_eq_some_iff h.valid.apart_live).mpr ⟨hlive, o.span.contains_start⟩
    rw [hat] at hfind
    obtain ⟨hretained, hquarantine⟩ := p.find_retained o.span.start
    rw [hfind] at hretained hquarantine
    obtain ⟨r, live', hremove, -, hlists⟩ := h₁.forgetRecent.live.removeAt o.span.start
    have h₂ : Refines { p₁.forgetRecent with live := live' }
        { q with live := q.live.filter fun e => e.span.start ≠ o.span.start } :=
      h₁.forgetRecent.withLive rfl rfl hlists (h.valid.drop o.span.start)
    have hstate : (p.free numbers o.span.start site).2.1 =
        { p₁.forgetRecent with live := live' }.retain (o.retire numbers.nextFree site)
          q.retention.capacity := by
      have hretention : p₁.forgetRecent.retention = q.retention := h₁.retention
      rw [Pool.free, if_neg ha, hfind]
      simp [hheap, hremove, Pool.retire, hretention, Retention.retains, hretains]
    rw [hstate]
    refine (h₂.retires_retain h.valid.bounded fun r hr => ?_).congr hretained hquarantine
    -- a live object overlaps no retained one, so none has to make room for it
    have happart : o.span.overlaps r.span = false := h.valid.live_retained hlive hr
    rw [Span.overlaps_comm]
    exact happart
  · -- a free that is refused frees nothing either
    rw [heq] at hanswer
    cases hanswer

end Pool

/-! ### What is retained after an operation -/

namespace Pool.Command

variable (new old : Address) (size : ByteCount) (kind : ObjectKind) (site : Option Site)

/-- What a registration of bytes registers is the span that they make, if it registers anything. -/
theorem registered_registerBytes (r : Option Registration) :
    (registerBytes new size kind site).registered (.registration r) =
      r.bind fun _ => (Span.ofLength new size).toOption := by
  cases r <;> rfl

/-- So it is with a move. -/
theorem registered_move (r : Except Violation (Option Registration)) :
    (move new old size kind site).registered (.moved r) =
      r.toOption.join.bind fun _ => (Span.ofLength new size).toOption := by
  rcases r with v | _ | registration <;> rfl

end Pool.Command

namespace LinearPool

open Pool (enqueue vacate)

variable {q : LinearPool}

/-- A free puts its object last in the queue. -/
theorem free_retained (hq : q.Valid) (numbers : Numbering) (a : Address) (site : Option Site) :
    (q.free numbers a site).2.1.retained =
      enqueue q.retention.capacity q.retained (q.free numbers a site).1.toOption.join := by
  rcases q.free_cases numbers a site with ⟨-, heq⟩ | ⟨-, o, -, -, -, heq⟩ | ⟨v, heq⟩
  · rw [heq]
    rfl
  · rw [heq]
    exact newest_concat hq.bounded (o.retire numbers.nextFree site)
  · rw [heq]
    rfl

/-- A registration takes out of the queue what it overlaps. -/
theorem registerBytes_retained (q : LinearPool) (numbers : Numbering) (a : Address)
    (size : ByteCount) (kind : ObjectKind) (site : Option Site) :
    (q.registerBytes numbers a size kind site).2.1.retained =
      vacate q.retained ((q.registerBytes numbers a size kind site).1.bind fun _ =>
        (Span.ofLength a size).toOption) := by
  rcases q.registerBytes_cases numbers a size kind site with ⟨s, hspan, heq⟩ | heq
  · rw [heq, hspan]
    rfl
  · rw [heq]
    rfl

end LinearPool

namespace Pool

/-- A move that has not failed frees what a free of the old address frees. -/
theorem freedBy_move {p : Pool} {numbers : Numbering} {new old : Address} {size : ByteCount}
    {kind : ObjectKind} {site : Option Site} (h : ¬ (old ≠ 0 ∧ size ≠ 0 ∧ new = 0)) :
    p.freedBy numbers (.move new old size kind site) =
      (p.free numbers old site).1.toOption.join := by
  rw [freedBy]
  split
  · rfl
  · -- without a size to free by and without a new address there is no old address
    have hold : old = 0 := by tauto
    rw [free, if_pos hold]
    rfl

namespace Refines

variable {p : Pool} {q : LinearPool}

/-- The linear pool retains what the order says. -/
theorem perform_retained (h : p.Refines q) (numbers : Numbering) (c : Command) :
    (q.perform numbers c).2.1.retained =
      p.requeued numbers q.retention.capacity q.retained c := by
  have hfree (a : Address) (site : Option Site) : (q.free numbers a site).2.1.retained =
      enqueue q.retention.capacity q.retained (p.free numbers a site).1.toOption.join := by
    rw [(h.free numbers a site).answer]
    exact LinearPool.free_retained h.valid numbers a site
  cases c with
  | register s kind site => rfl
  | registerBytes a size kind site =>
    have hanswer := (h.registerBytes numbers a size kind site).answer
    rw [requeued, if_neg (by simp), perform, Command.registered_registerBytes, hanswer]
    exact q.registerBytes_retained numbers a size kind site
  | free a site => exact hfree a site
  | move new old size kind site =>
    have hanswer := (h.move numbers new old size kind site).answer
    rw [requeued, if_neg (by simp), perform, Command.registered_move, hanswer]
    simp only [LinearPool.perform, LinearPool.move]
    by_cases hfailed : old ≠ 0 ∧ size ≠ 0 ∧ new = 0
    · rw [if_pos hfailed, freedBy, if_neg (by tauto)]
      rfl
    · rw [if_neg hfailed, freedBy_move hfailed, ← hfree old site]
      rcases hfreeq : q.free numbers old site with ⟨r, q', numbers'⟩
      cases r with
      | error v => rfl
      | ok freed => exact q'.registerBytes_retained numbers' new size kind site
  | endScope a =>
    simp only [LinearPool.perform, LinearPool.endScope_eq]
    rfl
  | reset => rfl
  -- what only asks changes nothing
  | _ => rfl

/-- A pool whose linear pool has its objects in the order of frees. -/
theorem queues (h : p.Refines q) {numbers : Numbering} (hq : q.Ordered numbers) :
    p.Queues q.retained where
  perm := h.retainedObjects_sorted.1.symm
  ascending := List.pairwise_map.mp hq.ascending
  quarantine := h.quarantine

/-- No two entries of the quarantine are the same. -/
theorem nodup_quarantine (h : p.Refines q) : p.quarantine.Nodup := by
  rw [h.quarantine]
  refine List.pairwise_map.mpr (h.valid.apart_retained.imp ?_)
  intro o o' hapart hkey
  rw [Span.overlaps_of_start_eq (congrArg Prod.fst hkey)] at hapart
  cases hapart

end Refines

end Pool

namespace Pools

variable {ι : Type} [DecidableEq ι]

/-- In every pool that a run can reach, the quarantine names the retained objects in the order of
their frees, each once, and there are no more of them than the pool may retain. Every operation
changes them as `requeued` says. When a free retains its object, each entry that is taken from the
front of the quarantine names an object that the map has, and at most one is taken. -/
theorem performAll_quarantine (retention : ι → Retention) (cs : List (ι × Pool.Command)) (i : ι) :
    let most := (retention i).capacity
    let ps := ((fresh retention).performAll cs).2
    let p := ps.pool i
    ∃ os, p.Queues os ∧ p.quarantine.Nodup ∧ os.length ≤ most ∧
      (∀ c, (p.perform ps.numbers c).2.1.Queues (p.requeued ps.numbers most os c)) ∧
      (0 < most → ∀ a site freed, (p.free ps.numbers a site).1 = .ok (some freed) →
        p.Retires most freed (p.free ps.numbers a site).2.1) := by
  intro most ps p
  -- the run is compared with itself, which shows that its retained objects stand in order
  obtain ⟨_, qs, htrails⟩ :=
    (trails_fresh fun j => Nat.le_refl (retention j).capacity).performAll cs
  have hp : p.Refines (qs i) := htrails.second.pools i
  have hordered : (qs i).Ordered ps.numbers := htrails.ordered i
  have hmost : (qs i).retention.capacity = most := by
    obtain ⟨qs', h, hretention⟩ := performAll_refines (refines_fresh retention) cs
    rw [← hp.retention, (h.pools i).retention, hretention i]
  refine ⟨(qs i).retained, hp.queues hordered, hp.nodup_quarantine, ?_, ?_, ?_⟩
  · rw [← hmost]
    exact hp.valid.bounded
  · intro c
    obtain ⟨-, hrefines, hnumbers⟩ := Pool.perform_refines hp ps.numbers c
    obtain ⟨ms, hsteps, -⟩ := (qs i).perform_steps ps.numbers c
    rw [← hmost, ← hp.perform_retained ps.numbers c]
    exact hrefines.queues (hsteps.ordered hordered)
  · intro hretains a site freed hfree
    rw [← hmost] at hretains ⊢
    exact hp.retires_free hretains hfree

/-- In a pool that may retain two objects the block at 8192 was freed first, and then the one at
6144. The free of a third block drops the first of them, although its address is the highest. -/
theorem performAll_quarantine_oldest :
    let ps := ((fresh fun _ : Unit => .keep 2).performAll
      [((), .registerBytes 8192 16 .heap none), ((), .registerBytes 6144 16 .heap none),
        ((), .registerBytes 5120 16 .heap none), ((), .free 8192 none), ((), .free 6144 none)]).2
    let p := ps.pool ()
    let freed : Object :=
      { span := ⟨5120, 5136, by decide⟩, kind := .heap, allocId := 3, allocSite := none,
        release := some { id := 3, site := none } }
    p.quarantine = [(8192, 1), (6144, 2)] ∧
      (p.free ps.numbers 5120 none).2.1.quarantine = [(6144, 2), (5120, 3)] ∧
      p.Retires 2 freed (p.free ps.numbers 5120 none).2.1 := by
  intro ps p freed
  have hfree : (p.free ps.numbers 5120 none).1 = .ok (some freed) := by decide +kernel
  obtain ⟨os, -, -, -, -, hretires⟩ := performAll_quarantine (fun _ : Unit => .keep 2)
    [((), .registerBytes 8192 16 .heap none), ((), .registerBytes 6144 16 .heap none),
      ((), .registerBytes 5120 16 .heap none), ((), .free 8192 none), ((), .free 6144 none)] ()
  exact ⟨by decide +kernel, by decide +kernel, hretires (by decide) 5120 none freed hfree⟩

end Pools

end MemorySentry
