import MemorySentry.Proofs.Pool.AtHand
import MemorySentry.Proofs.Pool.Family

/-!
# How many look-ups are hits

Which look-ups the objects at hand answer is a matter of what was looked for and found before, and
can be said without them. A run shows a list of sightings: its look-ups, with what they find among
the live objects, and its invalidations. A look-up is a hit if one of the two objects that were
found last since the last invalidation covers its address.

A look-up keeps just those two at hand (`Sighting.lookup_recalled`), so an operation does
(`Pool.Refines.recalled_perform`), and so does a whole run (`Pools.performAll_hits`).
-/

namespace MemorySentry

/-- What matters to the objects at hand. -/
inductive Sighting where
  /-- The live object that covers an address is looked for. -/
  | lookup (a : Address) (found : Option Object)
  /-- What was found before does not count any more. -/
  | invalidation
deriving DecidableEq

namespace Sighting

/-- Whether a sighting is a look-up. -/
def isLookup : Sighting → Bool
  | lookup .. => true
  | invalidation => false

/-- The object that a sighting finds. -/
def found? : Sighting → Option Object
  | lookup _ found => found
  | invalidation => none

/-- What was found since the last invalidation, the newest first. -/
def foundSince (seen : List Sighting) : List Object :=
  (seen.reverse.takeWhile isLookup).filterMap found?

/-- The object that was found last since the last invalidation. -/
def latest (seen : List Sighting) : Option Object :=
  (foundSince seen).head?

/-- The object other than the latest that was found last since the last invalidation. -/
def latestOther (seen : List Sighting) : Option Object :=
  (foundSince seen).find? fun o => latest seen ≠ some o

/-- Whether a sighting is a look-up in one of the two objects that were found last. -/
def isHit (seen : List Sighting) : Sighting → Bool
  | lookup a _ =>
    (latest seen).any (fun o => o.span.contains a) ||
      (latestOther seen).any fun o => o.span.contains a
  | invalidation => false

/-- The number of hits among sightings, each judged by those before it. -/
def hits (seen : List Sighting) : Nat :=
  (List.range seen.length).countP fun k => seen[k]?.any (isHit (seen.take k))

variable {seen : List Sighting} {a : Address} {o : Object}

/-! ### One more sighting -/

/-- Nothing has been found since an invalidation. -/
@[simp]
theorem foundSince_invalidation : foundSince (seen ++ [invalidation]) = [] := by
  simp [foundSince, isLookup]

/-- What a look-up finds is the last of what was found since. -/
@[simp]
theorem foundSince_lookup (found : Option Object) :
    foundSince (seen ++ [lookup a found]) = found.toList ++ foundSince seen := by
  have hlookup : isLookup (lookup a found) = true := rfl
  rw [foundSince, List.reverse_concat, List.takeWhile_cons_of_pos hlookup]
  cases found with
  | none => exact List.filterMap_cons_none rfl
  | some o => exact List.filterMap_cons_some rfl

/-- The object found last is the one of the last look-up, if that found one. -/
theorem latest_found : latest (seen ++ [lookup a (some o)]) = some o := by
  simp [latest]

/-- A look-up that finds nothing does not count for the object found last. -/
theorem latest_missed : latest (seen ++ [lookup a none]) = latest seen := by
  simp [latest]

/-- Nor does it for the one before it. -/
theorem latestOther_missed : latestOther (seen ++ [lookup a none]) = latestOther seen := by
  simp [latestOther, latest_missed]

/-- What is found again stays the latest, and the other one stays. -/
theorem latestOther_again (h : latest seen = some o) :
    latestOther (seen ++ [lookup a (some o)]) = latestOther seen := by
  simp [latestOther, latest_found, h]

/-- If another object is found, the latest becomes the other one. -/
theorem latestOther_found (h : latest seen ≠ some o) :
    latestOther (seen ++ [lookup a (some o)]) = latest seen := by
  simp only [latestOther, latest_found, foundSince_lookup, Option.toList_some,
    List.singleton_append]
  rw [latest] at h ⊢
  cases hfound : foundSince seen with
  | nil => simp
  | cons newest rest =>
    -- the newest one so far is another object, so the search stops there
    have hother : o ≠ newest := by
      rintro rfl
      exact h (by rw [hfound, List.head?_cons])
    simp [hother]

/-- One sighting more is one hit more if it is one. -/
theorem hits_concat (e : Sighting) :
    hits (seen ++ [e]) = hits seen + (isHit seen e).toNat := by
  -- one more sighting does not change what came before the others
  have hbefore : ∀ k ∈ List.range seen.length,
      (seen ++ [e])[k]?.any (isHit ((seen ++ [e]).take k)) =
        seen[k]?.any (isHit (seen.take k)) := by
    intro k hk
    have hlt : k < seen.length := List.mem_range.mp hk
    rw [List.getElem?_append_left hlt, List.take_append_of_le_length hlt.le]
  have hlast : (seen ++ [e])[seen.length]?.any (isHit ((seen ++ [e]).take seen.length)) =
      isHit seen e := by
    simp
  rw [hits, List.length_append, List.length_singleton, List.range_succ, List.countP_append,
    List.countP_congr fun k hk => by rw [hbefore k hk], List.countP_singleton, hlast, hits]
  cases isHit seen e <;> rfl

/-- What a pool is to keep at hand after sightings, and the hits that it is to have counted. -/
def recalled (seen : List Sighting) : AtHand :=
  ⟨latest seen, latestOther seen, hits seen⟩

open LinearPool (covering covering_eq_some_iff)

/-- An invalidation forgets what is recalled. -/
theorem forget_recalled : (recalled seen).forget = recalled (seen ++ [invalidation]) := by
  simp [recalled, AtHand.forget, latest, latestOther, hits_concat, isHit]

/-- A look-up among live objects keeps at hand the two that were found last, as at most one live
object covers an address. -/
theorem lookup_recalled {live : List Object} (hlive : Apart live)
    (hlatest : ∀ o, latest seen = some o → o ∈ live)
    (hother : ∀ o, latestOther seen = some o → o ∈ live) (a : Address) :
    (recalled seen).lookup live a = recalled (seen ++ [lookup a (covering live a)]) := by
  simp only [AtHand.lookup, recalled, hits_concat, isHit, Pool.covering?, Option.isSome_filter]
  by_cases hagain : (latest seen).any (fun o => o.span.contains a) = true
  · -- the latest is found again, and nothing moves
    obtain ⟨o, ho, hcontains⟩ := (Option.any_eq_true _ _).mp hagain
    have hfind : covering live a = some o :=
      (covering_eq_some_iff hlive).mpr ⟨hlatest o ho, hcontains⟩
    rw [if_pos hagain, hagain, hfind, latest_found, latestOther_again ho, ho]
    rfl
  have hnew {o : Object} (hcontains : o.span.contains a = true) : latest seen ≠ some o :=
    fun ho => hagain (by rw [ho]; exact hcontains)
  rw [if_neg hagain, Bool.eq_false_iff.mpr hagain, Bool.false_or]
  by_cases hback : (latestOther seen).any (fun o => o.span.contains a) = true
  · -- the two change places
    obtain ⟨o, ho, hcontains⟩ := (Option.any_eq_true _ _).mp hback
    have hfind : covering live a = some o :=
      (covering_eq_some_iff hlive).mpr ⟨hother o ho, hcontains⟩
    rw [if_pos hback, hback, hfind, latest_found, latestOther_found (hnew hcontains), ho]
    rfl
  · rw [if_neg hback, Bool.eq_false_iff.mpr hback]
    cases hfind : covering live a with
    | none =>
      rw [latest_missed, latestOther_missed]
      rfl
    | some o =>
      -- an object that was not at hand takes the place of the latest, which becomes the other one
      have hcontains := ((covering_eq_some_iff hlive).mp hfind).2
      rw [latest_found, latestOther_found (hnew hcontains)]
      rfl

end Sighting

/-! ### Operations by what they show -/

namespace Pool

/-- The address at which an operation looks for a live object. -/
def Command.seeks? : Command → Option Address
  | .checkAccess a length _ => if length = 0 then none else some a
  | .checkAlignment a elementSize => if a = 0 ∨ elementSize = 0 then none else some a
  | .checkArithmetic a _ _ | .objectAt a => some a
  | .free a _ => if a = 0 then none else some a
  | .move new old size _ _ => if old = 0 ∨ size ≠ 0 ∧ new = 0 then none else some old
  | _ => none

/-- Whether an operation ends a scope or resets the pool. -/
def Command.drops : Command → Bool
  | .endScope _ | .reset => true
  | _ => false

/-- Whether what was found before an operation does not count after it: the operation ends a scope
or resets the pool, or its answer tells that it has registered something or freed an object. -/
def Command.invalidates (c : Command) (answer : Answer) : Bool :=
  c.drops || (c.registered answer).isSome || c.hasFreed answer

/-- What an operation on a pool shows, by its answer and the live objects before it. -/
def Command.sightings (c : Command) (answer : Answer) (live : List Object) : List Sighting :=
  (c.seeks?.map fun a => .lookup a (LinearPool.covering live a)).toList ++
    if c.invalidates answer then [.invalidation] else []

end Pool

open Pool (Command)

namespace LinearPool

section

variable (q : LinearPool) (numbers : Numbering) (a new old : Address) (size : ByteCount)
  (kind : ObjectKind) (site : Option Site)

/-- Bytes are registered if they make a span at a place other than the null address. -/
theorem isSome_registerBytes :
    (q.registerBytes numbers a size kind site).1.isSome =
      decide (a ≠ 0 ∧ (Span.ofLength a size).toOption.isSome) := by
  unfold LinearPool.registerBytes
  by_cases ha : a = 0
  · cases Span.ofLength a size <;> simp [ha]
  · cases Span.ofLength a size <;> simp [ha, Except.toOption]

/-- To register bytes invalidates what is at hand if they make a span away from the null address. -/
theorem invalidates_registerBytes :
    (Command.registerBytes a size kind site).invalidates
        (q.perform numbers (.registerBytes a size kind site)).1 =
      decide (a ≠ 0 ∧ (Span.ofLength a size).toOption.isSome) := by
  have hregisters := isSome_registerBytes q numbers a size kind site
  simp only [perform]
  rw [← hregisters]
  cases hanswer : (q.registerBytes numbers a size kind site).1 with
  | none => rfl
  | some r =>
    rw [hanswer] at hregisters
    exact ((Bool.or_false _).trans (of_decide_eq_true hregisters.symm).2)

/-- A free does if it frees an object. -/
theorem invalidates_free (ha : a ≠ 0) :
    (Command.free a site).invalidates (q.perform numbers (.free a site)).1 =
      AtHand.frees q.live a := by
  simp only [perform]
  rw [Bool.eq_iff_iff, Pool.Refines.frees_eq q numbers ha site]
  rcases q.free_cases numbers a site with ⟨hnull, -⟩ | ⟨-, o, -, -, -, heq⟩ | ⟨v, heq⟩
  · exact absurd hnull ha
  · rw [heq]
    exact iff_of_true rfl ⟨_, rfl⟩
  · rw [heq]
    exact iff_of_false Bool.false_ne_true (by simp)

/-- Without an old address a move is a plain registration. -/
theorem invalidates_move_null :
    (Command.move new 0 size kind site).invalidates
        (q.perform numbers (.move new 0 size kind site)).1 =
      decide (new ≠ 0 ∧ (Span.ofLength new size).toOption.isSome) := by
  have hmove : q.move numbers new 0 size kind site =
      (.ok (q.registerBytes numbers new size kind site).1,
        (q.registerBytes numbers new size kind site).2) := by
    simp [LinearPool.move, LinearPool.free]
  rw [← invalidates_registerBytes q numbers new size kind site]
  simp only [perform, hmove]
  cases (q.registerBytes numbers new size kind site).1 <;> rfl

/-- A move to nowhere does not, unless it is a free. -/
theorem invalidates_move_failed (hold : old ≠ 0) (hsize : size ≠ 0) :
    (Command.move 0 old size kind site).invalidates
      (q.perform numbers (.move 0 old size kind site)).1 = false := by
  have hmove : q.move numbers 0 old size kind site = (.ok none, q, numbers) := by
    rw [LinearPool.move, if_pos ⟨hold, hsize, rfl⟩]
  have hfreed : (Command.move 0 old size kind site).hasFreed (.moved (.ok none)) = false := by
    simp [Command.hasFreed, hsize]
  simp only [perform]
  rw [hmove]
  exact hfreed

/-- A move that gets past its free is a free of the old object. -/
theorem invalidates_move (hold : old ≠ 0) (hgoes : ¬(size ≠ 0 ∧ new = 0)) :
    (Command.move new old size kind site).invalidates
        (q.perform numbers (.move new old size kind site)).1 = AtHand.frees q.live old := by
  have hsize : size = 0 ∨ new ≠ 0 := by tauto
  simp only [perform]
  rw [Bool.eq_iff_iff, Pool.Refines.frees_eq q numbers hold site, LinearPool.move,
    if_neg fun h => hgoes h.2]
  rcases q.free numbers old site with ⟨_ | freed, q', numbers'⟩
  · exact iff_of_false Bool.false_ne_true (by simp)
  · simp [Command.invalidates, Command.hasFreed, hold, hsize]

end

/-- An operation looks up what it seeks and, if it invalidates, keeps nothing at hand. -/
theorem after_eq (q : LinearPool) (numbers : Numbering) (h : AtHand) (c : Command) :
    h.after q.live c =
      if c.invalidates (q.perform numbers c).1 then (c.seeks?.elim h (h.lookup q.live)).forget
      else c.seeks?.elim h (h.lookup q.live) := by
  cases c with
  | registerBytes a size kind site =>
    rw [invalidates_registerBytes]
    simp only [decide_eq_true_eq]
    rfl
  | free a site =>
    by_cases ha : a = 0
    · subst ha
      rfl
    · rw [invalidates_free q numbers a site ha]
      simp only [AtHand.after, AtHand.free, Command.seeks?, if_neg ha, Option.elim_some]
  | move new old size kind site =>
    by_cases hold : old = 0
    · subst hold
      rw [invalidates_move_null]
      simp only [decide_eq_true_eq]
      rfl
    · -- a move that failed looks nothing up, all others look up the old address
      by_cases hfailed : size ≠ 0 ∧ new = 0
      · obtain ⟨hsize, rfl⟩ := hfailed
        rw [invalidates_move_failed q numbers old size kind site hold hsize]
        simp [AtHand.after, Command.seeks?, hold, hsize]
      · rw [invalidates_move q numbers new old size kind site hold hfailed]
        simp only [AtHand.after, AtHand.free, Command.seeks?, if_neg hold, if_neg hfailed,
          if_neg (not_or_intro hold hfailed), Option.elim_some]
  | checkAccess a length mode =>
    simp only [AtHand.after, Command.seeks?]
    split <;> rfl
  | checkAlignment a elementSize =>
    simp only [AtHand.after, Command.seeks?]
    split <;> rfl
  | _ => rfl

/-- An operation that finds nothing where it looks does not invalidate. -/
theorem invalidates_of_missed (q : LinearPool) (numbers : Numbering) {c : Command} {a : Address}
    (hseeks : c.seeks? = some a) (hmissed : covering q.live a = none) :
    c.invalidates (q.perform numbers c).1 = false := by
  have hfrees : AtHand.frees q.live a = false := by rw [AtHand.frees, hmissed, Option.any_none]
  cases c with
  | free a' site =>
    obtain ⟨ha, heq⟩ := Option.ite_none_left_eq_some.mp hseeks
    obtain rfl := Option.some.inj heq
    rw [invalidates_free q numbers a' site ha, hfrees]
  | move new old size kind site =>
    obtain ⟨hgoes, heq⟩ := Option.ite_none_left_eq_some.mp hseeks
    obtain rfl := Option.some.inj heq
    obtain ⟨hold, hgoes⟩ := not_or.mp hgoes
    rw [invalidates_move q numbers new old size kind site hold hgoes, hfrees]
  | checkAccess | checkAlignment | checkArithmetic | objectAt => rfl
  | register | registerBytes | endScope | retainedAt | objects | stats | reset => cases hseeks

end LinearPool

namespace Pool.Refines

variable {p : Pool} {q : LinearPool} {seen : List Sighting}

/-- The linear pool tells from its own answer whether an operation invalidates. -/
theorem invalidates_eq (h : p.Refines q) (numbers : Numbering) (c : Command) :
    c.invalidates (p.perform numbers c).1 = c.invalidates (q.perform numbers c).1 := by
  by_cases hc : c = .stats
  · subst hc
    rfl
  · rw [h.perform_answer numbers hc]

/-- An operation keeps at hand what its sightings leave. -/
theorem recalled_perform (h : p.Refines q) (hrecalled : p.atHand = Sighting.recalled seen)
    (numbers : Numbering) (c : Command) :
    (p.perform numbers c).2.1.atHand =
      Sighting.recalled (seen ++ c.sightings (p.perform numbers c).1 p.objects) := by
  have hlatest : ∀ o, Sighting.latest seen = some o → o ∈ q.live := fun o ho =>
    h.recent o ((congrArg AtHand.recent hrecalled).trans ho)
  have hother : ∀ o, Sighting.latestOther seen = some o → o ∈ q.live := fun o ho =>
    h.earlier o ((congrArg AtHand.earlier hrecalled).trans ho)
  -- the look-up comes first, and only then does an operation invalidate what is at hand
  have hlooked : c.seeks?.elim (Sighting.recalled seen) ((Sighting.recalled seen).lookup q.live) =
      Sighting.recalled (seen ++
        (c.seeks?.map fun a => .lookup a (LinearPool.covering q.live a)).toList) := by
    cases c.seeks? with
    | none => rw [Option.map_none, Option.toList_none, List.append_nil, Option.elim_none]
    | some a => exact Sighting.lookup_recalled h.valid.apart_live hlatest hother a
  rw [perform_atHand h, LinearPool.after_eq q numbers, hrecalled, hlooked, Command.sightings,
    h.invalidates_eq, h.objects, ← List.append_assoc]
  by_cases hinvalidates : c.invalidates (q.perform numbers c).1 = true
  · rw [if_pos hinvalidates, if_pos hinvalidates, Sighting.forget_recalled]
  · rw [if_neg hinvalidates, if_neg hinvalidates, List.append_nil]

/-- A look-up that finds nothing leaves alone what is at hand. -/
theorem perform_atHand_of_missed (h : p.Refines q) (numbers : Numbering) {c : Command} {a : Address}
    (hseeks : c.seeks? = some a) (hmissed : ∀ o ∈ p.objects, o.span.contains a = false) :
    (p.perform numbers c).2.1.atHand = p.atHand := by
  rw [h.objects] at hmissed
  have hnone : LinearPool.covering q.live a = none := LinearPool.covering_eq_none_iff.mpr hmissed
  -- what is at hand is live, so it does not cover the address either
  have hcovers {kept : Option Object} (hkept : ∀ o, kept = some o → o ∈ q.live) :
      (covering? kept a).isSome = false := by
    rw [covering?, Option.isSome_filter, Option.any_eq_false]
    exact fun o ho => hmissed o (hkept o ho)
  rw [perform_atHand h, LinearPool.after_eq q numbers,
    LinearPool.invalidates_of_missed q numbers hseeks hnone, hseeks, Option.elim_some]
  simp [AtHand.lookup, atHand, hcovers h.recent, hcovers h.earlier, hnone]

end Pool.Refines

/-! ### Runs -/

namespace Pools

variable {ι : Type} [DecidableEq ι]

/-- What a run shows of one of the pools, from the first operation on. -/
def sightings (i : ι) (ps : Pools ι) : List (ι × Command) → List Sighting
  | [] => []
  | (j, c) :: rest =>
    let (answer, ps') := ps.perform j c
    (if j = i then c.sightings answer (ps.pool i).objects else []) ++ sightings i ps' rest

variable {ps : Pools ι} {qs : ι → LinearPool}

/-- What an operation on one of the pools shows, it leaves at hand there. -/
theorem recalled_perform (h : ps.Refines qs) {i : ι} {seen : List Sighting}
    (hrecalled : (ps.pool i).atHand = Sighting.recalled seen) (j : ι) (c : Command) :
    ((ps.perform j c).2.pool i).atHand =
      Sighting.recalled (seen ++
        if j = i then c.sightings (ps.perform j c).1 (ps.pool i).objects else []) := by
  by_cases hj : j = i
  · subst hj
    rw [if_pos rfl]
    simp only [perform, Function.update_self]
    exact (h.pools j).recalled_perform hrecalled ps.numbers c
  · rw [if_neg hj, List.append_nil, ← hrecalled]
    simp only [perform, Function.update_of_ne (Ne.symm hj)]

/-- After a run a pool has at hand what is recalled from the sightings of the run. -/
theorem recalled_performAll (h : ps.Refines qs) {i : ι} {seen : List Sighting}
    (hrecalled : (ps.pool i).atHand = Sighting.recalled seen) (cs : List (ι × Command)) :
    ((ps.performAll cs).2.pool i).atHand = Sighting.recalled (seen ++ sightings i ps cs) := by
  induction cs generalizing ps qs seen with
  | nil => rw [sightings, List.append_nil, performAll, hrecalled]
  | cons e rest ih =>
    -- what the first operation shows joins what was seen before the rest of the run
    have hstep := recalled_perform h hrecalled e.1 e.2
    rw [sightings, ← List.append_assoc]
    exact ih (perform_refines h e.1 e.2) hstep

/-- After every run the hits of a pool are the look-ups whose address one of the two objects covered
that were found last since the last invalidation. These two are at hand, in this order, and a
look-up that finds nothing changes none of this. -/
theorem performAll_hits (retention : ι → Retention) (cs : List (ι × Command)) (i : ι) :
    let ps := ((fresh retention).performAll cs).2
    let seen := sightings i (fresh retention) cs
    (ps.pool i).stats.hits = Sighting.hits seen ∧
      (ps.pool i).recent = Sighting.latest seen ∧
      (ps.pool i).earlier = Sighting.latestOther seen ∧
      ∀ (c : Command) (a : Address), c.seeks? = some a →
        (∀ o ∈ (ps.pool i).objects, o.span.contains a = false) →
          ((ps.perform i c).2.pool i).atHand = (ps.pool i).atHand := by
  intro ps seen
  have hfresh : ((fresh retention).pool i).atHand = Sighting.recalled [] := rfl
  have hrecalled : (ps.pool i).atHand = Sighting.recalled seen :=
    recalled_performAll (refines_fresh retention) hfresh cs
  obtain ⟨qs, h, -⟩ := performAll_refines (refines_fresh retention) cs
  refine ⟨congrArg AtHand.hits hrecalled, congrArg AtHand.recent hrecalled,
    congrArg AtHand.earlier hrecalled, fun c a hseeks hmissed => ?_⟩
  have hmiss := (h.pools i).perform_atHand_of_missed ps.numbers hseeks hmissed
  simp only [perform, Function.update_self]
  exact hmiss

-- of two objects in turn the first is still at hand when it is looked for again and when it is
-- freed, and the free leaves nothing at hand
example :
    let run : List (Unit × Command) :=
      [((), .registerBytes 16 8 .heap none), ((), .registerBytes 32 8 .heap none),
        ((), .objectAt 18), ((), .objectAt 34), ((), .objectAt 20), ((), .objectAt 50),
        ((), .free 16 none), ((), .objectAt 36)]
    (((fresh fun _ => .immediate).performAll run).2.pool ()).stats.hits = 2 := by
  decide

end Pools

end MemorySentry
