import Mathlib.Data.List.Lattice
import Mathlib.Data.List.Perm.Subperm
import MemorySentry.Page.AddressSpace
import MemorySentry.Page.Command
import MemorySentry.Proofs.Page.Run

/-!
# Conservation of pages

A ledger is kept of the pages that a cache hands out and takes back, and a record of what the
operating system was asked and what it replied. After every run of commands that gives back held
pages only, the held pages and the cached ones are the mapped ones, each once, and the counters of
the cache agree with the ledger (`performAll_conserves`). One command keeps the balance of the pages
(`Balanced.perform`); that no page is there twice follows from it, since mappings are apart.

Pages may have any size. No number on the way is too large for a word: what is cut off a run lies
within the address space, since all of the run does.
-/

namespace MemorySentry.PageCache

open scoped List
open PageRun (addresses)

variable {σ : Type} {map : ByteCount → σ → Except Errno Address × σ} {c : PageCache} {n : UInt64}
  {page : UInt64}

/-! ### Acquisitions -/

/-- No run is taken just if none is long enough. -/
theorem take?_eq_none_iff : c.take? n = none ↔ ∀ r ∈ c.free, r.pages < n := by
  unfold take?
  split
  · next hnone => simpa using hnone
  · next i hi =>
    obtain ⟨hlt, hr, -⟩ := List.findIdx?_eq_some_iff_getElem.mp hi
    have hle : n ≤ c.free[i].pages := of_decide_eq_true hr
    refine iff_of_false (by simp [hlt]) fun hall => ?_
    exact UInt64.not_lt.mpr hle (hall _ (List.getElem_mem hlt))

/-- A run that is taken is long enough, and what is left of it comes back if that is an address. -/
theorem exists_of_take?_eq_some {x : Except Word.Overflow Address × PageCache}
    (h : c.take? n = some x) :
    ∃ i r, c.free[i]? = some r ∧ n ≤ r.pages ∧
      ((∃ left, rest c.pageSize r n = .ok left ∧ x = (.ok r.start,
          { c with free := swapRemove c.free i ++ left, reused := c.reused + n })) ∨
        ∃ o, rest c.pageSize r n = .error o ∧
          x = (.error o, { c with free := swapRemove c.free i })) := by
  unfold take? at h
  split at h
  · cases h
  · next i hi =>
    obtain ⟨hlt, hr, -⟩ := List.findIdx?_eq_some_iff_getElem.mp hi
    rw [List.getElem?_eq_getElem hlt] at h
    refine ⟨i, _, List.getElem?_eq_getElem hlt, of_decide_eq_true hr, ?_⟩
    rcases hrest : rest c.pageSize c.free[i] n with o | left
    · simp only [Option.map_some, hrest, Option.some.injEq] at h
      exact .inr ⟨o, rfl, h.symm⟩
    · simp only [Option.map_some, hrest, Option.some.injEq] at h
      exact .inl ⟨left, rfl, h.symm⟩

/-- What can come of asking a cache for `n` pages. -/
inductive Acquisition (c : PageCache) (map : ByteCount → σ → Except Errno Address × σ) (os : σ)
    (n : UInt64) : Except PageFailure Address × PageCache × σ → Prop
  /-- No pages are asked for. -/
  | none (hn : n = 0) : Acquisition c map os n (.error (.unmet .emptyRequest), c, os)
  /-- The first pages of a cached run are handed out. -/
  | cached {i : Nat} {r : PageRun} {left : List PageRun} (hn : n ≠ 0) (hr : c.free[i]? = some r)
      (hle : n ≤ r.pages) (hrest : rest c.pageSize r n = .ok left) :
    Acquisition c map os n
      (.ok r.start, { c with free := swapRemove c.free i ++ left, reused := c.reused + n }, os)
  /-- What would be left of a cached run does not start at an address. -/
  | uncut {i : Nat} {r : PageRun} {o : Word.Overflow} (hn : n ≠ 0) (hr : c.free[i]? = some r)
      (hle : n ≤ r.pages) (hrest : rest c.pageSize r n = .error o) :
    Acquisition c map os n (.error (.overflow o), { c with free := swapRemove c.free i }, os)
  /-- So many pages have more bytes than a word can count. -/
  | excessive (hn : n ≠ 0) (hshort : ∀ r ∈ c.free, r.pages < n)
      (hbytes : UInt64.size ≤ (batch n).toNat * c.pageSize.toNat) :
    Acquisition c map os n (.error (.unmet (.exhausted (batch n).toNat .outOfMemory)), c, os)
  /-- The operating system is asked and gives nothing. -/
  | refused {bytes : ByteCount} {errno : Errno} {os' : σ} (hn : n ≠ 0)
      (hshort : ∀ r ∈ c.free, r.pages < n)
      (hbytes : bytes.toNat = (batch n).toNat * c.pageSize.toNat)
      (hmap : map bytes os = (.error errno, os')) :
    Acquisition c map os n (.error (.unmet (.exhausted (batch n).toNat errno)), c, os')
  /-- The operating system is asked, and what is not handed out is cached. -/
  | mapped {bytes : ByteCount} {a : Address} {os' : σ} {left : List PageRun} (hn : n ≠ 0)
      (hshort : ∀ r ∈ c.free, r.pages < n)
      (hbytes : bytes.toNat = (batch n).toNat * c.pageSize.toNat)
      (hmap : map bytes os = (.ok a, os'))
      (hrest : rest c.pageSize ⟨a, batch n⟩ n = .ok left) :
    Acquisition c map os n
      (.ok a, { c with free := c.free ++ left, mapped := c.mapped + batch n }, os')
  /-- What would be left of a mapping does not start at an address. -/
  | unmapped {bytes : ByteCount} {a : Address} {os' : σ} {o : Word.Overflow} (hn : n ≠ 0)
      (hshort : ∀ r ∈ c.free, r.pages < n)
      (hbytes : bytes.toNat = (batch n).toNat * c.pageSize.toNat)
      (hmap : map bytes os = (.ok a, os'))
      (hrest : rest c.pageSize ⟨a, batch n⟩ n = .error o) :
    Acquisition c map os n (.error (.overflow o), { c with mapped := c.mapped + batch n }, os')

/-- Nothing else can come of it. -/
theorem acquire_acquisition (c : PageCache) (map : ByteCount → σ → Except Errno Address × σ)
    (os : σ) (n : UInt64) : Acquisition c map os n (c.acquire map os n) := by
  unfold acquire
  split
  · next hn => exact .none hn
  · next hn =>
    rcases htake : c.take? n with _ | x
    · have hshort := take?_eq_none_iff.mp htake
      rcases hbytes : Word.mul? (batch n) c.pageSize with _ | bytes
      · simpa only [hbytes] using .excessive hn hshort (Word.mul?_eq_none_iff.mp hbytes)
      · have hexact := Word.mul?_eq_some_iff.mp hbytes
        rcases hmap : map bytes os with ⟨errno | a, os'⟩
        · simpa only [hbytes, hmap] using .refused hn hshort hexact hmap
        · rcases hrest : rest c.pageSize ⟨a, batch n⟩ n with o | left
          · simpa only [hbytes, hmap, hrest] using .unmapped hn hshort hexact hmap hrest
          · simpa only [hbytes, hmap, hrest] using .mapped hn hshort hexact hmap hrest
    · obtain ⟨i, r, hr, hle, ⟨left, hrest, rfl⟩ | ⟨o, hrest, rfl⟩⟩ := exists_of_take?_eq_some htake
      · exact .cached hn hr hle hrest
      · exact .uncut hn hr hle hrest

/-! ### What the operating system was asked -/

/-- A question to the operating system with the reply. -/
structure Exchange where
  /-- The number of bytes that were asked for. -/
  bytes : ByteCount
  reply : Except Errno Address
deriving DecidableEq

/-- The pages of a mapping, if there is one. -/
def Exchange.mapping? (page : UInt64) (e : Exchange) : Option PageRun :=
  e.reply.toOption.map fun a => ⟨a, e.bytes / page⟩

/-- All mappings on record. -/
def mappingsIn (page : UInt64) (exchanges : List Exchange) : List PageRun :=
  exchanges.filterMap (Exchange.mapping? page)

/-- An operating system with a record of all exchanges. -/
def recorded (map : ByteCount → σ → Except Errno Address × σ) (bytes : ByteCount)
    (os : σ × List Exchange) : Except Errno Address × (σ × List Exchange) :=
  let (reply, s) := map bytes os.1
  (reply, s, os.2 ++ [⟨bytes, reply⟩])

/-- What is taken for granted of an operating system that never takes a mapping back: mappings
consist of pages within the address space, and no page is mapped twice. -/
structure Apart (page : UInt64) (mappings : List PageRun) : Prop where
  aligned : ∀ r ∈ mappings, r.start % page = 0
  fits : ∀ r ∈ mappings, r.Fits page
  disjoint : mappings.Pairwise fun r r' => (r.addresses page).Disjoint (r'.addresses page)

/-- The mappings of exchanges are those of the parts. -/
theorem mappingsIn_append (es es' : List Exchange) :
    mappingsIn page (es ++ es') = mappingsIn page es ++ mappingsIn page es' :=
  List.filterMap_append

/-- Each exchange with the operating system is recorded after the ones before. -/
theorem recorded_snd {bytes : ByteCount} {os os' : σ × List Exchange}
    {reply : Except Errno Address} (h : recorded map bytes os = (reply, os')) :
    os'.2 = os.2 ++ [⟨bytes, reply⟩] := by
  cases h
  rfl

/-- The record of an acquisition goes on from the one before it. -/
theorem record_acquire {os os' : σ × List Exchange} {c' : PageCache}
    {r : Except PageFailure Address} (h : c.acquire (recorded map) os n = (r, c', os')) :
    os.2 <+: os'.2 := by
  have hcases := acquire_acquisition c (recorded map) os n
  rw [h] at hcases
  cases hcases with
  | none | cached | uncut | excessive => exact List.prefix_rfl
  | refused hn hshort hbytes hmap | mapped hn hshort hbytes hmap hrest
  | unmapped hn hshort hbytes hmap hrest =>
    rw [recorded_snd hmap]
    exact List.prefix_append ..

/-- The record of a run goes on from the one before it. -/
theorem record_performAll {os os' : σ × List Exchange} {c' : PageCache} {commands : List Command}
    {answers : List Answer} (h : c.performAll (recorded map) os commands = (answers, c', os')) :
    os.2 <+: os'.2 := by
  induction commands generalizing c os answers with
  | nil =>
    cases h
    exact List.prefix_rfl
  | cons command rest ih =>
    cases h
    refine List.IsPrefix.trans ?_ (ih rfl)
    cases command with
    | acquire n => exact record_acquire rfl
    | release a n => exact List.prefix_rfl

/-- Of mappings that lie apart no two pages are the same. -/
theorem Apart.nodup (hpage : Page.IsSize page) {mappings : List PageRun} (h : Apart page mappings) :
    (mappings.flatMap (addresses page)).Nodup :=
  List.nodup_flatMap.mpr ⟨fun r hr => (h.fits r hr).nodup_addresses hpage, h.disjoint⟩

/-- All their pages start where pages do. -/
theorem Apart.aligned_of_mem (hpage : Page.IsSize page) {mappings : List PageRun}
    (h : Apart page mappings) {a : Address} (ha : a ∈ mappings.flatMap (addresses page)) :
    a % page = 0 := by
  obtain ⟨r, hr, har⟩ := List.mem_flatMap.mp ha
  exact PageRun.aligned_of_mem_addresses hpage (h.aligned r hr) har

/-! ### Ledgers -/

/-- What a cache has handed out. -/
structure Ledger where
  /-- The pages that were handed out and have not been given back. -/
  held : List Address := []
  /-- The number of pages that were handed out. -/
  handedOut : Nat := 0
  /-- The number of pages that were given back. -/
  returned : Nat := 0

namespace Ledger

/-- The pages that are given back. The null address stands for no pages. -/
def givenBack (page : UInt64) (a : Address) (n : UInt64) : List Address :=
  if a = 0 then [] else addresses page ⟨a, n⟩

/-- Enters a command that was answered. -/
def enter (page : UInt64) (l : Ledger) : Command × Answer → Ledger
  | (.acquire n, .acquired (.ok a)) =>
    { l with held := l.held ++ addresses page ⟨a, n⟩, handedOut := l.handedOut + n.toNat }
  | (.release a n, .done) =>
    { l with
      held := l.held.diff (givenBack page a n)
      returned := l.returned + (givenBack page a n).length }
  | _ => l

/-- Only held pages are given back, each of them once, in runs that end within the address space. -/
def Permits (page : UInt64) (l : Ledger) : Command → Prop
  | .acquire _ => True
  | .release a n => (a ≠ 0 → PageRun.Fits page ⟨a, n⟩) ∧ givenBack page a n <+~ l.held

instance (l : Ledger) : (command : Command) → Decidable (l.Permits page command)
  | .acquire _ => .isTrue trivial
  | .release a n =>
    inferInstanceAs (Decidable ((a ≠ 0 → PageRun.Fits page ⟨a, n⟩) ∧ givenBack page a n <+~ l.held))

/-- Enters the commands of a run. -/
def enterAll (page : UInt64) (l : Ledger) (entries : List (Command × Answer)) : Ledger :=
  entries.foldl (enter page) l

/-- Each command of a run is permitted when it is its turn. -/
def PermitsAll (page : UInt64) (l : Ledger) : List (Command × Answer) → Prop
  | [] => True
  | entry :: rest => l.Permits page entry.1 ∧ (l.enter page entry).PermitsAll page rest

instance decidablePermitsAll (l : Ledger) :
    (entries : List (Command × Answer)) → Decidable (l.PermitsAll page entries)
  | [] => .isTrue trivial
  | entry :: rest =>
    have := decidablePermitsAll (l.enter page entry) rest
    inferInstanceAs (Decidable (l.Permits page entry.1 ∧ (l.enter page entry).PermitsAll page rest))

end Ledger

/-! ### The balance -/

/-- All mapped pages are accounted for, as held or as cached ones, and counted. -/
structure Balanced (page : UInt64) (c : PageCache) (l : Ledger) (mappings : List PageRun) :
    Prop where
  size : c.pageSize = page
  pages : l.held ++ c.free.flatMap (addresses page) ~ mappings.flatMap (addresses page)
  /-- A cached run can be cut. The null address is not in one. -/
  runs : ∀ r ∈ c.free, r.Fits page ∧ r.pages ≠ 0 ∧ r.start ≠ 0
  mapped : c.mapped = UInt64.ofNat (mappings.flatMap (addresses page)).length
  released : c.released = UInt64.ofNat l.returned
  counted : (mappings.flatMap (addresses page)).length + l.returned =
    l.handedOut + (c.free.flatMap (addresses page)).length

/-- A batch has the pages that are needed. -/
theorem le_batch (n : UInt64) : n ≤ batch n := by
  unfold batch
  split
  · next h => rw [h]; decide
  · exact UInt64.le_refl n

/-- Pages that are handed out from a cached run come out of the cache. -/
theorem perm_of_cached {i : Nat} {r : PageRun} {left : List PageRun} (hr : c.free[i]? = some r)
    (hcut : r.addresses page = addresses page ⟨r.start, n⟩ ++ left.flatMap (addresses page)) :
    c.free.flatMap (addresses page) ~
      addresses page ⟨r.start, n⟩ ++ (swapRemove c.free i ++ left).flatMap (addresses page) :=
  calc c.free.flatMap (addresses page)
    _ ~ (r :: swapRemove c.free i).flatMap (addresses page) :=
      (perm_cons_swapRemove hr).flatMap_right (addresses page)
    _ = addresses page ⟨r.start, n⟩ ++ (left ++ swapRemove c.free i).flatMap (addresses page) := by
      rw [List.flatMap_cons, hcut, List.append_assoc, List.flatMap_append]
    _ ~ addresses page ⟨r.start, n⟩ ++ (swapRemove c.free i ++ left).flatMap (addresses page) :=
      (List.perm_append_comm.flatMap_right (addresses page)).append_left _

namespace Balanced

variable {l : Ledger} {os os' : σ × List Exchange} {c' : PageCache} {mappings : List PageRun}

/-- A new cache and an empty ledger are balanced. -/
theorem start (page : UInt64) : Balanced page (.start page) {} [] :=
  ⟨rfl, .refl _, fun r hr => (by cases hr), rfl, rfl, rfl⟩

/-- Pages are handed out that come out of the cache or from fresh mappings. -/
theorem handOut (h : Balanced page c l mappings) {a : Address} (fresh : List PageRun)
    (hsize : c'.pageSize = c.pageSize)
    (hfree : c.free.flatMap (addresses page) ++ fresh.flatMap (addresses page) ~
      addresses page ⟨a, n⟩ ++ c'.free.flatMap (addresses page))
    (hruns : ∀ r ∈ c'.free, r.Fits page ∧ r.pages ≠ 0 ∧ r.start ≠ 0)
    (hmapped : c'.mapped = c.mapped + UInt64.ofNat (fresh.flatMap (addresses page)).length)
    (hreleased : c'.released = c.released) :
    Balanced page c' (l.enter page (.acquire n, .acquired (.ok a))) (mappings ++ fresh) where
  size := hsize.trans h.size
  pages :=
    calc (l.held ++ addresses page ⟨a, n⟩) ++ c'.free.flatMap (addresses page)
      _ = l.held ++ (addresses page ⟨a, n⟩ ++ c'.free.flatMap (addresses page)) :=
        List.append_assoc ..
      _ ~ l.held ++ (c.free.flatMap (addresses page) ++ fresh.flatMap (addresses page)) :=
        hfree.symm.append_left _
      _ = (l.held ++ c.free.flatMap (addresses page)) ++ fresh.flatMap (addresses page) :=
        (List.append_assoc ..).symm
      _ ~ mappings.flatMap (addresses page) ++ fresh.flatMap (addresses page) :=
        h.pages.append_right _
      _ = (mappings ++ fresh).flatMap (addresses page) := List.flatMap_append.symm
  runs := hruns
  mapped := by
    rw [hmapped, h.mapped, List.flatMap_append, List.length_append, UInt64.ofNat_add]
  released := hreleased.trans h.released
  counted := by
    have hlength := hfree.length_eq
    have hcounted := h.counted
    have hentered : (l.enter page (.acquire n, .acquired (.ok a))).handedOut =
        l.handedOut + n.toNat ∧
        (l.enter page (.acquire n, .acquired (.ok a))).returned = l.returned := ⟨rfl, rfl⟩
    simp only [List.flatMap_append, List.length_append, PageRun.length_addresses] at hlength ⊢
    omega

/-- Asking for pages keeps the balance. All numbers on the way fit in a word if all mappings lie
within the address space. -/
theorem acquire (hpage : Page.IsSize page) (h : Balanced page c l (mappingsIn page os.2))
    {r : Except PageFailure Address}
    (hacquire : c.acquire (recorded map) os n = (r, c', os'))
    (hfits : ∀ r ∈ mappingsIn page os'.2, r.Fits page) :
    Balanced page c' (l.enter page (.acquire n, .acquired r)) (mappingsIn page os'.2) ∧
      ∀ o, r ≠ .error (.overflow o) := by
  have hcases := acquire_acquisition c (recorded map) os n
  rw [hacquire] at hcases
  -- the pages of a new mapping are those of the batch, since their number of bytes fits in a word
  have hmapping : ∀ {bytes : ByteCount} {a : Address} {os' : σ × List Exchange},
      bytes.toNat = (batch n).toNat * c.pageSize.toNat →
      recorded map bytes os = (.ok a, os') →
        mappingsIn page os'.2 = mappingsIn page os.2 ++ [⟨a, batch n⟩] := by
    intro bytes a os' hbytes hmap
    have hpages : bytes / page = batch n := by
      apply UInt64.toNat_inj.mp
      rw [UInt64.toNat_div, hbytes, h.size]
      exact Nat.mul_div_cancel _ hpage.pos
    rw [recorded_snd hmap, mappingsIn_append, ← hpages]
    rfl
  cases hcases with
  | none hn => exact ⟨h, fun o ho => by cases ho⟩
  | excessive => exact ⟨h, fun o ho => by cases ho⟩
  | refused hn hshort hbytes hmap =>
    rw [recorded_snd hmap, mappingsIn_append]
    exact ⟨(List.append_nil _).symm ▸ h, fun o ho => by cases ho⟩
  | @cached i r left hn hr hle hrest =>
    obtain ⟨hrfits, -⟩ := h.runs r (List.mem_of_getElem? hr)
    obtain ⟨left', hrest', hcut, hleft⟩ := exists_rest hpage hrfits hn hle
    obtain rfl : left' = left := Except.ok.inj (hrest'.symm.trans (h.size ▸ hrest))
    refine ⟨List.append_nil (mappingsIn page os.2) ▸ h.handOut [] rfl ?_ (fun r' hr' => ?_) ?_ rfl,
      fun o ho => by cases ho⟩
    · rw [List.flatMap_nil, List.append_nil]
      exact perm_of_cached hr hcut
    · refine (List.mem_append.mp hr').elim (fun hr' => h.runs r' ?_) (hleft r')
      exact (perm_cons_swapRemove hr).mem_iff.mpr (List.mem_cons_of_mem r hr')
    · exact (UInt64.add_zero _).symm
  | @uncut i r o hn hr hle hrest =>
    obtain ⟨hrfits, -⟩ := h.runs r (List.mem_of_getElem? hr)
    obtain ⟨left, hrest', -⟩ := exists_rest hpage hrfits hn hle
    cases hrest'.symm.trans (h.size ▸ hrest)
  | @mapped bytes a os' left hn hshort hbytes hmap hrest =>
    rw [hmapping hbytes hmap] at hfits ⊢
    have hafits : PageRun.Fits page ⟨a, batch n⟩ := hfits _ (by simp)
    obtain ⟨left', hrest', hcut, hleft⟩ := exists_rest hpage hafits hn (le_batch n)
    obtain rfl : left' = left := Except.ok.inj (hrest'.symm.trans (h.size ▸ hrest))
    refine ⟨h.handOut _ rfl ?_ (fun r' hr' => ?_) ?_ rfl, fun o ho => by cases ho⟩
    · rw [List.flatMap_cons, List.flatMap_nil, List.append_nil, hcut, List.flatMap_append]
      exact List.perm_append_comm_assoc ..
    · exact (List.mem_append.mp hr').elim (h.runs r') (hleft r')
    · simp [PageRun.length_addresses]
  | @unmapped bytes a os' o hn hshort hbytes hmap hrest =>
    rw [hmapping hbytes hmap] at hfits
    have hafits : PageRun.Fits page ⟨a, batch n⟩ := hfits _ (by simp)
    obtain ⟨left, hrest', -⟩ := exists_rest hpage hafits hn (le_batch n)
    cases hrest'.symm.trans (h.size ▸ hrest)

/-- Giving back held pages keeps the balance. -/
theorem release (h : Balanced page c l mappings) {a : Address}
    (hpermits : l.Permits page (.release a n)) :
    Balanced page (c.release a n) (l.enter page (.release a n, .done)) mappings := by
  unfold PageCache.release
  split
  · next hnone =>
    have hback : Ledger.givenBack page a n = [] := by
      unfold Ledger.givenBack
      rcases hnone with rfl | rfl
      · exact if_pos rfl
      · exact ite_self _
    have hledger : l.enter page (.release a n, .done) = l := by
      simp only [Ledger.enter, hback, List.diff_nil, List.length_nil, Nat.add_zero]
    rwa [hledger]
  · next hsome =>
    obtain ⟨ha, hn⟩ := not_or.mp hsome
    have hback : Ledger.givenBack page a n = addresses page ⟨a, n⟩ := if_neg ha
    have hlength : (Ledger.givenBack page a n).length = n.toNat := by
      rw [hback, PageRun.length_addresses]
    -- a permitted release finds all its pages among those that are held
    have hheld : addresses page ⟨a, n⟩ ++ l.held.diff (addresses page ⟨a, n⟩) ~ l.held :=
      List.subperm_append_diff_self_of_count_le
        (List.subperm_ext_iff.mp (hback ▸ hpermits.2 : addresses page ⟨a, n⟩ <+~ l.held))
    refine ⟨h.size, ?_, fun r hr => ?_, h.mapped, ?_, ?_⟩
    · calc l.held.diff (Ledger.givenBack page a n) ++
            (c.free ++ [(⟨a, n⟩ : PageRun)]).flatMap (addresses page)
        _ = l.held.diff (addresses page ⟨a, n⟩) ++
            (c.free.flatMap (addresses page) ++ addresses page ⟨a, n⟩) := by
          rw [hback, List.flatMap_append, List.flatMap_cons, List.flatMap_nil, List.append_nil]
        _ ~ l.held.diff (addresses page ⟨a, n⟩) ++
            (addresses page ⟨a, n⟩ ++ c.free.flatMap (addresses page)) :=
          List.perm_append_comm.append_left _
        _ ~ (addresses page ⟨a, n⟩ ++ l.held.diff (addresses page ⟨a, n⟩)) ++
            c.free.flatMap (addresses page) := by
          rw [← List.append_assoc]
          exact List.perm_append_comm.append_right _
        _ ~ l.held ++ c.free.flatMap (addresses page) := hheld.append_right _
        _ ~ mappings.flatMap (addresses page) := h.pages
    · rcases List.mem_append.mp hr with hr | hr
      · exact h.runs r hr
      · cases List.mem_singleton.mp hr
        exact ⟨hpermits.1 ha, hn, ha⟩
    · have hreturned : (l.enter page (.release a n, .done)).returned = l.returned + n.toNat :=
        congrArg (l.returned + ·) hlength
      rw [hreturned, UInt64.ofNat_add, UInt64.ofNat_toNat, h.released]
    · have hcounted := h.counted
      simp only [Ledger.enter, hlength, List.flatMap_append, List.length_append, List.flatMap_cons,
        List.flatMap_nil, List.append_nil, PageRun.length_addresses]
      omega

/-- One command keeps the balance. -/
theorem perform (hpage : Page.IsSize page) (h : Balanced page c l (mappingsIn page os.2))
    {command : Command} {answer : Answer} (hpermits : l.Permits page command)
    (hperform : c.perform (recorded map) os command = (answer, c', os'))
    (hfits : ∀ r ∈ mappingsIn page os'.2, r.Fits page) :
    Balanced page c' (l.enter page (command, answer)) (mappingsIn page os'.2) ∧
      ∀ o, answer ≠ .acquired (.error (.overflow o)) := by
  cases command with
  | acquire n =>
    cases hperform
    obtain ⟨hbalanced, hover⟩ := h.acquire hpage rfl hfits
    exact ⟨hbalanced, fun o ho => hover o (Answer.acquired.inj ho)⟩
  | release a n =>
    cases hperform
    exact ⟨h.release hpermits, fun o ho => by cases ho⟩

/-- A run of commands keeps the balance. -/
theorem performAll (hpage : Page.IsSize page) (h : Balanced page c l (mappingsIn page os.2))
    {commands : List Command} {answers : List Answer}
    (hrun : c.performAll (recorded map) os commands = (answers, c', os'))
    (hpermits : l.PermitsAll page (commands.zip answers))
    (hfits : ∀ r ∈ mappingsIn page os'.2, r.Fits page) :
    Balanced page c' (l.enterAll page (commands.zip answers)) (mappingsIn page os'.2) ∧
      ∀ o, .acquired (.error (.overflow o)) ∉ answers := by
  induction commands generalizing c l os answers with
  | nil =>
    cases hrun
    exact ⟨h, fun o ho => by cases ho⟩
  | cons command rest ih =>
    cases hrun
    -- the mappings of the first command are among those of the run
    have hfirst := h.perform hpage hpermits.1 rfl fun r hr =>
      hfits r (((record_performAll rfl).filterMap (Exchange.mapping? page)).subset hr)
    obtain ⟨hbalanced, hover⟩ := ih hfirst.1 rfl hpermits.2
    exact ⟨hbalanced, fun o ho => (List.mem_cons.mp ho).elim (fun h => hfirst.2 o h.symm) (hover o)⟩

end Balanced

/-! ### Conservation -/

/-- What holds of a cache and of the pages that are held, when these are the mappings: no page is
lost and none is there twice. The counters of the cache are words, so they say how many pages were
mapped and given back modulo the size of the address space. -/
structure Conserved (page : UInt64) (c : PageCache) (l : Ledger) (mappings : List PageRun) :
    Prop where
  held_aligned : ∀ a ∈ l.held, a % page = 0
  cached_aligned : ∀ r ∈ c.free, r.start % page = 0
  disjoint : (l.held ++ c.free.flatMap (addresses page)).Nodup
  complete : ∀ a, a ∈ l.held ∨ a ∈ c.free.flatMap (addresses page) ↔
    a ∈ mappings.flatMap (addresses page)
  mapped : c.mapped = UInt64.ofNat (mappings.flatMap (addresses page)).length
  released : c.released = UInt64.ofNat l.returned
  cached : ∃ n, c.cached = .ok n ∧ n.toNat = (c.free.flatMap (addresses page)).length
  counted : (mappings.flatMap (addresses page)).length + l.returned =
    l.handedOut + (c.free.flatMap (addresses page)).length

/-- A sum of numbers of pages is the exact one. -/
theorem foldlM_sum_eq_ok_iff {runs : List PageRun} {m k : UInt64} :
    runs.foldlM (fun n r => Word.sum n r.pages) m = .ok k ↔
      k.toNat = m.toNat + (runs.map fun r => r.pages.toNat).sum := by
  induction runs generalizing m with
  | nil => exact ⟨fun h => congrArg UInt64.toNat (Except.ok.inj h).symm,
      fun h => congrArg _ (UInt64.toNat_inj.mp h).symm⟩
  | cons r rest ih =>
    rw [List.foldlM_cons, List.map_cons, List.sum_cons]
    rcases hsum : Word.sum m r.pages with o | k'
    · refine iff_of_false (fun h => by cases h) fun h => ?_
      -- a partial sum that does not fit leaves no room for the whole one
      have hfit : (UInt64.ofNat (m.toNat + r.pages.toNat)).toNat = m.toNat + r.pages.toNat :=
        UInt64.toNat_ofNat_of_lt' (Nat.lt_of_le_of_lt (by omega) k.toNat_lt_size)
      cases hsum.symm.trans (Word.sum_eq_ok_iff.mpr hfit)
    · have hexact := Word.sum_eq_ok_iff.mp hsum
      refine Iff.trans ih ?_
      rw [hexact, Nat.add_assoc]

/-- The number of pages that wait is the exact one. -/
theorem cached_eq_ok_iff {k : UInt64} :
    c.cached = .ok k ↔ k.toNat = (c.free.flatMap (addresses page)).length := by
  have hpages : (fun r => (r.addresses page).length) = fun r : PageRun => r.pages.toNat :=
    funext PageRun.length_addresses
  rw [cached, foldlM_sum_eq_ok_iff, List.length_flatMap, hpages, UInt64.toNat_zero, Nat.zero_add]

/-- There are fewer addresses than words can count if the null address is not one of them. -/
theorem length_lt_size_of_nodup {l : List Address} (h : l.Nodup) (hnull : 0 ∉ l) :
    l.length < UInt64.size := by
  have hnodup : ((0 :: l).map UInt64.toNat).Nodup :=
    (List.nodup_cons.mpr ⟨hnull, h⟩).map fun _ _ => UInt64.toNat_inj.mp
  have hsubset : (0 :: l).map UInt64.toNat ⊆ List.range UInt64.size := fun k hk => by
    obtain ⟨a, -, rfl⟩ := List.mem_map.mp hk
    exact List.mem_range.mpr a.toNat_lt_size
  have hle := (List.subperm_of_subset hnodup hsubset).length_le
  rw [List.length_map, List.length_range, List.length_cons] at hle
  exact hle

/-- A balanced ledger accounts for every page of mappings that lie apart. -/
theorem Balanced.conserved (hpage : Page.IsSize page) {l : Ledger} {mappings : List PageRun}
    (h : Balanced page c l mappings) (hapart : Apart page mappings) :
    Conserved page c l mappings := by
  have hcomplete : ∀ a, a ∈ l.held ∨ a ∈ c.free.flatMap (addresses page) ↔
      a ∈ mappings.flatMap (addresses page) := fun a =>
    List.mem_append.symm.trans h.pages.mem_iff
  have hnodup : (l.held ++ c.free.flatMap (addresses page)).Nodup :=
    h.pages.nodup_iff.mpr (hapart.nodup hpage)
  -- no cached run starts at the null address, so words can count the cached pages
  have hnull : 0 ∉ c.free.flatMap (addresses page) := fun hmem => by
    obtain ⟨r, hr, hzero⟩ := List.mem_flatMap.mp hmem
    obtain ⟨hfits, -, hstart⟩ := h.runs r hr
    exact hstart (UInt64.le_zero_iff.mp (hfits.start_le_of_mem hpage hzero))
  have hlength := length_lt_size_of_nodup (List.nodup_append.mp hnodup).2.1 hnull
  have hcount : (UInt64.ofNat (c.free.flatMap (addresses page)).length).toNat =
      (c.free.flatMap (addresses page)).length :=
    UInt64.toNat_ofNat_of_lt' hlength
  exact
    { held_aligned := fun a ha => hapart.aligned_of_mem hpage ((hcomplete a).mp (.inl ha))
      cached_aligned := fun r hr => by
        have hpos : 0 < r.pages.toNat :=
          Nat.pos_of_ne_zero fun h0 => (h.runs r hr).2.1 (UInt64.toNat_inj.mp h0)
        exact hapart.aligned_of_mem hpage ((hcomplete _).mp
          (.inr (List.mem_flatMap.mpr ⟨r, hr, PageRun.start_mem_addresses hpos⟩)))
      disjoint := hnodup
      complete := hcomplete
      mapped := h.mapped
      released := h.released
      cached := ⟨_, cached_eq_ok_iff.mpr hcount, hcount⟩
      counted := h.counted }

/-- The operating system is asked for memory only if no cached run has as many pages as are
needed. -/
theorem short_of_asked {os os' : σ × List Exchange} {c' : PageCache}
    {r : Except PageFailure Address} (h : c.acquire (recorded map) os n = (r, c', os'))
    (hasked : os'.2 ≠ os.2) : ∀ r ∈ c.free, r.pages < n := by
  have hcases := acquire_acquisition c (recorded map) os n
  rw [h] at hcases
  cases hcases with
  | none | cached | uncut | excessive => exact absurd rfl hasked
  | refused hn hshort | mapped hn hshort | unmapped hn hshort => exact hshort

/-- A cache is as before if it refuses to hand out pages. -/
theorem eq_of_acquire_error {os os' : σ} {c' : PageCache} {e : PageError}
    (h : c.acquire map os n = (.error (.unmet e), c', os')) : c' = c := by
  have hcases := acquire_acquisition c map os n
  rw [h] at hcases
  cases hcases <;> rfl

/-- Whatever pages are asked for and given back, held and cached pages are the mapped ones, each
once, as long as held pages alone are given back. The next request asks the operating system only if
no cached run is long enough, and changes nothing if it fails. No number on the way is too large for
a word, so that each request is either met or refused. -/
theorem performAll_conserves {page : UInt64} (hpage : Page.IsSize page)
    (map : ByteCount → σ → Except Errno Address × σ) (os : σ)
    (commands : List Command) {answers : List Answer} {cache : PageCache} {os' : σ}
    {exchanges : List Exchange}
    (hrun : (start page).performAll (recorded map) (os, []) commands =
      (answers, cache, os', exchanges))
    (hpermits : ({} : Ledger).PermitsAll page (commands.zip answers))
    (hapart : Apart page (mappingsIn page exchanges)) :
    Conserved page cache (({} : Ledger).enterAll page (commands.zip answers))
        (mappingsIn page exchanges) ∧
      (∀ o, .acquired (.error (.overflow o)) ∉ answers) ∧
      ∀ n r cache' os'' exchanges',
        cache.acquire (recorded map) (os', exchanges) n = (r, cache', os'', exchanges') →
          (exchanges' ≠ exchanges → ∀ run ∈ cache.free, run.pages < n) ∧
          (∀ e, r = .error (.unmet e) → cache' = cache) ∧
          (Apart page (mappingsIn page exchanges') → ∀ o, r ≠ .error (.overflow o)) := by
  obtain ⟨hbalanced, hover⟩ := (Balanced.start page).performAll hpage hrun hpermits hapart.fits
  refine ⟨hbalanced.conserved hpage hapart, hover, fun n r cache' os'' exchanges' hacquire =>
    ⟨short_of_asked hacquire, fun e he => ?_, fun hapart' => ?_⟩⟩
  · subst he
    exact eq_of_acquire_error hacquire
  · -- the mapping of the next request ends within the address space as well
    exact (hbalanced.acquire hpage hacquire hapart'.fits).2

/-- One page comes from a mapping of eight. Of the next three the last two are given back, so that
five need a mapping of their own and two more do not. -/
def fragmenting : List Command :=
  [.acquire 1, .acquire 3, .release 0x7effffffa000 2, .acquire 5, .acquire 2]

/-- The mappings of this run come from a simple address space, with the size of pages that it
tells. -/
theorem performAll_conserves_fragmenting :
    ∃ page answers cache os exchanges, ({} : AddressSpace).pageSize = page ∧
      (start page).performAll (recorded AddressSpace.map) ({}, []) fragmenting =
        (answers, cache, os, exchanges) ∧
      ({} : Ledger).PermitsAll page (fragmenting.zip answers) ∧
      Apart page (mappingsIn page exchanges) ∧
      Conserved page cache (({} : Ledger).enterAll page (fragmenting.zip answers))
        (mappingsIn page exchanges) :=
  let answers : List Answer :=
    [.acquired (.ok 0x7effffff8000), .acquired (.ok 0x7effffff9000), .done,
      .acquired (.ok 0x7effffff3000), .acquired (.ok 0x7effffffc000)]
  let cache : PageCache :=
    { pageSize := 4096
      free := [⟨0x7effffffa000, 2⟩, ⟨0x7effffffe000, 2⟩], mapped := 13, reused := 5, released := 2 }
  let exchanges : List Exchange := [⟨0x8000, .ok 0x7effffff8000⟩, ⟨0x5000, .ok 0x7effffff3000⟩]
  have hrun : (start 4096).performAll (recorded AddressSpace.map) ({}, []) fragmenting =
      (answers, cache, _, exchanges) := rfl
  have hpermits : ({} : Ledger).PermitsAll 4096 (fragmenting.zip answers) := by decide +kernel
  have hmappings : mappingsIn 4096 exchanges = [⟨0x7effffff8000, 8⟩, ⟨0x7effffff3000, 5⟩] := by
    decide +kernel
  have hinter : addresses 4096 ⟨0x7effffff8000, 8⟩ ∩ addresses 4096 ⟨0x7effffff3000, 5⟩ = [] := by
    decide +kernel
  have hapart : Apart 4096 (mappingsIn 4096 exchanges) := by
    rw [hmappings]
    exact ⟨by decide +kernel, by decide +kernel,
      List.pairwise_pair.mpr (List.inter_eq_nil_iff_disjoint.mp hinter)⟩
  ⟨4096, answers, cache, _, exchanges, rfl, hrun, hpermits, hapart,
    (performAll_conserves ⟨12, rfl⟩ AddressSpace.map {} fragmenting hrun hpermits hapart).1⟩

end MemorySentry.PageCache
