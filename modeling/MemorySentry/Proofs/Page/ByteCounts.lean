import Mathlib.Order.Bounds.Basic
import MemorySentry.Monitor.Shadow
import MemorySentry.Proofs.Page.Conservation
import MemorySentry.Proofs.Span

/-!
# Numbers of bytes

Pages are counted, but the operating system is asked for bytes, the number of which has to fit in a
word. Fresh memory is refused if it does not (`PageCache.acquire_bytes`). A second view and a change
of protection are neither made nor refused then, since forming the number stops the operation
(`Page.request_bytes`). The pages of some bytes can be that many (`Monitor.pagesOf_bytes_lt_iff`).
-/

namespace MemorySentry

/-- The quotient that is rounded up is the least one that covers all items. -/
theorem Word.divUp_le_iff {n size k : Nat} (h : 0 < size) : divUp n size ≤ k ↔ n ≤ k * size := by
  unfold divUp
  rw [← Nat.lt_succ_iff, Nat.div_lt_iff_lt_mul h, Nat.succ_mul]
  omega

namespace Page

/-! ### Requests for whole pages -/

section

variable {page : UInt64} {action : Action} {a : Address} {n : UInt64}

/-- A request asks for the exact number of bytes. -/
theorem request_eq_ok {r : Request} (h : request page action a n = .ok r) :
    n ≠ 0 ∧ r.bytes.toNat = n.toNat * page.toNat ∧
      r.start = if action = .remap then a else base page a := by
  unfold request at h
  split at h
  · cases h
  · next hn =>
    rcases hbytes : Word.product n page with o | bytes
    · rw [hbytes] at h
      cases h
    · rw [hbytes] at h
      cases h
      exact ⟨hn, Word.product_eq_ok_iff.mp hbytes, rfl⟩

/-- What comes of a request: one for the exact number of bytes if that fits in a word, an error if
there are no pages, and neither otherwise. -/
theorem request_bytes :
    (∀ r, request page action a n = .ok r → r.bytes.toNat = n.toNat * page.toNat) ∧
      ((∃ r, request page action a n = .ok r) ↔ n ≠ 0 ∧ n.toNat * page.toNat < UInt64.size) ∧
      ∀ e, request page action a n = .error (.unmet e) ↔ n = 0 ∧ e = .emptyRequest := by
  refine ⟨fun r h => (request_eq_ok h).2.1, ⟨fun ⟨r, h⟩ => ?_, fun ⟨hn, hlt⟩ => ?_⟩, fun e => ?_⟩
  · obtain ⟨hn, hbytes, -⟩ := request_eq_ok h
    exact ⟨hn, hbytes ▸ r.bytes.toNat_lt_size⟩
  · have hbytes : Word.product n page = .ok (n * page) :=
      Word.product_eq_ok_iff.mpr (Word.toNat_mul_of_lt hlt)
    exact ⟨_, by rw [request, if_neg hn, hbytes]⟩
  · unfold request
    split
    · next hn => simp [hn, eq_comm]
    · next hn => cases Word.product n page <;> simp [hn]

end

end Page

/-! ### Fresh memory -/

namespace PageCache

variable {σ : Type} {map : ByteCount → σ → Except Errno Address × σ} {c c' : PageCache} {n : UInt64}
  {os os' : σ} {r : Except PageFailure Address} {exchanges : List Exchange}

/-- Whatever the operating system replies, it is asked for all bytes of a batch at most once, and
what is handed out has as many pages as are needed. It is asked unless there is a cached run that is
long enough or the number of bytes does not fit. Only a run or a mapping that does not end within
the address space makes a number too large for a word. -/
theorem acquire_bytes (hpage : Page.IsSize c.pageSize)
    (h : c.acquire (recorded map) (os, []) n = (r, c', os', exchanges)) :
    (∀ e ∈ exchanges, exchanges = [e] ∧ e.bytes.toNat = (batch n).toNat * c.pageSize.toNat) ∧
    (∀ a, r = .ok a →
      (∃ run ∈ c.free, run.start = a ∧ n ≤ run.pages) ∨
      ∃ e ∈ exchanges, e.reply = .ok a ∧ n.toNat * c.pageSize.toNat ≤ e.bytes.toNat) ∧
    (exchanges = [] ↔ n = 0 ∨ (∃ run ∈ c.free, n ≤ run.pages) ∨
      UInt64.size ≤ (batch n).toNat * c.pageSize.toNat) ∧
    ∀ o, r = .error (.overflow o) →
      (∃ run ∈ c.free, ¬ run.Fits c.pageSize) ∨
      ∃ e ∈ exchanges, ∃ a, e.reply = .ok a ∧ UInt64.size < a.toNat + e.bytes.toNat := by
  have hle : n.toNat * c.pageSize.toNat ≤ (batch n).toNat * c.pageSize.toNat :=
    Nat.mul_le_mul_right _ (UInt64.le_iff_toNat_le.mp (le_batch n))
  -- if the operating system is asked, there is no other way to get the pages
  have hasked : n ≠ 0 → (∀ run ∈ c.free, run.pages < n) → ∀ {bytes : ByteCount},
      bytes.toNat = (batch n).toNat * c.pageSize.toNat →
        ¬ (n = 0 ∨ (∃ run ∈ c.free, n ≤ run.pages) ∨
          UInt64.size ≤ (batch n).toNat * c.pageSize.toNat) := by
    rintro hn hshort bytes hbytes (hzero | ⟨run, hrun, hpages⟩ | hlarge)
    · exact hn hzero
    · exact UInt64.not_lt.mpr hpages (hshort run hrun)
    · exact Nat.not_lt.mpr hlarge (hbytes ▸ bytes.toNat_lt_size)
  -- and there is one exchange, of all bytes of the batch
  have hone : ∀ {bytes : ByteCount} {reply : Except Errno Address},
      recorded map bytes (os, []) = (reply, os', exchanges) → exchanges = [⟨bytes, reply⟩] :=
    fun hmap => recorded_snd hmap
  have hcases := acquire_acquisition c (recorded map) (os, []) n
  rw [h] at hcases
  cases hcases with
  | none hn =>
    exact ⟨fun e he => (by cases he), fun a ha => (by cases ha), iff_of_true rfl (.inl hn),
      fun o ho => by cases ho⟩
  | @cached i run left hn hrun hpages hrest =>
    have hmem := List.mem_of_getElem? hrun
    refine ⟨fun e he => (by cases he), fun a ha => .inl ⟨run, hmem, Except.ok.inj ha, hpages⟩,
      iff_of_true rfl (.inr (.inl ⟨run, hmem, hpages⟩)), fun o ho => by cases ho⟩
  | @uncut i run o hn hrun hpages hrest =>
    have hmem := List.mem_of_getElem? hrun
    refine ⟨fun e he => (by cases he), fun a ha => (by cases ha),
      iff_of_true rfl (.inr (.inl ⟨run, hmem, hpages⟩)),
      fun o' ho => .inl ⟨run, hmem, fun hfits => ?_⟩⟩
    obtain ⟨left, hrest', -⟩ := exists_rest hpage hfits hn hpages
    cases hrest'.symm.trans hrest
  | excessive hn hshort hbytes =>
    exact ⟨fun e he => (by cases he), fun a ha => (by cases ha),
      iff_of_true rfl (.inr (.inr hbytes)), fun o ho => by cases ho⟩
  | @refused bytes errno os₁ hn hshort hbytes hmap =>
    cases hone hmap
    refine ⟨fun e he => ?_, fun a ha => (by cases ha),
      iff_of_false (List.cons_ne_nil _ _) (hasked hn hshort hbytes), fun o ho => by cases ho⟩
    cases List.mem_singleton.mp he
    exact ⟨rfl, hbytes⟩
  | @mapped bytes a os₁ left hn hshort hbytes hmap hrest =>
    cases hone hmap
    refine ⟨fun e he => ?_, fun a' ha' => .inr ⟨_, List.mem_singleton_self _, ?_⟩,
      iff_of_false (List.cons_ne_nil _ _) (hasked hn hshort hbytes), fun o ho => by cases ho⟩
    · cases List.mem_singleton.mp he
      exact ⟨rfl, hbytes⟩
    · cases ha'
      exact ⟨rfl, hle.trans_eq hbytes.symm⟩
  | @unmapped bytes a os₁ o hn hshort hbytes hmap hrest =>
    cases hone hmap
    refine ⟨fun e he => ?_, fun a' ha' => (by cases ha'),
      iff_of_false (List.cons_ne_nil _ _) (hasked hn hshort hbytes),
      fun o' ho => .inr ⟨_, List.mem_singleton_self _, a, rfl, ?_⟩⟩
    · cases List.mem_singleton.mp he
      exact ⟨rfl, hbytes⟩
    · by_contra hinside
      have hfits : PageRun.Fits c.pageSize ⟨a, batch n⟩ := by
        unfold PageRun.Fits
        rw [← hbytes]
        exact Nat.not_lt.mp hinside
      obtain ⟨left, hrest', -⟩ := exists_rest hpage hfits hn (le_batch n)
      cases hrest'.symm.trans hrest

end PageCache

/-! ### The pages of some bytes -/

namespace Monitor

variable {page : UInt64} {a canonical : Address} {length : ByteCount} {pages : UInt64}

/-- The pages of some bytes start with the page of the first one. -/
theorem of_pagesOf_eq_ok (hpage : Page.IsSize page)
    (h : pagesOf page a length = .ok (canonical, pages)) :
    length ≠ 0 ∧ a.toNat + length.toNat < UInt64.size ∧ canonical = Page.base page a ∧
      pages.toNat = Word.divUp (a.toNat % page.toNat + length.toNat) page.toNat := by
  unfold pagesOf at h
  split at h
  · cases h
  · next hnone =>
    rcases hspan : Span.ofLength a length with e | s
    · rw [hspan] at h
      cases h
    · rw [hspan] at h
      cases h
      obtain ⟨-, hstop⟩ := Span.ofLength_eq_ok_iff.mp hspan
      have hlt := s.stop.toNat_lt_size
      have hbase := hpage.toNat_base a
      have hle : Page.base page a ≤ s.stop := UInt64.le_iff_toNat_le.mpr (by omega)
      have hbytes : (s.stop - Page.base page a).toNat = a.toNat % page.toNat + length.toNat := by
        have hmod := Nat.mod_le a.toNat page.toNat
        rw [UInt64.toNat_sub_of_le _ _ hle]
        omega
      refine ⟨(not_or.mp hnone).2, hstop ▸ hlt, rfl, ?_⟩
      -- there are no more pages than bytes, so their number fits in a word
      rw [UInt64.toNat_ofNat', hbytes]
      refine Nat.mod_eq_of_lt (Nat.lt_of_le_of_lt ((Word.divUp_le_iff hpage.pos).mpr ?_)
        (s.stop - Page.base page a).toNat_lt_size)
      rw [hbytes]
      exact Nat.le_mul_of_pos_right _ hpage.pos

/-- There are as many pages as are needed to cover the bytes, and no more. -/
theorem isLeast_pagesOf (hpage : Page.IsSize page)
    (h : pagesOf page a length = .ok (canonical, pages)) :
    IsLeast {n | a.toNat + length.toNat ≤ canonical.toNat + n * page.toNat} pages.toNat := by
  obtain ⟨-, -, rfl, hpages⟩ := of_pagesOf_eq_ok hpage h
  have hcovers : ∀ n : Nat, a.toNat + length.toNat ≤ (Page.base page a).toNat + n * page.toNat ↔
      pages.toNat ≤ n := fun n => by
    have hmod := Nat.mod_le a.toNat page.toNat
    rw [hpages, Word.divUp_le_iff hpage.pos, hpage.toNat_base]
    omega
  exact ⟨(hcovers _).mpr le_rfl, fun n hn => (hcovers n).mp hn⟩

/-- The pages of some bytes lie within the address space. -/
theorem pagesOf_stop_le (hpage : Page.IsSize page)
    (h : pagesOf page a length = .ok (canonical, pages)) :
    canonical.toNat + pages.toNat * page.toNat ≤ UInt64.size := by
  obtain ⟨-, hlt, rfl, hpages⟩ := of_pagesOf_eq_ok hpage h
  obtain ⟨count, hcount⟩ := hpage.dvd
  have hdiv := Nat.div_add_mod a.toNat page.toNat
  have hbase := hpage.toNat_base a
  -- both ends of the pages are multiples of the size of a page
  have hroom : (count - a.toNat / page.toNat) * page.toNat =
      UInt64.size - page.toNat * (a.toNat / page.toNat) := by
    rw [Nat.sub_mul, hcount, Nat.mul_comm count, Nat.mul_comm (a.toNat / page.toNat)]
  have hle : pages.toNat ≤ count - a.toNat / page.toNat := by
    rw [hpages, Word.divUp_le_iff hpage.pos, hroom]
    omega
  have hbytes := Nat.mul_le_mul_right page.toNat hle
  rw [hroom] at hbytes
  omega

/-- The pages of some bytes have more bytes than fit in a word just if they are all pages. -/
theorem pagesOf_bytes_lt_iff (hpage : Page.IsSize page)
    (h : pagesOf page a length = .ok (canonical, pages)) :
    pages.toNat * page.toNat < UInt64.size ↔
      ¬ (a.toNat < page.toNat ∧ UInt64.size - page.toNat < a.toNat + length.toNat) := by
  obtain ⟨-, hlt, -, hpages⟩ := of_pagesOf_eq_ok hpage h
  have hpos := hpage.pos
  obtain ⟨count, hcount⟩ := hpage.dvd
  have hcount' : 0 < count := Nat.pos_of_ne_zero fun hzero => by
    rw [hzero, Nat.mul_zero] at hcount
    cases hcount
  -- all pages but one have fewer bytes than the address space, by the size of a page
  have hallButOne : (count - 1) * page.toNat = UInt64.size - page.toNat := by
    rw [hcount, Nat.sub_one_mul, Nat.mul_comm]
  have hfewer : pages.toNat * page.toNat < UInt64.size ↔
      a.toNat % page.toNat + length.toNat ≤ UInt64.size - page.toNat := by
    rw [← hallButOne, ← Word.divUp_le_iff hpos, ← hpages, hcount, Nat.mul_comm page.toNat count,
      Nat.mul_lt_mul_right hpos]
    omega
  rw [hfewer]
  rcases Nat.lt_or_ge a.toNat page.toNat with hfirst | hlater
  · rw [Nat.mod_eq_of_lt hfirst]
    omega
  · -- the page of the first byte is not the first one of the address space
    have hdiv := Nat.div_add_mod a.toNat page.toNat
    have hle : page.toNat * 1 ≤ page.toNat * (a.toNat / page.toNat) :=
      Nat.mul_le_mul_left _ ((Nat.one_le_div_iff hpos).mpr hlater)
    omega

end Monitor

namespace Page

open Monitor (pagesOf)
open PageCache (recorded batch)

/-- How many bytes the operating system is asked for. Fresh memory is asked for once, with the bytes
of the whole batch, unless a cached run is long enough or that number does not fit in a word, and no
fewer pages are handed out than are needed. Any other request asks for all bytes of its pages, just
if their number fits in a word, and is refused just for no pages. The number fits for the pages of
some bytes, unless these reach from the first page of the address space into its last one. -/
theorem asked_bytes {σ : Type} (map : ByteCount → σ → Except Errno Address × σ) (c : PageCache)
    (hpage : IsSize c.pageSize) (os : σ) (action : Action) (a : Address) (n : UInt64)
    (length : ByteCount) :
    let page := c.pageSize
    (∀ r c' os' exchanges, c.acquire (recorded map) (os, []) n = (r, c', os', exchanges) →
      (∀ e ∈ exchanges, exchanges = [e] ∧ e.bytes.toNat = (batch n).toNat * page.toNat) ∧
      (∀ b, r = .ok b →
        (∃ run ∈ c.free, run.start = b ∧ n ≤ run.pages) ∨
        ∃ e ∈ exchanges, e.reply = .ok b ∧ n.toNat * page.toNat ≤ e.bytes.toNat) ∧
      (exchanges = [] ↔ n = 0 ∨ (∃ run ∈ c.free, n ≤ run.pages) ∨
        UInt64.size ≤ (batch n).toNat * page.toNat) ∧
      ∀ o, r = .error (.overflow o) →
        (∃ run ∈ c.free, ¬ run.Fits page) ∨
        ∃ e ∈ exchanges, ∃ b, e.reply = .ok b ∧ UInt64.size < b.toNat + e.bytes.toNat) ∧
    ((∀ r, request page action a n = .ok r → r.bytes.toNat = n.toNat * page.toNat) ∧
      ((∃ r, request page action a n = .ok r) ↔ n ≠ 0 ∧ n.toNat * page.toNat < UInt64.size) ∧
      ∀ e, request page action a n = .error (.unmet e) ↔ n = 0 ∧ e = .emptyRequest) ∧
    ∀ canonical pages, pagesOf page a length = .ok (canonical, pages) →
      (pages.toNat * page.toNat < UInt64.size ↔
        ¬ (a.toNat < page.toNat ∧ UInt64.size - page.toNat < a.toNat + length.toNat)) :=
  ⟨fun _ _ _ _ h => PageCache.acquire_bytes hpage h, request_bytes,
    fun _ _ h => Monitor.pagesOf_bytes_lt_iff hpage h⟩

/-- Three pages come from a mapping of their own and are protected as a whole, and the sixteen bytes
around the end of a page have two pages. -/
theorem asked_bytes_small :
    let r := (PageCache.start 4096).acquire (recorded AddressSpace.map) ({}, []) 3
    IsSize 4096 ∧ r.1 = .ok 0x7effffffd000 ∧
    (∀ e ∈ r.2.2.2, r.2.2.2 = [e] ∧ e.bytes.toNat = (batch 3).toNat * 4096) ∧
    (∃ request, Page.request 4096 .protect 0x1ff8 3 = .ok request ∧
      request.bytes.toNat = 3 * 4096) ∧
    ∃ canonical, pagesOf 4096 0x1ff8 16 = .ok (canonical, 2) ∧ 2 * 4096 < UInt64.size := by
  have hpage : IsSize 4096 := ⟨12, rfl⟩
  obtain ⟨hacquire, ⟨hexact, hmet, -⟩, hpages⟩ :=
    asked_bytes AddressSpace.map (.start 4096) hpage {} .protect 0x1ff8 3 16
  obtain ⟨hasked, -⟩ := hacquire _ _ _ _ rfl
  obtain ⟨request, hrequest⟩ := hmet.mpr ⟨by decide, by decide⟩
  have htwo : pagesOf 4096 0x1ff8 16 = .ok (0x1000, 2) := by decide
  exact ⟨hpage, rfl, hasked, ⟨_, hrequest, hexact _ hrequest⟩, _, htwo,
    (hpages _ _ htwo).mpr (by decide)⟩

/-- As many pages as the address space has are neither asked for nor refused, and some bytes have
that many pages. -/
theorem asked_bytes_all_pages :
    (¬ (∃ r, request 4096 .protect 0x1000 0x10000000000000 = .ok r) ∧
      ¬ ∃ e, request 4096 .protect 0x1000 0x10000000000000 = .error (.unmet e)) ∧
    ∃ canonical pages, pagesOf 4096 1 0xfffffffffffffffe = .ok (canonical, pages) ∧
      ¬ pages.toNat * 4096 < UInt64.size := by
  have hover : request 4096 .protect 0x1000 0x10000000000000 =
      .error (.overflow (.product 0x10000000000000 4096)) := by
    decide
  refine ⟨⟨fun ⟨r, h⟩ => ?_, fun ⟨e, h⟩ => ?_⟩, 0, 0x10000000000000, by decide, by decide⟩
  · cases hover.symm.trans h
  · cases hover.symm.trans h

end Page

end MemorySentry
