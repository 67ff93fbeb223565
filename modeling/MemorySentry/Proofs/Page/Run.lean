import Mathlib.Data.List.Nodup
import Mathlib.Data.List.Perm.Basic
import MemorySentry.Page.Cache
import MemorySentry.Proofs.Page.Size

/-!
# The pages of runs

A run of pages stands for the addresses of its pages, if it ends within the address space
(`PageRun.Fits`). Such a run can be cut, which keeps its addresses and their order
(`PageCache.exists_rest`), and taking a run out of the middle of a list and putting the last one in
its place keeps all others (`PageCache.perm_cons_swapRemove`).
-/

namespace MemorySentry

open scoped List

variable {page : UInt64}

namespace PageRun

/-- A run ends within the address space. -/
def Fits (page : UInt64) (r : PageRun) : Prop :=
  r.start.toNat + r.pages.toNat * page.toNat ≤ UInt64.size

instance (r : PageRun) : Decidable (r.Fits page) :=
  inferInstanceAs (Decidable (_ ≤ _))

/-- The addresses of the pages of a run. -/
def addresses (page : UInt64) (r : PageRun) : List Address :=
  (List.range r.pages.toNat).map fun i => r.start + UInt64.ofNat i * page

/-- A run has as many addresses as pages. -/
theorem length_addresses (r : PageRun) : (r.addresses page).length = r.pages.toNat := by
  simp [addresses]

/-- A run with a page starts with one. -/
theorem start_mem_addresses {r : PageRun} (h : 0 < r.pages.toNat) : r.start ∈ r.addresses page :=
  List.mem_map.mpr ⟨0, List.mem_range.mpr h, by simp⟩

/-- The pages of a run that fits lie one behind another. -/
theorem Fits.toNat_address (hpage : Page.IsSize page) {r : PageRun} (h : r.Fits page) {i : Nat}
    (hi : i < r.pages.toNat) :
    (r.start + UInt64.ofNat i * page).toNat = r.start.toNat + i * page.toNat := by
  have hpos := hpage.pos
  have hle : (i + 1) * page.toNat ≤ r.pages.toNat * page.toNat := Nat.mul_le_mul_right _ hi
  have hi' : (UInt64.ofNat i).toNat = i :=
    UInt64.toNat_ofNat_of_lt' (Nat.lt_trans hi r.pages.toNat_lt_size)
  rw [Nat.succ_mul] at hle
  unfold Fits at h
  have hoffset : (UInt64.ofNat i * page).toNat = i * page.toNat := by
    rw [Word.toNat_mul_of_lt (by rw [hi']; omega), hi']
  rw [Word.toNat_add_of_lt (by rw [hoffset]; omega), hoffset]

/-- All pages of a run lie at multiples of the size of a page if the first one does. -/
theorem aligned_of_mem_addresses {r : PageRun} (hpage : Page.IsSize page)
    (h : r.start % page = 0) {a : Address} (ha : a ∈ r.addresses page) : a % page = 0 := by
  obtain ⟨i, -, rfl⟩ := List.mem_map.mp ha
  have hstart : page.toNat ∣ r.start.toNat := by
    have hmod := congrArg UInt64.toNat h
    rw [UInt64.toNat_mod] at hmod
    exact Nat.dvd_of_mod_eq_zero hmod
  -- the size of a page divides that of the address space, so going round it keeps multiples
  have hmod : ∀ {n : Nat}, page.toNat ∣ n → page.toNat ∣ n % 2 ^ 64 := fun hn =>
    (Nat.dvd_mod_iff hpage.dvd).mpr hn
  apply UInt64.toNat_inj.mp
  rw [UInt64.toNat_mod, UInt64.toNat_add, UInt64.toNat_mul]
  exact Nat.mod_eq_zero_of_dvd (hmod (Nat.dvd_add hstart (hmod (Nat.dvd_mul_left ..))))

/-- No page is twice in a run that fits. -/
theorem Fits.nodup_addresses (hpage : Page.IsSize page) {r : PageRun} (h : r.Fits page) :
    (r.addresses page).Nodup := by
  refine List.Nodup.map_on (fun i hi j hj hij => ?_) List.nodup_range
  have heq := congrArg UInt64.toNat hij
  rw [h.toNat_address hpage (List.mem_range.mp hi), h.toNat_address hpage (List.mem_range.mp hj)]
    at heq
  exact Nat.eq_of_mul_eq_mul_right hpage.pos (Nat.add_left_cancel heq)

/-- No page of a run that fits lies before the first one. -/
theorem Fits.start_le_of_mem (hpage : Page.IsSize page) {r : PageRun} (h : r.Fits page)
    {a : Address} (ha : a ∈ r.addresses page) : r.start ≤ a := by
  obtain ⟨i, hi, rfl⟩ := List.mem_map.mp ha
  rw [UInt64.le_iff_toNat_le, h.toNat_address hpage (List.mem_range.mp hi)]
  exact Nat.le_add_right ..

end PageRun

namespace PageCache

/-- Nothing is left of a run that is used up. -/
theorem rest_of_le {r : PageRun} {n : UInt64} (h : r.pages ≤ n) : rest page r n = .ok [] :=
  if_neg (UInt64.not_lt.mpr h)

/-- What is left of a run starts after the pages that are cut off. -/
theorem rest_of_lt (hpage : Page.IsSize page) {r : PageRun} {n : UInt64} (hfits : r.Fits page)
    (h : n < r.pages) :
    rest page r n = .ok [⟨r.start + n * page, r.pages - n⟩] := by
  have hlt : n.toNat < r.pages.toNat := UInt64.lt_iff_toNat_lt.mp h
  have hstart := hfits.toNat_address hpage hlt
  rw [UInt64.ofNat_toNat] at hstart
  -- the pages that are cut off lie within the run, so their bytes fit in a word
  have hbytes : (n * page).toNat = n.toNat * page.toNat := by
    have hle := Nat.mul_le_mul_right page.toNat (Nat.succ_le_of_lt hlt)
    have hpos := hpage.pos
    rw [Nat.succ_mul] at hle
    unfold PageRun.Fits at hfits
    exact Word.toNat_mul_of_lt (by omega)
  have hproduct : Word.product n page = .ok (n * page) := Word.product_eq_ok_iff.mpr hbytes
  have hsum : Word.sum r.start (n * page) = .ok (r.start + n * page) :=
    Word.sum_eq_ok_iff.mpr (hbytes ▸ hstart)
  unfold rest
  rw [if_pos h, hproduct]
  show (Word.sum r.start (n * page)).bind _ = _
  rw [hsum]
  rfl

/-- A run that fits can be cut without a number that does not fit in a word. Its pages and their
order stay the same, and what is left of it fits, has pages and does not start at the null
address. -/
theorem exists_rest (hpage : Page.IsSize page) {r : PageRun} {n : UInt64} (hfits : r.Fits page)
    (hn : n ≠ 0) (h : n ≤ r.pages) :
    ∃ left, rest page r n = .ok left ∧
      r.addresses page =
        PageRun.addresses page ⟨r.start, n⟩ ++ left.flatMap (PageRun.addresses page) ∧
      ∀ r' ∈ left, r'.Fits page ∧ r'.pages ≠ 0 ∧ r'.start ≠ 0 := by
  have hle : n.toNat ≤ r.pages.toNat := UInt64.le_iff_toNat_le.mp h
  have hpages : (r.pages - n).toNat = r.pages.toNat - n.toNat := UInt64.toNat_sub_of_le _ _ h
  rcases UInt64.lt_or_eq_of_le h with hlt | rfl
  · have hlt' : n.toNat < r.pages.toNat := UInt64.lt_iff_toNat_lt.mp hlt
    have hpos : 0 < n.toNat * page.toNat :=
      Nat.mul_pos (Nat.pos_of_ne_zero fun h0 => hn (UInt64.toNat_inj.mp h0)) hpage.pos
    have hstart := hfits.toNat_address hpage hlt'
    rw [UInt64.ofNat_toNat] at hstart
    refine ⟨_, rest_of_lt hpage hfits hlt, ?_, fun r' hr' => ?_⟩
    · -- the pages after the first `n`, counted from the first page and from the cut
      have htail : ∀ i, r.start + UInt64.ofNat (n.toNat + i) * page =
          r.start + n * page + UInt64.ofNat i * page := fun i => by
        rw [UInt64.ofNat_add, UInt64.ofNat_toNat, UInt64.add_mul, UInt64.add_assoc]
      simp only [PageRun.addresses, List.flatMap_cons, List.flatMap_nil, List.append_nil, hpages]
      conv_lhs => rw [← Nat.add_sub_of_le hle, List.range_add, List.map_append, List.map_map]
      exact congrArg _ (List.map_congr_left fun i _ => htail i)
    · cases List.mem_singleton.mp hr'
      refine ⟨?_, fun hzero => ?_, fun hzero => ?_⟩
      · unfold PageRun.Fits at hfits ⊢
        have hsplit : n.toNat * page.toNat + (r.pages.toNat - n.toNat) * page.toNat =
            r.pages.toNat * page.toNat := by
          rw [← Nat.add_mul, Nat.add_sub_of_le hle]
        simp only [hstart, hpages]
        omega
      · have hzero' := congrArg UInt64.toNat hzero
        simp only [hpages, UInt64.toNat_zero] at hzero'
        omega
      · have hzero' := congrArg UInt64.toNat hzero
        simp only [hstart, UInt64.toNat_zero] at hzero'
        omega
  · exact ⟨[], rest_of_le (UInt64.le_refl _), by simp, fun r' hr' => by cases hr'⟩

/-- A run that is taken out of a list leaves all others. -/
theorem perm_cons_swapRemove {l : List PageRun} {i : Nat} {r : PageRun} (h : l[i]? = some r) :
    l.Perm (r :: swapRemove l i) := by
  obtain ⟨hi, rfl⟩ := List.getElem?_eq_some_iff.mp h
  obtain ⟨front, last, rfl⟩ : ∃ front last, l = front ++ [last] :=
    ⟨l.dropLast, l.getLast (List.ne_nil_of_length_pos (Nat.zero_lt_of_lt hi)),
      (List.dropLast_append_getLast _).symm⟩
  have hlast : swapRemove (front ++ [last]) i = ((front ++ [last]).set i last).dropLast := by
    simp [swapRemove]
  rw [hlast]
  by_cases hfront : i < front.length
  · -- the last run replaces one of those before it
    rw [List.set_append_left _ _ hfront, List.dropLast_concat, List.getElem_append_left hfront]
    calc front ++ [last]
      _ ~ last :: front := List.perm_append_singleton last front
      _ ~ last :: front[i] :: front.eraseIdx i :=
        ((List.getElem_cons_eraseIdx_perm hfront).symm).cons last
      _ ~ front[i] :: last :: front.eraseIdx i := .swap ..
      _ ~ front[i] :: front.set i last := (List.set_perm_cons_eraseIdx hfront last).symm.cons _
  · have hend : i = front.length := by
      rw [List.length_append, List.length_singleton] at hi
      omega
    subst hend
    simp [List.perm_append_singleton]

end PageCache

end MemorySentry
