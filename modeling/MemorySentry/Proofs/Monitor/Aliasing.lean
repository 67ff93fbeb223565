import MemorySentry.Proofs.Monitor.Views

/-!
# Addresses in second views

A second view shows bytes at other addresses, at the same places of its pages (`Shadow.Shows`). As
long as a monitor has the view it leads from there back to the bytes, and it gives up the view once
(`HasView`, `LacksView`). `performAll_shadow` says when it has the view: from when the view is made
until an address on its first page is named to revoke it, whatever else is done.

Pages may have any size. Views lie within the address space, as do the pages that they show, so no
number on the way back is too large for a word.
-/

namespace MemorySentry

variable {page : UInt64}

/-! ### The bytes of a view -/

namespace Shadow

/-- An address belongs to a view. -/
def Holds (page : UInt64) (v : Shadow) (x : Address) : Prop :=
  v.base.toNat ≤ x.toNat ∧ x.toNat < v.stop page

instance (v : Shadow) (x : Address) : Decidable (v.Holds page x) :=
  inferInstanceAs (Decidable (_ ∧ _))

/-- A view of as few pages as hold `length` bytes from `a` on shows the first of them at `s`. -/
structure Shows (page : UInt64) (v : Shadow) (a : Address) (length : ByteCount) (s : Address) :
    Prop where
  offset : s % page = a % page
  base : Page.base page s = v.base
  canonical : v.canonical = Page.base page a
  least : IsLeast {n | a.toNat + length.toNat ≤ v.canonical.toNat + n * page.toNat} v.pages.toNat
  /-- All bytes are shown in their order. -/
  bytes : ∀ k < length.toNat, v.Holds page (s + UInt64.ofNat k) ∧
    v.canonical + (s + UInt64.ofNat k - v.base) = a + UInt64.ofNat k

end Shadow

namespace Monitor

/-- A view tells the first address of each of its bytes, and of no others. -/
theorem Shadow.canonicalOf_eq {v : Shadow} (hstop : v.stop page < UInt64.size)
    (hpages : v.canonical.toNat + v.pages.toNat * page.toNat ≤ UInt64.size) (x : Address) :
    Shadow.canonicalOf page v x =
      .ok (if v.Holds page x then some (v.canonical + (x - v.base)) else none) := by
  have hbytes : (v.pages * page).toNat = v.pages.toNat * page.toNat :=
    Word.toNat_mul_of_lt (Nat.lt_of_le_of_lt (Nat.le_add_left _ _) hstop)
  have hproduct : Word.product v.pages page = .ok (v.pages * page) :=
    Word.product_eq_ok_iff.mpr hbytes
  have hholds : ∀ {span : Span}, Span.ofLength v.base (v.pages * page) = .ok span →
      (span.contains x = true ↔ v.Holds page x) := fun hspan => by
    obtain ⟨hstart, hend⟩ := Span.ofLength_eq_ok_iff.mp hspan
    rw [hbytes] at hend
    rw [Span.contains_iff, hstart, UInt64.le_iff_toNat_le, UInt64.lt_iff_toNat_lt, hend]
    rfl
  unfold Shadow.canonicalOf
  simp only [hproduct, bind, Except.bind]
  by_cases hx : v.Holds page x
  · -- a view that holds an address has pages, so they are a span
    have hend : (UInt64.ofNat (v.stop page)).toNat = v.stop page := UInt64.toNat_ofNat_of_lt' hstop
    obtain ⟨hle, hlt⟩ := hx
    let span : Span := ⟨v.base, UInt64.ofNat (v.stop page), UInt64.lt_iff_toNat_lt.mpr (by omega)⟩
    have hspan : Span.ofLength v.base (v.pages * page) = .ok span :=
      Span.ofLength_eq_ok_iff.mpr ⟨rfl, by rw [hbytes]; exact hend⟩
    have hoffset : (x - v.base).toNat = x.toNat - v.base.toNat :=
      UInt64.toNat_sub_of_le _ _ (UInt64.le_iff_toNat_le.mpr hle)
    have hsum : Word.sum v.canonical (x - v.base) = .ok (v.canonical + (x - v.base)) := by
      unfold Shadow.stop at hlt
      exact Word.sum_eq_ok_iff.mpr (Word.toNat_add_of_lt (by omega))
    simp only [hspan, (hholds hspan).mpr ⟨hle, hlt⟩, if_true, hsum]
    rw [if_pos ⟨hle, hlt⟩]
    rfl
  · rcases hspan : Span.ofLength v.base (v.pages * page) with e | span
    · rw [if_neg hx]
      rfl
    · have hnot : span.contains x = false := Bool.eq_false_iff.mpr (mt (hholds hspan).mp hx)
      simp only [hnot, if_neg hx]
      rfl

/-- A search through views of which each gives an answer is one through their answers. -/
theorem findSomeM?_eq_ok {α β ε : Type} {f : α → Except ε (Option β)} {g : α → Option β}
    {l : List α} (h : ∀ a ∈ l, f a = .ok (g a)) : l.findSomeM? f = .ok (l.findSome? g) := by
  induction l with
  | nil => rfl
  | cons a rest ih =>
    rw [List.findSomeM?, h a List.mem_cons_self, List.findSome?_cons]
    have hrest := ih fun b hb => h b (List.mem_cons_of_mem a hb)
    cases g a with
    | none => exact hrest
    | some b => rfl

/-- A view that the operating system places as it should shows the bytes. -/
theorem Command.shows_of_view? (hpage : Page.IsSize page)
    {remap : Page.Request → Except Errno Address} {a s : Address} {length : ByteCount} {v : Shadow}
    (h : (Command.shadow remap a length).view? page = some v) (haligned : v.base % page = 0)
    (hstop : v.stop page < UInt64.size) (hs : Word.sum v.base (a - v.canonical) = .ok s) :
    v.Shows page a length s := by
  have hpages : pagesOf page a length = .ok (v.canonical, v.pages) := (pagesOf_of_view? h).2
  obtain ⟨hlength, -, hcanonical, -⟩ := of_pagesOf_eq_ok hpage hpages
  have hleast := isLeast_pagesOf hpage hpages
  have hpos : 0 < length.toNat :=
    Nat.pos_of_ne_zero fun hzero => hlength (UInt64.toNat_inj.mp hzero)
  have hbase : v.base.toNat % page.toNat = 0 := by
    have hmod := congrArg UInt64.toNat haligned
    rwa [UInt64.toNat_mod] at hmod
  -- the bytes, counted from the first address of their pages
  have hfit : a.toNat % page.toNat + length.toNat ≤ v.pages.toNat * page.toNat := by
    have hle : a.toNat + length.toNat ≤ v.canonical.toNat + v.pages.toNat * page.toNat := hleast.1
    rw [hcanonical, hpage.toNat_base] at hle
    have hmod := Nat.mod_le a.toNat page.toNat
    omega
  have hs' : s.toNat = v.base.toNat + a.toNat % page.toNat := by
    rw [Word.sum_eq_ok_iff.mp hs, hcanonical, hpage.toNat_sub_base]
  have hword : s = v.base + (a - v.canonical) := by
    apply UInt64.toNat_inj.mp
    rw [Word.toNat_add_of_lt (Word.sum_eq_ok_iff.mp hs ▸ s.toNat_lt_size),
      Word.sum_eq_ok_iff.mp hs]
  -- a view starts with a page, so places in its pages stay the same
  have hplace : s.toNat % page.toNat = a.toNat % page.toNat := by
    rw [hs', Nat.add_mod, hbase, Nat.zero_add, Nat.mod_mod, Nat.mod_mod]
  refine
    { offset := ?_
      base := ?_
      canonical := hcanonical
      least := hleast
      bytes := fun k hk => ⟨?_, ?_⟩ }
  · apply UInt64.toNat_inj.mp
    rw [UInt64.toNat_mod, UInt64.toNat_mod, hplace]
  · apply UInt64.toNat_inj.mp
    rw [hpage.toNat_base, hplace]
    omega
  · have hk' : (UInt64.ofNat k).toNat = k :=
      UInt64.toNat_ofNat_of_lt' (hk.trans length.toNat_lt_size)
    have hlt : v.base.toNat + a.toNat % page.toNat + k < v.stop page := by
      unfold Shadow.stop
      omega
    have hsum : (s + UInt64.ofNat k).toNat = v.base.toNat + a.toNat % page.toNat + k := by
      rw [Word.toNat_add_of_lt (by rw [hs', hk']; omega), hs', hk']
    unfold Shadow.Holds
    omega
  · -- what is added to both addresses and taken off them again makes no difference
    rw [hword]
    grind

/-! ### Monitors and a view -/

/-- A monitor that has a view leads from its addresses to the bytes that it shows, and gives it up
for any address on its first page, if the operating system agrees to protect it. -/
structure HasView (m : Monitor) (v : Shadow) : Prop where
  canonicalOf : ∀ x, v.Holds m.pageSize x →
    m.canonicalOf x = .ok (some (v.canonical + (x - v.base)))
  unshadow : ∀ protect x, Page.base m.pageSize x = v.base →
    (∀ request, Page.request m.pageSize .protect v.base v.pages = .ok request →
      protect request = .ok ()) →
      (m.unshadow protect x).1 = .ok (some v)

/-- A monitor that lacks a view knows nothing of its addresses. -/
structure LacksView (m : Monitor) (v : Shadow) : Prop where
  canonicalOf : ∀ x, v.Holds m.pageSize x → m.canonicalOf x = .ok none
  unshadow : ∀ protect x, Page.base m.pageSize x = v.base → m.unshadow protect x = (.ok none, m)

section

variable {m : Monitor} {cs : List Command} {v : Shadow} (hpage : Page.IsSize m.pageSize)
  (hapart : ViewsApart m.pageSize (viewsIn m.pageSize cs))
  (hsubset : m.shadows ⊆ viewsIn m.pageSize cs)

include hpage hapart hsubset

/-- The address of a byte is looked for in one view after another. -/
theorem canonicalOf_eq (x : Address) :
    m.canonicalOf x = .ok (m.shadows.findSome? fun w =>
      if w.Holds m.pageSize x then some (w.canonical + (x - w.base)) else none) :=
  findSomeM?_eq_ok fun w hw => Shadow.canonicalOf_eq (hapart.stop_lt w (hsubset hw))
    (canonical_le_of_mem_viewsIn hpage (hsubset hw)) x

/-- Only the view on whose first page an address lies is revoked for it. -/
theorem eq_of_base (hv : v ∈ viewsIn m.pageSize cs) {x : Address}
    (hx : Page.base m.pageSize x = v.base) {w : Shadow} (hw : w ∈ m.shadows)
    (hbase : (w.base == Page.base m.pageSize x) = true) : w = v :=
  hapart.eq_of_base_eq hpage (hsubset hw) hv (pages_pos_of_mem_viewsIn (hsubset hw))
    (pages_pos_of_mem_viewsIn hv) ((beq_iff_eq.mp hbase).trans hx)

/-- A view that is kept is one that the monitor has. -/
theorem hasView_of_mem (hv : v ∈ m.shadows) : m.HasView v where
  canonicalOf x hx := by
    rw [canonicalOf_eq hpage hapart hsubset]
    -- some view holds the address, and it can be no other
    rcases hfind : m.shadows.findSome? fun w =>
      if w.Holds m.pageSize x then some (w.canonical + (x - w.base)) else none with _ | c
    · have hnone := List.findSome?_eq_none_iff.mp hfind v hv
      rw [if_pos hx] at hnone
      cases hnone
    · obtain ⟨w, hw, hc⟩ := List.exists_of_findSome?_eq_some hfind
      split at hc
      · next hwx =>
        cases hapart.eq_of_contains (hsubset hw) (hsubset hv) hwx hx
        exact congrArg Except.ok (hfind.trans hc.symm)
      · cases hc
  unshadow protect x hx hprotect := by
    unfold Monitor.unshadow
    split
    · next hnone => exact absurd (beq_iff_eq.mpr hx.symm) (List.find?_eq_none.mp hnone v hv)
    · next w hsome =>
      cases eq_of_base hpage hapart hsubset (hsubset hv) hx (List.mem_of_find?_eq_some hsome)
        (List.find?_some (p := fun w : Shadow => w.base == Page.base m.pageSize x) hsome)
      have hpos := pages_pos_of_mem_viewsIn (hsubset hv)
      have hbytes : v.pages.toNat * m.pageSize.toNat < UInt64.size :=
        Nat.lt_of_le_of_lt (Nat.le_add_left _ _) (hapart.stop_lt v (hsubset hv))
      obtain ⟨request, hrequest⟩ :
          ∃ request, Page.request m.pageSize .protect v.base v.pages = .ok request :=
        Page.request_bytes.2.1.mpr ⟨fun hzero => absurd hpos (by rw [hzero]; decide), hbytes⟩
      simp only [hrequest, Page.answer, hprotect request hrequest]

/-- A view that is not kept any more is one that it lacks. -/
theorem lacksView_of_not_mem (hv : v ∈ viewsIn m.pageSize cs) (hnot : v ∉ m.shadows) :
    m.LacksView v where
  canonicalOf x hx := by
    rw [canonicalOf_eq hpage hapart hsubset, List.findSome?_eq_none_iff.mpr]
    intro w hw
    refine if_neg fun hwx => hnot ?_
    exact hapart.eq_of_contains (hsubset hw) hv hwx hx ▸ hw
  unshadow protect x hx := by
    have hnone : (m.shadows.find? fun w => w.base == Page.base m.pageSize x) = none := by
      rw [List.find?_eq_none]
      intro w hw hbase
      exact hnot (eq_of_base hpage hapart hsubset hv hx hw hbase ▸ hw)
    unfold Monitor.unshadow
    rw [hnone]

end

/-- A view is there after a run if it has not been revoked since it was granted. -/
theorem mem_shadows_iff_of_view? (settings : Settings) (sink : Sink) (hpage : Page.IsSize page)
    {before after : List Command} {c : Command} {v : Shadow}
    (hapart : ViewsApart page (viewsIn page (before ++ c :: after)))
    (hview : c.view? page = some v) :
    v ∈ ((start settings sink page).performAll (before ++ c :: after)).2.shadows ↔
      ∀ c' ∈ after, ¬ c'.Revokes page v := by
  have hsplit : before ++ c :: after = (before ++ [c]) ++ after := by simp
  have hgranted : v ∈ viewsIn page (before ++ [c]) :=
    List.mem_filterMap.mpr ⟨c, by simp, hview⟩
  have honce : ∀ c' ∈ after, ¬ c'.view? page = some v := fun c' hc' hview' => by
    rw [hsplit, viewsIn_append] at hapart
    have hagain : v ∈ viewsIn page after := List.mem_filterMap.mpr ⟨c', hc', hview'⟩
    have hpages := Command.pages_pos_of_view? hview
    -- a view does not lie apart from itself
    have hself := (List.pairwise_append.mp hapart.disjoint).2.2 v hgranted v hagain
    exact hself.base_ne hpage hpages hpages rfl
  rw [mem_shadows_performAll_iff settings sink hpage hapart, hsplit, since_append_iff honce]
  exact and_iff_right (since_concat.mpr (.inl hview))

/-- Only views that were granted are kept. -/
theorem shadows_performAll_subset (settings : Settings) (sink : Sink) (hpage : Page.IsSize page)
    {cs : List Command} (hapart : ViewsApart page (viewsIn page cs)) :
    ((start settings sink page).performAll cs).2.shadows ⊆ viewsIn page cs := fun v hv => by
  obtain ⟨c, hc, hview⟩ :=
    ((mem_shadows_performAll_iff settings sink hpage hapart).mp hv).exists_mem
  exact List.mem_filterMap.mpr ⟨c, hc, hview⟩

/-- A second view that is made in a run shows the bytes at the address that is returned, in as few
pages as can be, however large pages are. Until an address on its first page is named to revoke it
the monitor has the view, whatever else is done, and afterwards it lacks it. It does not matter in
which order the views are kept. -/
theorem performAll_shadow (settings : Settings) (sink : Sink) {page : UInt64}
    (hpage : Page.IsSize page) (before after : List Command)
    {remap : Page.Request → Except Errno Address} {a s : Address} {length : ByteCount}
    (hapart : ViewsApart page (viewsIn page (before ++ .shadow remap a length :: after)))
    (hs : (((start settings sink page).performAll before).2.perform (.shadow remap a length)).1 =
      .shadow (.ok s)) :
    ∃ v : Shadow, (Command.shadow remap a length).view? page = some v ∧
      v.Shows page a length s ∧
      ∀ m : Monitor, m.pageSize = page →
        m.shadows.Perm ((start settings sink page).performAll
          (before ++ .shadow remap a length :: after)).2.shadows →
        ((∀ c ∈ after, ¬ c.Revokes page v) → m.HasView v ∧
          ∀ k < length.toNat,
            m.canonicalOf (s + UInt64.ofNat k) = .ok (some (a + UInt64.ofNat k))) ∧
        ((∃ c ∈ after, c.Revokes page v) → m.LacksView v) := by
  obtain ⟨v, hview, hsum⟩ := (perform_shadow_eq_ok_iff ..).mp hs
  rw [performAll_pageSize, start] at hview
  have hgranted : v ∈ viewsIn page (before ++ .shadow remap a length :: after) :=
    List.mem_filterMap.mpr ⟨_, by simp, hview⟩
  have hshows := Command.shows_of_view? hpage hview (hapart.aligned v hgranted)
    (hapart.stop_lt v hgranted) hsum
  refine ⟨v, hview, hshows, fun m hsize hperm => ?_⟩
  have hmem := mem_shadows_iff_of_view? settings sink hpage hapart hview
  rw [← hperm.mem_iff] at hmem
  have hsubset : m.shadows ⊆ viewsIn page (before ++ .shadow remap a length :: after) :=
    List.Subset.trans hperm.subset (shadows_performAll_subset settings sink hpage hapart)
  subst hsize
  refine ⟨fun hkept => ?_, fun ⟨c, hc, hrevokes⟩ => ?_⟩
  · -- nothing revoked the view, and no other one has its addresses
    have hhas : m.HasView v := hasView_of_mem hpage hapart hsubset (hmem.mpr hkept)
    refine ⟨hhas, fun k hk => ?_⟩
    obtain ⟨hholds, hbyte⟩ := hshows.bytes k hk
    rw [hhas.canonicalOf _ hholds, hbyte]
  · exact lacksView_of_not_mem hpage hapart hsubset hgranted fun hv => hmem.mp hv c hc hrevokes

/-- Pages have sixteen kibibytes. Of two views, the second of which has two pages, the first one is
revoked. -/
theorem performAll_shadow_two :
    let first : Shadow := ⟨0x200000000000, 0x7f0000000000, 1⟩
    let second : Shadow := ⟨0x200000004000, 0x7f0000014000, 2⟩
    let cs : List Command :=
      [.shadow (fun _ => .ok first.base) 0x200000000010 32,
        .shadow (fun _ => .ok second.base) 0x200000007ff8 16,
        .unshadow (fun _ => .ok ()) 0x7f0000000010]
    let m := ((start {} (.buffer 0) 0x4000).performAll cs).2
    Page.IsSize 0x4000 ∧ ViewsApart 0x4000 (viewsIn 0x4000 cs) ∧ m.LacksView first ∧
      second.Shows 0x4000 0x200000007ff8 16 0x7f0000017ff8 ∧ m.HasView second := by
  intro first second cs m
  have hpage : Page.IsSize 0x4000 := ⟨14, rfl⟩
  have hviews : viewsIn 0x4000 cs = [first, second] := by decide
  have hapart : ViewsApart 0x4000 (viewsIn 0x4000 cs) := by
    rw [hviews]
    exact ⟨by decide, by decide, by decide⟩
  have hfirst :
      (Command.shadow (fun _ => .ok first.base) 0x200000000010 32).view? 0x4000 = some first := by
    decide
  have hsecond :
      (Command.shadow (fun _ => .ok second.base) 0x200000007ff8 16).view? 0x4000 = some second := by
    decide
  have hs : Word.sum first.base (0x200000000010 - first.canonical) = .ok 0x7f0000000010 := by decide
  have hs' : Word.sum second.base (0x200000007ff8 - second.canonical) = .ok 0x7f0000017ff8 := by
    decide
  obtain ⟨v, hv, -, hlacks⟩ := performAll_shadow {} (.buffer 0) hpage [] (cs.drop 1) hapart
    ((perform_shadow_eq_ok_iff ..).mpr ⟨first, hfirst, hs⟩)
  obtain ⟨w, hw, hshows, hhas⟩ :=
    performAll_shadow {} (.buffer 0) hpage (cs.take 1) (cs.drop 2) hapart
      ((perform_shadow_eq_ok_iff ..).mpr ⟨second, hsecond, hs'⟩)
  cases hfirst.symm.trans hv
  cases hsecond.symm.trans hw
  have hsize : m.pageSize = 0x4000 := performAll_pageSize _ cs
  exact ⟨hpage, hapart, (hlacks m hsize (.refl _)).2 (by decide), hshows,
    ((hhas m hsize (.refl _)).1 (by decide)).1⟩

end Monitor

end MemorySentry
