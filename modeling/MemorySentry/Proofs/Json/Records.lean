import MemorySentry.Proofs.Json.Fields
import MemorySentry.Proofs.Results

/-!
# What records read

A record makes something of an object exactly if each of its parts does (`build_seq_eq_ok_iff`), and
a part reads its own key and no other. What can be made of fields whose keys are all different is
what an object with these fields means (`Thorough.ofFields_eq_ok`).
-/

namespace MemorySentry.Json

namespace Record

section

variable {α β : Type} {written : List (String × Json)}

/-- Two parts are read exactly if both of them are. -/
theorem build_seq_eq_ok_iff {f : Record (α → β)} {x : Record α} {b : β} :
    (f <*> x).build written = .ok b ↔
      ∃ g, f.build written = .ok g ∧ ∃ a, x.build written = .ok a ∧ g a = b := by
  have hbuild : (f <*> x).build written =
      f.build written >>= fun g => x.build written >>= fun a => .ok (g a) := rfl
  simp only [hbuild, bind_eq_ok_iff, Except.ok.injEq]

/-- A part is read and then changed exactly if it is read. -/
theorem build_map_eq_ok_iff {f : α → β} {x : Record α} {b : β} :
    (f <$> x).build written = .ok b ↔ ∃ a, x.build written = .ok a ∧ f a = b := by
  have hmap : f <$> x = (pure f : Record (α → β)) <*> x := rfl
  have hpure : (pure f : Record (α → β)).build written = .ok f := rfl
  simp only [hmap, build_seq_eq_ok_iff, hpure, Except.ok.injEq, exists_eq_left']

/-- Parts are read in their order, and what they give is put together at the end. -/
theorem exists_build_seq_iff {f : Record (α → β)} {x : Record α} {p : β → Prop} :
    (∃ b, (f <*> x).build written = .ok b ∧ p b) ↔
      ∃ g, f.build written = .ok g ∧ ∃ a, x.build written = .ok a ∧ p (g a) := by
  simp only [build_seq_eq_ok_iff]
  constructor
  · rintro ⟨_, ⟨g, hg, a, ha, rfl⟩, h⟩
    exact ⟨g, hg, a, ha, h⟩
  · rintro ⟨g, hg, a, ha, h⟩
    exact ⟨_, ⟨g, hg, a, ha, rfl⟩, h⟩

theorem exists_build_map_iff {f : α → β} {x : Record α} {p : β → Prop} :
    (∃ b, (f <$> x).build written = .ok b ∧ p b) ↔ ∃ a, x.build written = .ok a ∧ p (f a) := by
  simp only [build_map_eq_ok_iff, exists_exists_and_eq_and]

/-- A required field is read exactly if it is there with a value that fits. -/
theorem build_required_eq_ok_iff {key : String} {decode : Json → Except Mismatch α} {a : α} :
    (required key decode).build written = .ok a ↔
      ∃ v, find? key written = some v ∧ decode v = .ok a := by
  simp only [required]
  cases find? key written <;> simp

/-- A field with a default is read exactly if its value fits or it is absent, which gives the
default. -/
theorem build_orElse_eq_ok_iff {key : String} {decode : Json → Except Mismatch α} {absent a : α} :
    (orElse key decode absent).build written = .ok a ↔
      (∃ v, find? key written = some v ∧ decode v = .ok a) ∨
        find? key written = none ∧ a = absent := by
  simp only [orElse]
  cases find? key written <;> simp [eq_comm]

/-- Fields of which no two have the same key pass if each known one has a value that fits. -/
theorem checkWritten_eq_ok {known : List Field} {seen : List String}
    (hkeys : (written.map Prod.fst).Nodup) (hseen : ∀ key ∈ written.map Prod.fst, key ∉ seen)
    (hfit : ∀ f ∈ written, ∀ k ∈ known, k.key = f.1 → k.check f.2 = .ok ()) :
    checkWritten known seen written = .ok () := by
  -- no key that has been seen comes again, whether it is a known one or not
  induction written generalizing seen with
  | nil => rfl
  | cons f rest ih =>
    obtain ⟨key, v⟩ := f
    rw [List.map_cons, List.nodup_cons] at hkeys
    rw [List.map_cons] at hseen
    have hrest : ∀ seen', (∀ k ∈ rest.map Prod.fst, k ∉ seen') →
        checkWritten known seen' rest = .ok () :=
      fun seen' hseen' => ih hkeys.2 hseen' fun f hf => hfit f (List.mem_cons_of_mem _ hf)
    rw [checkWritten]
    split
    · exact hrest seen fun k hk => hseen k (List.mem_cons_of_mem _ hk)
    · next k hfound =>
      have hcheck := hfit (key, v) List.mem_cons_self k (List.mem_of_find?_eq_some hfound)
        (by simpa using List.find?_some hfound)
      rw [if_neg (hseen key List.mem_cons_self), hcheck]
      refine hrest (key :: seen) fun k' hk' hmem => ?_
      rcases List.mem_cons.mp hmem with rfl | hmem
      · exact hkeys.1 hk'
      · exact hseen k' (List.mem_cons_of_mem _ hk') hmem

/-- Fields that pass the check are put together as they would be without it. -/
theorem build_of_ofFields {r : Record α} {a : α} (h : r.ofFields written = .ok a) :
    r.build written = .ok a := by
  obtain ⟨-, -, hbuild⟩ := bind_eq_ok_iff.mp h
  exact hbuild

end

/-! ### Records that look at all their fields -/

/-- A record makes nothing of fields with a value that does not fit. -/
structure Thorough {α : Type} (r : Record α) : Prop where
  check_eq_ok : ∀ {written a}, r.build written = .ok a →
    ∀ k ∈ r.fields, ∀ v, find? k.key written = some v → k.check v = .ok ()

section

variable {α β : Type}

theorem thorough_required (key : String) (decode : Json → Except Mismatch α) :
    (required key decode).Thorough where
  check_eq_ok {written a} h k hk v hv := by
    cases List.mem_singleton.mp hk
    obtain ⟨v', hv', hdecode⟩ := build_required_eq_ok_iff.mp h
    cases hv'.symm.trans hv
    exact bind_eq_ok_iff.mpr ⟨a, hdecode, rfl⟩

theorem thorough_orElse (key : String) (decode : Json → Except Mismatch α) (absent : α) :
    (orElse key decode absent).Thorough where
  check_eq_ok {written a} h k hk v hv := by
    cases List.mem_singleton.mp hk
    rcases build_orElse_eq_ok_iff.mp h with ⟨v', hv', hdecode⟩ | ⟨hnone, -⟩
    · cases hv'.symm.trans hv
      exact bind_eq_ok_iff.mpr ⟨a, hdecode, rfl⟩
    · cases hnone.symm.trans hv

theorem Thorough.seq {f : Record (α → β)} {x : Record α} (hf : f.Thorough) (hx : x.Thorough) :
    (f <*> x).Thorough where
  check_eq_ok h k hk v hv := by
    obtain ⟨g, hg, a, ha, -⟩ := build_seq_eq_ok_iff.mp h
    exact (List.mem_append.mp hk).elim (fun hk => hf.check_eq_ok hg k hk v hv) fun hk =>
      hx.check_eq_ok ha k hk v hv

theorem Thorough.map {x : Record α} (hx : x.Thorough) (f : α → β) : (f <$> x).Thorough where
  check_eq_ok h k hk v hv := by
    obtain ⟨a, ha, -⟩ := build_map_eq_ok_iff.mp h
    exact hx.check_eq_ok ha k hk v hv

/-- If no two fields have the same key, what is made of them is what the fields of an object
mean. -/
theorem Thorough.ofFields_eq_ok {r : Record α} (hr : r.Thorough) {written : List (String × Json)}
    (hkeys : (written.map Prod.fst).Nodup) {a : α} (h : r.build written = .ok a) :
    r.ofFields written = .ok a := by
  have hchecked : checkWritten r.fields [] written = .ok () :=
    checkWritten_eq_ok hkeys (fun _ _ => List.not_mem_nil) fun f hf k hk heq =>
      hr.check_eq_ok h k hk f.2 (heq ▸ find?_eq_some_of_mem hkeys hf)
  exact bind_eq_ok_iff.mpr ⟨(), hchecked, h⟩

end

end Record

end MemorySentry.Json
