import MemorySentry.Json.Record
import Mathlib.Data.String.Basic

/-!
# The fields of a normalized object

Sorting the fields of an object gives every key the last value that was written for it
(`find?_sortFields`). No key stands there twice, so among sorted fields it makes no difference
whether the first or the last value of a key is asked for (`get?_sortFields`).
-/

namespace MemorySentry.Json

open Record (find?)

section

variable {α : Type}

/-- The keys of fields are in ascending order, so none comes twice. -/
def Ascending (fields : List (String × α)) : Prop :=
  fields.Pairwise fun f f' => f.1 < f'.1

/-- The fields after an insertion are those before and the new one. -/
theorem mem_insertField {key : String} {value : α} {fields : List (String × α)} {f : String × α}
    (h : f ∈ insertField key value fields) : f = (key, value) ∨ f ∈ fields := by
  induction fields with
  | nil => exact .inl (List.mem_singleton.mp h)
  | cons first rest ih =>
    rw [insertField] at h
    split at h
    · exact List.mem_cons.mp h
    · split at h
      · rcases List.mem_cons.mp h with rfl | hmem
        · exact .inr List.mem_cons_self
        · exact (ih hmem).imp_right (List.mem_cons_of_mem first)
      · exact (List.mem_cons.mp h).imp_right (List.mem_cons_of_mem first)

/-- A field is inserted at its place in the order of keys. -/
theorem Ascending.insertField {fields : List (String × α)} (h : Ascending fields) (key : String)
    (value : α) : Ascending (insertField key value fields) := by
  induction fields with
  | nil => exact List.pairwise_singleton _ _
  | cons first rest ih =>
    obtain ⟨hfirst, hrest⟩ := List.pairwise_cons.mp h
    rw [Json.insertField]
    split
    · next hlt =>
      refine List.pairwise_cons.mpr ⟨fun f hf => ?_, h⟩
      rcases List.mem_cons.mp hf with rfl | hmem
      · exact hlt
      · exact hlt.trans (hfirst f hmem)
    · next hnlt =>
      split
      · next hgt =>
        refine List.pairwise_cons.mpr ⟨fun f hf => ?_, ih hrest⟩
        rcases mem_insertField hf with rfl | hmem
        · exact hgt
        · exact hfirst f hmem
      · next hngt =>
        -- neither key is before the other, so the new field takes the place of the first one
        have heq : first.1 = key := le_antisymm (not_lt.mp hnlt) (not_lt.mp hngt)
        exact List.pairwise_cons.mpr ⟨fun f hf => heq ▸ hfirst f hf, hrest⟩

/-- Sorted fields stand in the order of their keys. -/
theorem ascending_sortFields (fields : List (String × α)) : Ascending (sortFields fields) := by
  have hfold : ∀ acc : List (String × α), Ascending acc →
      Ascending (fields.foldl (fun acc f => insertField f.1 f.2 acc) acc) := by
    induction fields with
    | nil => exact fun acc h => h
    | cons f rest ih => exact fun acc h => ih _ (h.insertField f.1 f.2)
  exact hfold [] List.Pairwise.nil

/-- A field whose key is after all others goes to the end. -/
theorem insertField_of_lt {key : String} {value : α} {fields : List (String × α)}
    (h : ∀ f ∈ fields, f.1 < key) : insertField key value fields = fields ++ [(key, value)] := by
  induction fields with
  | nil => rfl
  | cons first rest ih =>
    obtain ⟨hfirst, hrest⟩ := List.forall_mem_cons.mp h
    rw [insertField, if_neg hfirst.not_gt, if_pos hfirst, ih hrest, List.cons_append]

/-- Fields that are sorted stay as they are. -/
theorem Ascending.sortFields_eq {fields : List (String × α)} (h : Ascending fields) :
    sortFields fields = fields := by
  -- each field goes to the end of those that were inserted before it
  have hfold : ∀ acc : List (String × α), Ascending (acc ++ fields) →
      fields.foldl (fun acc f => Json.insertField f.1 f.2 acc) acc = acc ++ fields := by
    clear h
    induction fields with
    | nil => exact fun acc _ => (List.append_nil acc).symm
    | cons f rest ih =>
      intro acc hacc
      obtain ⟨-, -, hlt⟩ := List.pairwise_append.mp hacc
      rw [List.foldl_cons, insertField_of_lt fun f' hf' => hlt f' hf' f List.mem_cons_self]
      have happend : acc ++ f :: rest = (acc ++ [f]) ++ rest := by simp
      rw [happend] at hacc ⊢
      exact ih _ hacc
  exact hfold [] h

/-- An object with sorted keys and normalized values is normalized. -/
theorem normalize_object {fields : List (String × Json)}
    (hkeys : (fields.map Prod.fst).Pairwise (· < ·)) (hvalues : normalizeFields fields = fields) :
    (Json.object fields).normalize = .object fields := by
  have hsorted : Ascending fields := List.pairwise_map.mp hkeys
  rw [normalize, hvalues, hsorted.sortFields_eq]

end

/-! ### Looking up a key -/

section

variable (key : String)

@[simp] theorem find?_nil : find? key [] = none := rfl

@[simp] theorem find?_cons (f : String × Json) (rest : List (String × Json)) :
    find? key (f :: rest) = if f.1 = key then some f.2 else find? key rest := by
  by_cases h : f.1 = key <;> simp [find?, h]

@[simp] theorem find?_append (fields more : List (String × Json)) :
    find? key (fields ++ more) = (find? key fields).or (find? key more) := by
  induction fields with
  | nil => rfl
  | cons f rest ih =>
    rw [List.cons_append, find?_cons, find?_cons, ih]
    split <;> rfl

/-- The last field of a key counts. -/
theorem get?_cons (f : String × Json) (rest : List (String × Json)) :
    get? key (f :: rest) = (get? key rest).or (if f.1 = key then some f.2 else none) := by
  have happend := find?_append key rest.reverse [f]
  rw [find?_cons, find?_nil] at happend
  rw [get?, List.reverse_cons]
  exact happend

theorem find?_insertField (key' : String) (value : Json) (fields : List (String × Json)) :
    find? key (insertField key' value fields) =
      if key' = key then some value else find? key fields := by
  induction fields with
  | nil => rw [insertField, find?_cons]
  | cons f rest ih =>
    rw [insertField]
    split
    · rw [find?_cons]
    · next hnlt =>
      split
      · next hlt =>
        rw [find?_cons, find?_cons, ih]
        by_cases h : f.1 = key
        · rw [if_pos h, if_pos h, if_neg (h ▸ hlt.ne')]
        · rw [if_neg h, if_neg h]
      · next hngt =>
        -- the field with the same key is replaced
        have heq : f.1 = key' := le_antisymm (not_lt.mp hnlt) (not_lt.mp hngt)
        rw [find?_cons, find?_cons, heq]
        split <;> rfl

/-- Among sorted fields a key has the last value that was written for it. -/
theorem find?_sortFields (fields : List (String × Json)) :
    find? key (sortFields fields) = get? key fields := by
  -- a value that is inserted later replaces an earlier one
  have hfold : ∀ acc : List (String × Json),
      find? key (fields.foldl (fun acc f => insertField f.1 f.2 acc) acc) =
        (get? key fields).or (find? key acc) := by
    induction fields with
    | nil => exact fun acc => rfl
    | cons f rest ih =>
      intro acc
      rw [List.foldl_cons, ih, find?_insertField, get?_cons]
      cases get? key rest with
      | some v => rfl
      | none => by_cases h : f.1 = key <;> simp [h]
  have hstart := hfold []
  rw [find?_nil, Option.or_none] at hstart
  exact hstart

/-- If no two fields have the same key, each is found under its own. -/
theorem find?_eq_some_of_mem {fields : List (String × Json)} (h : (fields.map Prod.fst).Nodup)
    {f : String × Json} (hf : f ∈ fields) : find? f.1 fields = some f.2 := by
  induction fields with
  | nil => cases hf
  | cons first rest ih =>
    rw [List.map_cons, List.nodup_cons] at h
    rw [find?_cons]
    rcases List.mem_cons.mp hf with rfl | hmem
    · exact if_pos rfl
    · have hne : first.1 ≠ f.1 := by
        intro heq
        exact h.1 (heq ▸ List.mem_map_of_mem hmem)
      rw [if_neg hne]
      exact ih h.2 hmem

theorem mem_of_find?_eq_some {fields : List (String × Json)} {v : Json}
    (h : find? key fields = some v) : (key, v) ∈ fields := by
  induction fields with
  | nil => cases h
  | cons f rest ih =>
    rw [find?_cons] at h
    split at h
    · next heq =>
      cases h
      exact heq ▸ List.mem_cons_self
    · exact List.mem_cons_of_mem f (ih h)

/-- If no key comes twice, the first value of a key is the last one. -/
theorem get?_eq_find? {fields : List (String × Json)} (h : (fields.map Prod.fst).Nodup) :
    get? key fields = find? key fields := by
  induction fields with
  | nil => rfl
  | cons f rest ih =>
    rw [List.map_cons, List.nodup_cons] at h
    rw [get?_cons, find?_cons, ih h.2]
    split
    · next heq =>
      cases hrest : find? key rest with
      | none => rfl
      | some v =>
        exact absurd (List.mem_map_of_mem (mem_of_find?_eq_some key hrest)) (heq ▸ h.1)
    · exact Option.or_none

/-- Fields in the order of their keys have different keys. -/
theorem Ascending.nodup_keys {fields : List (String × Json)} (h : Ascending fields) :
    (fields.map Prod.fst).Nodup :=
  List.pairwise_map.mpr (h.imp fun hlt => hlt.ne)

/-- Sorting fields changes nothing of what is under a key. -/
theorem get?_sortFields (fields : List (String × Json)) :
    get? key (sortFields fields) = get? key fields := by
  rw [get?_eq_find? key (ascending_sortFields fields).nodup_keys, find?_sortFields]

end

end MemorySentry.Json
