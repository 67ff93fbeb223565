import MemorySentry.Proofs.Json.RoundTrip
import MemorySentry.Proofs.RunLog.Validation
import MemorySentry.RunLog.Emitter

/-!
# Entries that are read back from their lines

An entry is read back from its line and there is nothing to complain about, if its identifier has a
mark, its violation is a known one with a pointer, and what else it holds is as a reader would see
it (`validate_line`).
-/

namespace MemorySentry.RunLog

open Json (Mismatch Readable)
open Json.Record (find? Thorough)

namespace Entry

/-- An entry that a line can hold without loss or complaint. -/
structure Sound (e : Entry) : Prop where
  traceId : hasMark e.traceId.toList = true
  violation : ∀ symbol, e.violation = some symbol →
    (ViolationKind.ofSymbol? symbol).isSome = true ∧ e.pointer.isSome = true
  details : ∀ v, e.details = some v →
    v ≠ .null ∧ v.normalize = v ∧ Readable (Json.mostLevels - 1) v

/-- The fields of an entry. -/
def fields (e : Entry) : List (String × Json) :=
  [("timestamp", .string e.timestamp), ("trace_id", .string e.traceId),
      ("level", .string e.level.name), ("event", .string e.event)] ++
    optionalField "run_id" .string e.runId ++
    optionalField "op_index" .word e.opIndex ++
    optionalField "pool" .string e.pool ++
    optionalField "outcome" (fun o : Outcome => .string o.name) e.outcome ++
    optionalField "violation" .string e.violation ++
    optionalField "fault_ptr" .string e.pointer ++
    optionalField "details" id e.details

/-- An entry is written as the object of its fields. -/
theorem toJson_eq (e : Entry) : e.toJson = .object e.fields := rfl

/-- The keys of all fields that an entry may have. -/
def keys : List String :=
  ["timestamp", "trace_id", "level", "event", "run_id", "op_index", "pool", "outcome", "violation",
    "fault_ptr", "details"]

section

variable {α : Type} {key key' : String} {f : α → Json} {a : Option α}

/-- A field that may be left out has its key once at most. -/
theorem map_fst_optionalField_sublist :
    ((optionalField key f a).map Prod.fst).Sublist [key] := by
  cases a with
  | none => exact List.nil_sublist _
  | some a => exact List.Sublist.refl _

@[simp] theorem find?_optionalField :
    find? key' (optionalField key f a) = if key = key' then a.map f else none := by
  cases a with
  | none => simp [optionalField]
  | some a => simp [optionalField]

end

/-- No two fields of an entry have the same key. -/
theorem nodup_keys_fields (e : Entry) : (e.fields.map Prod.fst).Nodup := by
  -- a part that is missing leaves its key out and does not move the others
  have hsublist : (e.fields.map Prod.fst).Sublist keys := by
    simp only [fields, List.map_append]
    exact (((((((List.Sublist.refl _).append map_fst_optionalField_sublist).append
      map_fst_optionalField_sublist).append map_fst_optionalField_sublist).append
      map_fst_optionalField_sublist).append map_fst_optionalField_sublist).append
      map_fst_optionalField_sublist).append map_fst_optionalField_sublist
  exact hsublist.nodup (by decide)

/-- The fields of an entry as a reader sees them. -/
def seenFields (e : Entry) : List (String × Json) :=
  Json.sortFields (Json.normalizeFields e.fields)

/-- A reader finds under a key what was written there. -/
theorem find?_seenFields (e : Entry) (key : String) :
    find? key e.seenFields = (find? key e.fields).map Json.normalize := by
  rw [seenFields, Json.find?_sortFields, get?_normalizeFields,
    Json.get?_eq_find? key e.nodup_keys_fields]

/-- It makes no difference whether a reader takes the first or the last field of a key. -/
theorem get?_seenFields (e : Entry) (key : String) :
    Json.get? key e.seenFields = find? key e.seenFields := by
  rw [seenFields, Json.get?_sortFields, Json.find?_sortFields]

section

variable {e : Entry} {key : String}

/-- A part of an entry is read from its field. -/
theorem seen_of_find? {v : Json} (hfind : find? key e.fields = some v) (hnormal : v.normalize = v) :
    find? key e.seenFields = some v := by
  rw [find?_seenFields, hfind, Option.map_some, hnormal]

/-- A part of an entry that may be missing is read from its field. -/
theorem possible_of_find? {α : Type} {decode : Json → Except Mismatch α} {f : α → Json}
    {a : Option α} (hfind : find? key e.fields = a.map f)
    (hnormal : ∀ x, a = some x → (f x).normalize = f x)
    (hread : ∀ x, a = some x → orNull decode (f x) = .ok (some x)) :
    Possible key decode e.seenFields a := by
  cases a with
  | none => exact .inr ⟨by rw [find?_seenFields, hfind]; rfl, rfl⟩
  | some x => exact .inl ⟨f x, seen_of_find? hfind (hnormal x rfl), hread x rfl⟩

end

/-- A word that is there is read as itself. -/
theorem orNull_word (w : UInt64) :
    orNull (Json.Decode.ofHead Json.Decode.word) (.word w) = .ok (some w) := by
  have hfits : w.toNat ≤ UInt64.size - 1 := Nat.le_sub_one_of_lt w.toNat_lt_size
  have hnat : Json.Decode.natUpTo (UInt64.size - 1) "usize" (.number (.natural w.toNat)) =
      .ok w.toNat := if_pos hfits
  have hword : orNull (Json.Decode.ofHead Json.Decode.word) (.word w) =
      some <$> UInt64.ofNat <$> Json.Decode.natUpTo (UInt64.size - 1) "usize"
        (.number (.natural w.toNat)) := rfl
  have hmap : some <$> UInt64.ofNat <$> (.ok w.toNat : Except Mismatch Nat) =
      .ok (some (UInt64.ofNat w.toNat)) := rfl
  rw [hword, hnat, hmap, UInt64.ofNat_toNat]

/-- A value that is not `null` is kept. -/
theorem orNull_ok {v : Json} (h : v ≠ .null) : orNull .ok v = .ok (some v) := by
  cases v with
  | null => exact absurd rfl h
  | bool | number | string | array | object => rfl

/-- An outcome that is there is read by its name. -/
theorem orNull_outcome (o : Outcome) :
    orNull (Json.Decode.variant Outcome.name Outcome.all isNull) (.string o.name) =
      .ok (some o) := by
  cases o <;> rfl

/-- A level is read by its name. -/
theorem variant_level (l : Level) :
    Json.Decode.variant Level.name Level.all isNull (.string l.name) = .ok l := by
  cases l <;> rfl

/-- A sound entry is written in the fields that a reader sees. -/
theorem Sound.writtenIn {e : Entry} (h : e.Sound) : WrittenIn e.seenFields e where
  timestamp := seen_of_find? (by simp [fields]) rfl
  traceId := seen_of_find? (by simp [fields]) rfl
  level := ⟨_, seen_of_find? (by simp [fields]) rfl, variant_level e.level⟩
  event := seen_of_find? (by simp [fields]) rfl
  runId := possible_of_find? (f := .string) (by simp [fields]) (fun _ _ => rfl) fun _ _ => rfl
  opIndex := possible_of_find? (f := .word) (by simp [fields])
    (fun _ _ => rfl) fun x _ => orNull_word x
  pool := possible_of_find? (f := .string) (by simp [fields]) (fun _ _ => rfl) fun _ _ => rfl
  outcome := possible_of_find? (f := fun o : Outcome => .string o.name) (by simp [fields])
    (fun _ _ => rfl) fun x _ => orNull_outcome x
  violation := possible_of_find? (f := .string) (by simp [fields]) (fun _ _ => rfl) fun _ _ => rfl
  pointer := possible_of_find? (f := .string) (by simp [fields]) (fun _ _ => rfl) fun _ _ => rfl
  details := possible_of_find? (f := id) (by simp [fields])
    (fun v hv => (h.details v hv).2.1) fun v hv => orNull_ok (h.details v hv).1

/-- A text or a word that may be missing is seen as it is. -/
theorem find?_seenFields_map {α : Type} {e : Entry} {key : String} {f : α → Json} {a : Option α}
    (hfind : find? key e.fields = a.map f) (hnormal : ∀ x, (f x).normalize = f x) :
    find? key e.seenFields = a.map f := by
  rw [find?_seenFields, hfind, Option.map_map]
  exact congrArg (fun g => a.map g) (funext hnormal)

/-- There is nothing to complain about in the fields of a sound entry. -/
theorem Sound.inOrder {e : Entry} (h : e.Sound) : InOrder e.seenFields := by
  have hwritten := h.writtenIn
  -- the complaints are about the fields as texts, the parts of the entry about what these say
  have hlevel : find? "level" e.seenFields = some (.string e.level.name) :=
    seen_of_find? (by simp [fields]) rfl
  have houtcome : find? "outcome" e.seenFields = e.outcome.map fun o => .string o.name :=
    find?_seenFields_map (f := fun o : Outcome => .string o.name) (by simp [fields]) fun _ => rfl
  have hviolation : find? "violation" e.seenFields = e.violation.map .string :=
    find?_seenFields_map (by simp [fields]) fun _ => rfl
  have hpointer : find? "fault_ptr" e.seenFields = e.pointer.map .string :=
    find?_seenFields_map (by simp [fields]) fun _ => rfl
  have hthere : ∀ {key v}, find? key e.seenFields = some v → hasField key e.seenFields = true :=
    fun hfind => by rw [hasField, get?_seenFields, hfind]; rfl
  refine ⟨fun key hkey => ?_, fun s hs => ?_, fun s hs => ?_, fun s hs => ?_, fun hfield => ?_,
    fun s hs => ?_⟩
  · simp only [requiredFields, List.mem_cons, List.not_mem_nil, or_false] at hkey
    rcases hkey with rfl | rfl | rfl | rfl
    · exact hthere hwritten.timestamp
    · exact hthere hwritten.traceId
    · exact hthere hlevel
    · exact hthere hwritten.event
  · rw [get?_seenFields, hlevel] at hs
    cases hs
    cases e.level <;> decide
  · rw [get?_seenFields, houtcome] at hs
    obtain ⟨o, -, heq⟩ := Option.map_eq_some_iff.mp hs
    cases heq
    cases o <;> decide
  · rw [get?_seenFields, hviolation] at hs
    obtain ⟨symbol, hsymbol, heq⟩ := Option.map_eq_some_iff.mp hs
    cases heq
    exact (h.violation _ hsymbol).1
  · rw [hasField, get?_seenFields, hviolation, Option.isSome_map] at hfield
    obtain ⟨symbol, hsymbol⟩ := Option.isSome_iff_exists.mp hfield
    rw [hasField, get?_seenFields, hpointer, Option.isSome_map]
    exact (h.violation symbol hsymbol).2
  · rw [get?_seenFields, hwritten.traceId] at hs
    cases hs
    exact h.traceId

/-- The reader of entries looks at every field that it knows. -/
theorem record_thorough : record.Thorough := by
  unfold record
  refine .seq (.seq (.seq (.seq (.seq (.seq (.seq (.seq (.seq (.seq (.map ?_ _) ?_) ?_) ?_) ?_) ?_)
    ?_) ?_) ?_) ?_) ?_
  all_goals
    first
    | exact Json.Record.thorough_required _ _
    | exact Json.Record.thorough_orElse _ _ _

/-- A sound entry is read from the fields that a reader sees. -/
theorem Sound.ofFields_seenFields {e : Entry} (h : e.Sound) :
    record.ofFields e.seenFields = .ok e :=
  record_thorough.ofFields_eq_ok (Json.ascending_sortFields _).nodup_keys
    (build_record_eq_ok_iff.mpr h.writtenIn)

/-- A field that may be left out is readable if its value is. -/
theorem fieldsReadable_optionalField {α : Type} {levels : Nat} {key : String} {f : α → Json}
    {a : Option α} (h : ∀ x, a = some x → Readable levels (f x)) :
    Json.FieldsReadable levels (optionalField key f a) := by
  cases a with
  | none => trivial
  | some x => exact ⟨h x rfl, trivial⟩

/-- The values of a sound entry nest no deeper than values may. -/
theorem Sound.readable {e : Entry} (h : e.Sound) : Readable Json.mostLevels e.toJson := by
  have hstring : ∀ s, Readable (Json.mostLevels - 1) (.string s) := Json.readable_string _
  have hfields : Json.FieldsReadable (Json.mostLevels - 1) e.fields := by
    simp only [fields, Json.fieldsReadable_append]
    exact ⟨⟨⟨⟨⟨⟨⟨⟨hstring _, hstring _, hstring _, hstring _, trivial⟩,
      fieldsReadable_optionalField fun _ _ => hstring _⟩,
      fieldsReadable_optionalField fun w _ => Json.readable_word _ w⟩,
      fieldsReadable_optionalField fun _ _ => hstring _⟩,
      fieldsReadable_optionalField fun _ _ => hstring _⟩,
      fieldsReadable_optionalField fun _ _ => hstring _⟩,
      fieldsReadable_optionalField fun _ _ => hstring _⟩,
      fieldsReadable_optionalField fun v hv => (h.details v hv).2.2⟩
  exact hfields

/-- A sound entry is read back from its line, and there is nothing to complain about. -/
theorem Sound.validate_line {e : Entry} (h : e.Sound) : validate e.line = .ok e := by
  refine validate_eq_ok_iff.mpr ⟨e.fields, ?_, h.inOrder, h.ofFields_seenFields⟩
  rw [line, Json.render, String.toList_ofList]
  exact Json.read_write h.readable

end Entry

end MemorySentry.RunLog
