import MemorySentry.Proofs.Json.Records
import MemorySentry.Proofs.Json.RoundTrip
import MemorySentry.RunLog.Validation

/-!
# What validated lines say

A line is accepted if it is an object about whose fields there is no complaint and from which an
entry can be read (`validate_eq_ok_iff`). The complaints look at the fields as they are written, and
the entry is read from the same fields afterwards, field by field (`build_record_eq_ok_iff`). Put
together, the entry of an accepted line names its run, and a violation in it is of a known kind and
has a pointer unless the pointer was written as `null` (`validate_sound`).
-/

namespace MemorySentry.RunLog

open Json (Mismatch)
open Json.Record (find?)

/-! ### Reading an entry -/

namespace Entry

section

variable {fields : List (String × Json)}

/-- A value is read as a text exactly if it is one. -/
theorem text_eq_ok_iff {v : Json} {s : String} : text v = .ok s ↔ v = .string s := by
  cases v <;> simp [text, Json.Decode.ofHead, Json.head, Json.Decode.string]

/-- What the fields of an object say of a part of an entry that may be missing. -/
def Possible {α : Type} (key : String) (decode : Json → Except Mismatch α)
    (fields : List (String × Json)) (a : Option α) : Prop :=
  (∃ v, find? key fields = some v ∧ orNull decode v = .ok a) ∨ find? key fields = none ∧ a = none

/-- The fields of an object say what an entry is. -/
structure WrittenIn (fields : List (String × Json)) (e : Entry) : Prop where
  timestamp : find? "timestamp" fields = some (.string e.timestamp)
  traceId : find? "trace_id" fields = some (.string e.traceId)
  level : ∃ v, find? "level" fields = some v ∧
    Json.Decode.variant Level.name Level.all isNull v = .ok e.level
  event : find? "event" fields = some (.string e.event)
  runId : Possible "run_id" text fields e.runId
  opIndex : Possible "op_index" (Json.Decode.ofHead Json.Decode.word) fields e.opIndex
  pool : Possible "pool" text fields e.pool
  outcome : Possible "outcome" (Json.Decode.variant Outcome.name Outcome.all isNull) fields
    e.outcome
  violation : Possible "violation" text fields e.violation
  pointer : Possible "fault_ptr" text fields e.pointer
  details : Possible "details" .ok fields e.details

/-- An entry is read from fields exactly if they say it. -/
theorem build_record_eq_ok_iff {e : Entry} : record.build fields = .ok e ↔ WrittenIn fields e := by
  -- the parts in the order of the fields, then the entry that is made of them
  have hmade : record.build fields = .ok e ↔ ∃ e', record.build fields = .ok e' ∧ e' = e := by simp
  rw [hmade]
  simp only [record, requiredField, possibleField, Json.Record.exists_build_seq_iff,
    Json.Record.exists_build_map_iff, Json.Record.build_required_eq_ok_iff,
    Json.Record.build_orElse_eq_ok_iff, text_eq_ok_iff, exists_eq_right]
  constructor
  · rintro ⟨_, htimestamp, _, htraceId, _, hlevel, _, hevent, _, hrunId, _, hopIndex, _, hpool,
      _, houtcome, _, hviolation, _, hpointer, _, hdetails, rfl⟩
    exact ⟨htimestamp, htraceId, hlevel, hevent, hrunId, hopIndex, hpool, houtcome, hviolation,
      hpointer, hdetails⟩
  · intro h
    exact ⟨_, h.timestamp, _, h.traceId, _, h.level, _, h.event, _, h.runId, _, h.opIndex,
      _, h.pool, _, h.outcome, _, h.violation, _, h.pointer, _, h.details, rfl⟩

/-- A text that may be missing is there if its field is a string. -/
theorem possible_text_some_iff {key s : String} :
    Possible key text fields (some s) ↔ find? key fields = some (.string s) := by
  have hread : ∀ v, orNull text v = .ok (some s) ↔ v = .string s := by
    intro v
    cases v <;> simp [orNull, text, Json.Decode.ofHead, Json.head, Json.Decode.string]
  simp [Possible, hread]

/-- A text that may be missing is missing if there is no field for it, or only a `null`. -/
theorem possible_text_none_iff {key : String} :
    Possible key text fields none ↔ find? key fields = some .null ∨ find? key fields = none := by
  have hread : ∀ v, orNull text v = .ok none ↔ v = .null := by
    intro v
    cases v <;> simp [orNull, text, Json.Decode.ofHead, Json.head, Json.Decode.string]
  simp [Possible, hread]

end

end Entry

/-! ### Complaints -/

/-- The mark is two colons, one right after the other. -/
theorem hasMark_iff {cs : List Char} : hasMark cs = true ↔ [':', ':'] <:+: cs := by
  fun_induction hasMark cs with
  | case1 rest => exact iff_of_true rfl ⟨[], rest, rfl⟩
  | case2 rest c hno ih =>
    rw [ih, List.infix_cons_iff]
    refine ⟨.inr, fun h => h.resolve_left ?_⟩
    rintro ⟨more, heq⟩
    cases heq
    exact hno more rfl rfl
  | case3 => simp

section

variable {fields : List (String × Json)}

/-- A field has a text exactly if its value is one. -/
theorem textOf?_eq_some_iff {key s : String} :
    textOf? key fields = some s ↔ Json.get? key fields = some (.string s) := by
  unfold textOf?
  split
  · next t heq => simp [heq]
  · next hno =>
    constructor
    · intro h
      cases h
    · exact fun h => absurd h (hno s)

/-- There is no complaint about a field exactly if its text, where it has one, is fine. -/
theorem complainAbout_eq_nil_iff {key : String} {isFine : String → Bool}
    {complaint : String → Complaint} :
    complainAbout key isFine complaint fields = [] ↔
      ∀ s, Json.get? key fields = some (.string s) → isFine s = true := by
  simp only [← textOf?_eq_some_iff]
  unfold complainAbout
  cases textOf? key fields <;> simp

/-- There is nothing to complain about in fields. -/
structure InOrder (fields : List (String × Json)) : Prop where
  required : ∀ key ∈ requiredFields, hasField key fields = true
  level : ∀ s, Json.get? "level" fields = some (.string s) → s ∈ Level.all.map Level.name
  outcome : ∀ s, Json.get? "outcome" fields = some (.string s) →
    s ∈ Outcome.all.map Outcome.name
  violation : ∀ s, Json.get? "violation" fields = some (.string s) →
    (ViolationKind.ofSymbol? s).isSome = true
  pointer : hasField "violation" fields = true → hasField "fault_ptr" fields = true
  traceId : ∀ s, Json.get? "trace_id" fields = some (.string s) → hasMark s.toList = true

/-- There is no complaint at all exactly if the fields are in order. -/
theorem complaints_eq_nil_iff : complaints fields = [] ↔ InOrder fields := by
  simp only [complaints, List.append_eq_nil_iff, List.map_eq_nil_iff, List.filter_eq_nil_iff,
    complainAbout_eq_nil_iff, ite_eq_right_iff, Bool.and_eq_true, Bool.not_eq_true',
    decide_eq_true_eq]
  constructor
  · rintro ⟨⟨⟨⟨⟨hrequired, hlevel⟩, houtcome⟩, hviolation⟩, hpointer⟩, htraceId⟩
    refine ⟨fun key hkey => by simpa using hrequired key hkey, hlevel, houtcome, hviolation,
      fun hfield => ?_, htraceId⟩
    by_contra hmissing
    exact absurd (hpointer ⟨hfield, by simpa using hmissing⟩) (List.cons_ne_nil _ _)
  · intro h
    refine ⟨⟨⟨⟨⟨fun key hkey => by simpa using h.required key hkey, h.level⟩, h.outcome⟩,
      h.violation⟩, fun hmissing => ?_⟩, h.traceId⟩
    rw [h.pointer hmissing.1] at hmissing
    cases hmissing.2

end

/-! ### Lines -/

/-- Putting fields in order changes what is under a key only inside. -/
theorem get?_normalizeFields (key : String) (written : List (String × Json)) :
    Json.get? key (Json.normalizeFields written) =
      (Json.get? key written).map Json.normalize := by
  induction written with
  | nil => rfl
  | cons f rest ih =>
    obtain ⟨k, v⟩ := f
    rw [Json.normalizeFields, Json.get?_cons, Json.get?_cons, ih]
    cases Json.get? key rest with
    | some w => rfl
    | none => by_cases h : k = key <;> simp [h]

/-- A line is accepted if it is an object without complaints from whose fields the entry is read. -/
theorem validate_eq_ok_iff {line : String} {e : Entry} :
    validate line = .ok e ↔
      ∃ written, Json.read (line.toList.map some) = .ok (.object written) ∧
        InOrder (Json.sortFields (Json.normalizeFields written)) ∧
        Entry.record.ofFields (Json.sortFields (Json.normalizeFields written)) = .ok e := by
  unfold validate
  cases Json.read (line.toList.map some) with
  | error err => simp
  | ok v =>
    cases v with
    | object written =>
      simp only [Json.normalize, Except.ok.injEq, Json.object.injEq, exists_eq_left',
        ← complaints_eq_nil_iff]
      cases complaints (Json.sortFields (Json.normalizeFields written)) with
      | nil =>
        cases Entry.record.ofFields (Json.sortFields (Json.normalizeFields written)) <;>
          simp [Except.mapError]
      | cons c cs => simp
    | null | bool | number | string | array => simp [Json.normalize]

/-- A key has a `null` among the normalized fields if it has one among those that were written. -/
theorem find?_normalized_eq_null_iff {key : String} {written : List (String × Json)} :
    find? key (Json.sortFields (Json.normalizeFields written)) = some .null ↔
      Json.get? key written = some .null := by
  have hnull : ∀ v : Json, v.normalize = .null ↔ v = .null := by
    intro v
    cases v <;> simp [Json.normalize]
  rw [Json.find?_sortFields, get?_normalizeFields]
  simp [hnull]

/-- An accepted line is an object. Its entry names a run, and if it has a violation, that is the
symbol of a kind, and the entry has no pointer only if the line has a `null` in its place. -/
theorem validate_sound {line : String} {e : Entry} (h : validate line = .ok e) :
    ∃ written, Json.read (line.toList.map some) = .ok (.object written) ∧
      "::".toList <:+: e.traceId.toList ∧
      ∀ symbol, e.violation = some symbol →
        (∃ kind : ViolationKind, kind.symbol = symbol) ∧
          (e.pointer = none ↔ Json.get? "fault_ptr" written = some .null) := by
  obtain ⟨written, hread, horder, hentry⟩ := validate_eq_ok_iff.mp h
  have hwritten := Entry.build_record_eq_ok_iff.mp (Json.Record.build_of_ofFields hentry)
  -- the complaints ask for the last value of a key and the entry is read from the first one
  have hsorted : ∀ key, find? key (Json.sortFields (Json.normalizeFields written)) =
      Json.get? key (Json.sortFields (Json.normalizeFields written)) := fun key => by
    rw [Json.find?_sortFields, Json.get?_sortFields]
  have hviolation : ∀ symbol, e.violation = some symbol →
      find? "violation" (Json.sortFields (Json.normalizeFields written)) =
        some (.string symbol) := fun symbol hsymbol =>
    Entry.possible_text_some_iff.mp (hsymbol ▸ hwritten.violation)
  refine ⟨written, hread, ?_, fun symbol hsymbol => ⟨?_, ?_⟩⟩
  · exact hasMark_iff.mp (horder.traceId _ (hsorted _ ▸ hwritten.traceId))
  · obtain ⟨kind, hkind⟩ := Option.isSome_iff_exists.mp
      (horder.violation symbol (hsorted _ ▸ hviolation symbol hsymbol))
    exact ⟨kind, by simpa using List.find?_some hkind⟩
  · have hthere : hasField "fault_ptr" _ = true := horder.pointer <| by
      rw [hasField, ← hsorted, hviolation symbol hsymbol]
      rfl
    rw [hasField, ← hsorted] at hthere
    rw [← find?_normalized_eq_null_iff]
    have hpointer := hwritten.pointer
    -- there is a field for the pointer, so what is missing was written as `null`
    cases hp : e.pointer with
    | none =>
      rw [hp, Entry.possible_text_none_iff] at hpointer
      refine iff_of_true rfl (hpointer.resolve_right fun hmissing => ?_)
      rw [hmissing] at hthere
      cases hthere
    | some p =>
      rw [hp, Entry.possible_text_some_iff] at hpointer
      rw [hpointer]
      simp

/-- A line with a violation and `null` in the place of its pointer. -/
def lineWithNullPointer : String :=
  "\x7b\"timestamp\":\"t\",\"trace_id\":\"a::1\",\"level\":\"info\",\"event\":\"x\"," ++
    "\"violation\":\"FAULT_CALL\",\"fault_ptr\":null\x7d"

/-- The fields of that line. -/
def fieldsWithNullPointer : List (String × Json) :=
  [("timestamp", .string "t"), ("trace_id", .string "a::1"), ("level", .string "info"),
    ("event", .string "x"), ("violation", .string "FAULT_CALL"), ("fault_ptr", .null)]

/-- The line is read as its object. -/
theorem read_lineWithNullPointer :
    Json.read (lineWithNullPointer.toList.map some) = .ok (.object fieldsWithNullPointer) := by
  have hwrite : lineWithNullPointer.toList = (Json.object fieldsWithNullPointer).write := by
    decide +kernel
  rw [hwrite]
  exact Json.read_write ⟨trivial, trivial, trivial, trivial, trivial, trivial, trivial⟩

/-- The line passes, and its entry has a violation but no address. -/
theorem validate_lineWithNullPointer :
    validate lineWithNullPointer = .ok
      { timestamp := "t"
        traceId := "a::1"
        level := .info
        event := "x"
        violation := some "FAULT_CALL" } := by
  rw [validate, read_lineWithNullPointer]
  rfl

/-- The line says `null` where the address of its violation would be. -/
theorem validate_sound_null_pointer :
    ∃ written, Json.read (lineWithNullPointer.toList.map some) = .ok (.object written) ∧
      Json.get? "fault_ptr" written = some .null := by
  obtain ⟨written, hread, -, hviolation⟩ := validate_sound validate_lineWithNullPointer
  exact ⟨written, hread, (hviolation _ rfl).2.mp rfl⟩

/-- An entry of an accepted line may have a violation and no pointer. -/
theorem validate_accepts_violation_without_pointer :
    ¬ ∀ line e, validate line = .ok e → "::".toList <:+: e.traceId.toList ∧
      ∀ symbol, e.violation = some symbol →
        (∃ kind : ViolationKind, kind.symbol = symbol) ∧ e.pointer.isSome = true := by
  intro h
  obtain ⟨-, hviolation⟩ := h _ _ validate_lineWithNullPointer
  cases (hviolation _ rfl).2

end MemorySentry.RunLog
