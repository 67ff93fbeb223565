import MemorySentry.Proofs.RunLog.Emission
import MemorySentry.Proofs.Violation.Records

/-!
# Round trip of entries

What replays say about themselves beyond the fixed fields is an object of texts, truth values and
words. An entry with such details, a known violation with its pointer and a mark in its identifier
is written on one line and read back from it without a complaint (`Entry.line_roundTrip`).
-/

namespace MemorySentry

namespace Json

/-- A text, a truth value or a word. -/
inductive Scalar : Json → Prop where
  | string (s : String) : Scalar (.string s)
  | bool (b : Bool) : Scalar (.bool b)
  | word (w : UInt64) : Scalar (.word w)

/-- An object with scalar values, whose fields stand in the order of their keys. -/
inductive Flat : Json → Prop where
  | object {fields : List (String × Json)} (ascending : Ascending fields)
      (scalar : ∀ f ∈ fields, Scalar f.2) : Flat (.object fields)

/-- Putting fields in order leaves a scalar value as it is. -/
theorem Scalar.normalize_eq {v : Json} (h : Scalar v) : v.normalize = v := by
  cases h <;> rfl

/-- A scalar value is readable at any depth. -/
theorem Scalar.readable {v : Json} (h : Scalar v) (levels : Nat) : Readable levels v := by
  cases h with
  | string s => exact readable_string levels s
  | bool b => exact readable_bool levels b
  | word w => exact readable_word levels w

/-- Fields with scalar values have nothing to put in order inside. -/
theorem normalizeFields_of_scalar {fields : List (String × Json)}
    (h : ∀ f ∈ fields, Scalar f.2) : normalizeFields fields = fields := by
  induction fields with
  | nil => rfl
  | cons f rest ih =>
    obtain ⟨hf, hrest⟩ := List.forall_mem_cons.mp h
    rw [normalizeFields, hf.normalize_eq, ih hrest]

/-- Fields with scalar values are readable. -/
theorem fieldsReadable_of_scalar {levels : Nat} {fields : List (String × Json)}
    (h : ∀ f ∈ fields, Scalar f.2) : FieldsReadable levels fields := by
  induction fields with
  | nil => trivial
  | cons f rest ih =>
    obtain ⟨hf, hrest⟩ := List.forall_mem_cons.mp h
    exact ⟨hf.readable levels, ih hrest⟩

/-- The order of its fields is the one in which a reader keeps them. -/
theorem Flat.normalize_eq {v : Json} (h : Flat v) : v.normalize = v := by
  cases h with
  | object ascending scalar =>
    exact normalize_object (List.pairwise_map.mpr ascending) (normalizeFields_of_scalar scalar)

/-- An object with scalar values nests one level deep. -/
theorem Flat.readable {v : Json} (h : Flat v) (levels : Nat) : Readable (levels + 1) v := by
  cases h with
  | object _ scalar => exact fieldsReadable_of_scalar scalar

/-- An object is not `null`. -/
theorem Flat.ne_null {v : Json} (h : Flat v) : v ≠ .null := by
  rintro rfl
  cases h

end Json

namespace RunLog.Entry

variable {e : Entry}

/-- The numbers in a sound entry are whole. -/
theorem Sound.whole_toJson (h : e.Sound) : Json.Whole e.toJson :=
  h.readable.whole

/-- There is no control character in the line of a sound entry. -/
theorem Sound.not_isControl_line (h : e.Sound) :
    ∀ c ∈ e.line.toList, Json.Reader.isControl (some c) = false := by
  rw [line, Json.render, String.toList_ofList]
  exact Json.not_isControl_write h.whole_toJson

/-- An entry is sound if its numbering, its violation and its details are in order. -/
theorem sound_of_flat (hid : "::".toList <:+: e.traceId.toList)
    (hviolation : ∀ symbol, e.violation = some symbol →
      (∃ kind : ViolationKind, kind.symbol = symbol) ∧ e.pointer.isSome = true)
    (hdetails : ∀ v, e.details = some v → Json.Flat v) : e.Sound where
  traceId := hasMark_iff.mpr hid
  violation symbol hsymbol := by
    obtain ⟨⟨kind, rfl⟩, hpointer⟩ := hviolation symbol hsymbol
    exact ⟨by rw [ViolationKind.ofSymbol?_symbol]; rfl, hpointer⟩
  details v hv :=
    ⟨(hdetails v hv).ne_null, (hdetails v hv).normalize_eq, (hdetails v hv).readable _⟩

/-- An entry is written on one line and read back from it, and wherever the line stands in a log,
there is nothing to complain about. -/
theorem line_roundTrip (hid : "::".toList <:+: e.traceId.toList)
    (hviolation : ∀ symbol, e.violation = some symbol →
      (∃ kind : ViolationKind, kind.symbol = symbol) ∧ e.pointer.isSome = true)
    (hdetails : ∀ v, e.details = some v → Json.Flat v) :
    ('\n' ∉ e.line.toList ∧ '\r' ∉ e.line.toList) ∧
      validate e.line = .ok e ∧ ∀ number, complaintsOfLine number e.line = [] := by
  have hsound := sound_of_flat hid hviolation hdetails
  have hread := hsound.validate_line
  refine ⟨⟨fun hmem => ?_, fun hmem => ?_⟩, hread, fun number => by rw [complaintsOfLine, hread]⟩
  · cases hsound.not_isControl_line _ hmem
  · cases hsound.not_isControl_line _ hmem

/-- An entry with texts that have to be escaped and with everything that an entry may have. -/
def awkward : Entry where
  timestamp := "\u2028\r\n"
  traceId := "a\"b::\\0001"
  level := .fatal
  event := "\u0000\u001f/é😀"
  runId := some ""
  opIndex := some 0xffffffffffffffff
  pool := some "\t"
  outcome := some .terminated
  violation := some "FAULT_DOUBLE_FREE"
  pointer := some "0x1000"
  details := some
    (.object [("", .word 0xffffffffffffffff), ("a\"", .bool true), ("b", .string "\n")])

/-- An entry with quotes, breaks and foreign letters comes back from its line. -/
theorem line_roundTrip_awkward :
    ('\n' ∉ awkward.line.toList ∧ '\r' ∉ awkward.line.toList) ∧
      validate awkward.line = .ok awkward ∧
      ∀ number, complaintsOfLine number awkward.line = [] := by
  have hid : "::".toList <:+: awkward.traceId.toList := ⟨"a\"b".toList, "\\0001".toList, by decide⟩
  have hviolation : ∀ symbol, awkward.violation = some symbol →
      (∃ kind : ViolationKind, kind.symbol = symbol) ∧ awkward.pointer.isSome = true := by
    rintro symbol ⟨⟩
    exact ⟨⟨.doubleFree, rfl⟩, rfl⟩
  have hdetails : ∀ v, awkward.details = some v → Json.Flat v := by
    rintro v ⟨⟩
    refine .object (List.pairwise_map.mp (by decide)) ?_
    simp only [List.forall_mem_cons, List.not_mem_nil, false_implies, implies_true, and_true]
    exact ⟨.word _, .bool _, .string _⟩
  exact line_roundTrip hid hviolation hdetails

end RunLog.Entry

end MemorySentry
