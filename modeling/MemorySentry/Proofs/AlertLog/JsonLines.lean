import MemorySentry.Proofs.AlertLog.Policy
import MemorySentry.Proofs.RunLog.Lines
import MemorySentry.Proofs.Violation.Records

/-!
# Logs of JSON lines

A log in the format of JSON lines has one line for each violation, the text of its record, and which
violations were reported can be told from the bytes of the log (`jsonLines_decodable`).
-/

namespace MemorySentry

open Text (Utf8.encode)

namespace Violation.Record

/-- The text of records, one a line. -/
def textOf (rs : List Record) : String :=
  String.join (rs.map fun r => r.toJson.render ++ "\n")

/-- The lines of the text are those of the records, and one empty line after the last break. -/
theorem splitLines_textOf (rs : List Record) :
    RunLog.splitLines (textOf rs).toList = rs.map (fun r => r.toJson.render.toList) ++ [[]] := by
  have hlines := RunLog.splitLines_join
    (List.forall_mem_map.mpr fun r (_ : r ∈ rs) => newline_not_mem_render r)
  rwa [List.map_map, List.map_map] at hlines

/-- Records can be told from their bytes: the lines can be told apart, and so can the records. -/
theorem encode_textOf_injective : Function.Injective fun rs => Utf8.encode (textOf rs) := by
  intro rs rs' h
  have htext : textOf rs = textOf rs' := by
    have hdecode := congrArg Text.Utf8.decode? h
    simpa only [Text.Utf8.decode?_encode, Option.some.injEq] using hdecode
  have hlines := splitLines_textOf rs
  rw [htext, splitLines_textOf rs', List.append_left_inj] at hlines
  have hinj : Function.Injective fun r : Record => r.toJson.render.toList :=
    fun r r' h => render_injective (String.toList_inj.mp h)
  exact (hinj.list_map hlines).symm

end Violation.Record

namespace AlertLog

open Violation (Record)

/-- The violations that are reported are all addressed to the sink that they find. -/
theorem addressed_report (sink : Sink) (vs : List Violation) :
    addressed sink (vs.map .report) = vs.map fun v => (sink, v) := by
  induction vs with
  | nil => rfl
  | cons v rest ih =>
    rw [List.map_cons, addressed, List.map_cons]
    exact congrArg ((sink, v) :: ·) ih

/-- A log of JSON lines has the text of the records of its violations. -/
theorem textIn_report_all {sink : Sink} (hsink : sink.accepts = true) (stop : Bool) (budget : Nat)
    (vs : List Violation) :
    ((start sink stop budget .jsonl).performAll (vs.map .report)).2.textIn sink =
      Record.textOf (vs.map Violation.record) := by
  obtain ⟨-, hformat, -⟩ := (start sink stop budget .jsonl).performAll_settings (vs.map .report)
  have hall : ∀ e ∈ vs.map fun v => (sink, v), (e.1 == sink && e.1.accepts) = true := by
    simp [hsink]
  rw [textIn, hformat, performAll_entries, start, List.nil_append, addressed_report, textOf,
    List.filter_eq_self.mpr hall, Record.textOf, List.map_map, List.map_map]
  simp only [Function.comp_def, AlertFormat.render, Violation.jsonLine, Violation.toJson_eq]

/-- What a log of JSON lines says about the violations that were reported, whatever sink takes it.
Its lines are the texts of their records, and logs with the same bytes are about the same
violations. A record has no line break, and different records have different texts, also those of
objects that no program has, which are live after a free. -/
theorem jsonLines_decodable {sink : Sink} (hsink : sink.accepts = true) (stop : Bool)
    (budget : Nat) :
    let text := fun vs : List Violation =>
      ((start sink stop budget .jsonl).performAll (vs.map .report)).2.textIn sink
    (∀ vs, RunLog.splitLines (text vs).toList =
        vs.map (fun v => v.toJson.render.toList) ++ [[]]) ∧
      (∀ vs ws, Utf8.encode (text vs) = Utf8.encode (text ws) → vs = ws) ∧
      (∀ vs, text vs = Record.textOf (vs.map Violation.record)) ∧
      (Function.Injective fun rs : List Record => Utf8.encode (Record.textOf rs)) ∧
      (∀ r : Record, '\n' ∉ r.toJson.render.toList) ∧
      (Function.Injective fun r : Record => r.toJson.render) ∧
      Function.Injective Violation.record := by
  intro text
  have htext : ∀ vs, text vs = Record.textOf (vs.map Violation.record) :=
    textIn_report_all hsink stop budget
  refine ⟨fun vs => ?_, fun vs ws h => ?_, htext, Record.encode_textOf_injective,
    Record.newline_not_mem_render, Record.render_injective, Violation.record_injective⟩
  · rw [htext, Record.splitLines_textOf, List.map_map]
    simp only [Function.comp_def, Violation.toJson_eq]
  · -- equal bytes have equal records, and records tell violations apart
    rw [htext, htext] at h
    exact Violation.record_injective.list_map (Record.encode_textOf_injective h)

/-- A violation in a call of a function whose name has to be escaped, in a source without a name. -/
def escaped : Violation where
  kind := .libraryMisuse
  pointer := 0x1000
  site := some { tag := 7, source := some "" }
  function := some "\"\n\\é"

theorem jsonLines_decodable_escaped :
    (Sink.buffer 0).accepts = true ∧
      let text := fun vs : List Violation =>
        ((start (.buffer 0) false 10 .jsonl).performAll (vs.map .report)).2.textIn (.buffer 0)
      RunLog.splitLines (text [escaped, escaped]).toList =
          [escaped.toJson.render.toList, escaped.toJson.render.toList, []] ∧
        Utf8.encode (text [escaped]) ≠
          Utf8.encode (text [{ escaped with site := some { tag := 7 } }]) := by
  have haccepts : (Sink.buffer 0).accepts = true := rfl
  obtain ⟨hlines, hbytes, -⟩ := jsonLines_decodable haccepts false 10
  refine ⟨haccepts, hlines [escaped, escaped], fun h => ?_⟩
  have hsame := hbytes _ _ h
  revert hsame
  decide

end AlertLog

end MemorySentry
