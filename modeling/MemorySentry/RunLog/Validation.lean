import MemorySentry.Json.Reader.Value
import MemorySentry.RunLog.Entry
import MemorySentry.Text.Blank
import MemorySentry.Violation.Kind

/-!
# Validation of run logs

A line of a run log has to be an object with the fields of an entry, and its fields have to go
together: a violation comes with the pointer that it is about, and the identifier of a line names
its run. Everything that is wrong with a line is reported at once, apart from values of a wrong
type, which are only looked at in a line that is right otherwise.
-/

namespace MemorySentry.RunLog

/-- What is wrong with a line. -/
inductive Complaint where
  /-- The line is no JSON. -/
  | notJson
  /-- The line is no object. -/
  | notObject
  /-- A required field is missing. -/
  | missing (field : String)
  /-- There is no such level. -/
  | unknownLevel (name : String)
  /-- There is no such outcome. -/
  | unknownOutcome (name : String)
  /-- There is no such violation. -/
  | unknownViolation (symbol : String)
  /-- There is a violation but no pointer. -/
  | missingPointer
  /-- The identifier of the line names no run. -/
  | invalidTraceId (id : String)
  /-- A value is not what it has to be. -/
  | unfit (m : Json.Mismatch)
deriving DecidableEq

namespace Complaint

/-- The field that a complaint is about, or what stands for it. -/
def field : Complaint → String
  | .notJson => "<json>"
  | .notObject => "<root>"
  | .missing field => field
  | .unknownLevel _ => "level"
  | .unknownOutcome _ => "outcome"
  | .unknownViolation _ => "violation"
  | .missingPointer => "fault_ptr"
  | .invalidTraceId _ => "trace_id"
  | .unfit _ => "<deserialization>"

/-- The wording of a complaint. -/
def message : Complaint → String
  | .notJson => "invalid JSON"
  | .notObject => "expected JSON object"
  | .missing _ => "required field missing"
  | .unknownLevel name => "invalid level: '" ++ name ++ "'"
  | .unknownOutcome name => "invalid outcome: '" ++ name ++ "'"
  | .unknownViolation symbol => "unknown violation: '" ++ symbol ++ "'"
  | .missingPointer => "violation events must include fault_ptr"
  | .invalidTraceId id => "trace_id should follow <run_id>::<seq> format, got: '" ++ id ++ "'"
  | .unfit m => "failed to deserialize: " ++ m.message

end Complaint

/-- A complaint with the number of the line that it is about. -/
structure LineComplaint where
  line : Nat
  complaint : Complaint
deriving DecidableEq

/-- The wording of a complaint with its line. -/
def LineComplaint.render (c : LineComplaint) : String :=
  "line " ++ toString c.line ++ ": field '" ++ c.complaint.field ++ "': " ++ c.complaint.message

/-- Whether the identifier of a line has the mark between its run and its number. -/
def hasMark : List Char → Bool
  | ':' :: ':' :: _ => true
  | _ :: rest => hasMark rest
  | [] => false

/-- The fields that every line has to have. -/
def requiredFields : List String := ["timestamp", "trace_id", "level", "event"]

/-- The text of a field, if it has one. -/
def textOf? (key : String) (fields : List (String × Json)) : Option String :=
  match Json.get? key fields with
  | some (.string s) => some s
  | _ => none

/-- Whether there is a field with a key. -/
def hasField (key : String) (fields : List (String × Json)) : Bool :=
  (Json.get? key fields).isSome

/-- The complaint about a text that a field has and that is not in order. -/
def complainAbout (key : String) (isFine : String → Bool) (complaint : String → Complaint)
    (fields : List (String × Json)) : List Complaint :=
  match textOf? key fields with
  | some s => if isFine s then [] else [complaint s]
  | none => []

/-- What is wrong with the fields of a line, apart from types. -/
def complaints (fields : List (String × Json)) : List Complaint :=
  (requiredFields.filter fun key => !hasField key fields).map .missing ++
  complainAbout "level" (fun s => s ∈ Level.all.map Level.name) .unknownLevel fields ++
  complainAbout "outcome" (fun s => s ∈ Outcome.all.map Outcome.name) .unknownOutcome fields ++
  complainAbout "violation" (fun s => (ViolationKind.ofSymbol? s).isSome) .unknownViolation
    fields ++
  (if hasField "violation" fields && !hasField "fault_ptr" fields then [.missingPointer]
    else []) ++
  complainAbout "trace_id" (fun s => hasMark s.toList) .invalidTraceId fields

/-- The entry that a line is, or what is wrong with it. -/
def validate (line : String) : Except (List Complaint) Entry :=
  match Json.read (line.toList.map some) with
  | .error _ => .error [.notJson]
  | .ok v =>
    match v.normalize with
    | .object fields =>
      match complaints fields with
      | [] => (Entry.record.ofFields fields).mapError fun m => [.unfit m]
      | cs => .error cs
    | _ => .error [.notObject]

/-- The lines of a text, without their line breaks. -/
def splitLines : List Char → List (List Char)
  | [] => [[]]
  | '\n' :: rest => [] :: splitLines rest
  | c :: rest =>
    match splitLines rest with
    | [] => [[c]]
    | line :: lines => (c :: line) :: lines

/-- The lines of a text that are not blank, with their numbers and without the blanks around
them. -/
def numberedLines (text : String) : List (Nat × String) :=
  ((splitLines text.toList).zipIdx 1).filterMap fun (line, number) =>
    match Text.trim line with
    | [] => none
    | cs => some (number, String.ofList cs)

/-- The complaints about a line with its number. -/
def complaintsOfLine (number : Nat) (line : String) : List LineComplaint :=
  match validate line with
  | .ok _ => []
  | .error cs => cs.map fun c => ⟨number, c⟩

/-- The number of lines of a text that are not blank, and all that is wrong with them. -/
def validateText (text : String) : Nat × List LineComplaint :=
  let lines := numberedLines text
  (lines.length, lines.flatMap fun (number, line) => complaintsOfLine number line)

end MemorySentry.RunLog
