import MemorySentry.Json.Reader.Value
import MemorySentry.Trace.Decode

/-!
# Traces as text

A trace is read from the front, and reading stops at the first thing that is not as it should be.
Fields that are not known are passed over; that a field is missing shows at the end. Only an
operation is read as a whole before its fields are looked at, apart from its tag.
-/

namespace MemorySentry.Trace

open Json

namespace Reader

open Json.Reader

/-- A value whose head tells all. -/
def readOf {α : Type} (decode : Head → Except Mismatch α) (s : Input) :
    Except ReadError (α × Input) := do
  let (h, s) ← readHead s
  match decode h with
  | .ok a => return (a, s)
  | .error m => .error (.unfit m)

/-- A value that must not have come before, with the field that it belongs to. -/
def readOnce {α : Type} (key : String) (before : Option α)
    (read : Input → Except ReadError (α × Input)) (s : Input) :
    Except ReadError (Option α × Input) := do
  if before.isSome then .error (.unfit (.repeatedField key))
  else
    let (a, s) ← read (← afterColon s)
    return (some a, s)

/-- A value that is read and forgotten, after its key. -/
def skipField (s : Input) : Except ReadError Input := do
  skipValue (← afterColon s)

/-- What has been read of an operation: its tag and its other fields, the last one first. -/
abbrev PartialOperation := Option (String × Record Operation) × List (String × Json)

/-- The field of an operation that says which one it is. -/
def tagKey : String := "op"

/-- How deep the values in the fields of an operation may nest. -/
def fieldLevels : Nat := mostLevels - 3

/-- A field of an operation. -/
def readOperationField (o : PartialOperation) (key : String) (s : Input) :
    Except ReadError (PartialOperation × Input) := do
  if key = tagKey then
    let (tag, s) ← readOnce key o.1 (readOf decodeTag) s
    return ((tag, o.2), s)
  else
    let (v, s) ← readValue fieldLevels (← afterColon s)
    return ((o.1, (key, v) :: o.2), s)

/-- An item of an operation that is written as an array. The first one is the tag. -/
def readOperationItem (o : PartialOperation) (s : Input) :
    Except ReadError (PartialOperation × Input) := do
  match o.1 with
  | none =>
    let (tag, s) ← readOf decodeTag s
    return ((some tag, o.2), s)
  | some _ =>
    let (v, s) ← readValue fieldLevels s
    return ((o.1, ("", v) :: o.2), s)

/-- What an operation means that was read as a whole. -/
def completeOperation (asArray : Bool) (o : PartialOperation) : Except Mismatch Operation :=
  match o with
  | (none, _) => .error (.missingField tagKey)
  | (some (name, record), written) =>
    if asArray then record.ofItems (arrayName name) (written.reverse.map Prod.snd)
    else record.ofFields written.reverse

/-- An operation. -/
def readOperation (s : Input) : Except ReadError (Operation × Input) := do
  let (asArray, o, s) ← (do
    match ← readHead s with
    | (.object, s) => return (false, ← readFields readOperationField (none, []) s)
    | (.array, s) => return (true, ← readItems readOperationItem (none, []) s)
    | (h, _) => .error (.unfit (.wrongType h "internally tagged enum TraceOp")) :
      Except ReadError (Bool × PartialOperation × Input))
  match completeOperation asArray o with
  | .ok o => return (o, s)
  | .error m => .error (.unfit m)

/-- The operations of a trace. -/
def readOperations (s : Input) : Except ReadError (List Operation × Input) := do
  match ← readHead s with
  | (.array, s) =>
    let (os, s) ← readItems (fun os s => do
      let (o, s) ← readOperation s
      return (o :: os, s)) [] s
    return (os.reverse, s)
  | (h, _) => .error (.unfit (.wrongType h "a sequence"))

/-- What has been read of the settings in a trace. -/
structure PartialOptions where
  errorBudget : Option (Option Nat) := none
  stopOnError : Option Bool := none
  retainFreed : Option (Option Bool) := none

/-- The settings, those that are missing being left open. -/
def PartialOptions.complete (o : PartialOptions) : Options where
  errorBudget := o.errorBudget.getD none
  stopOnError := o.stopOnError.getD false
  retainFreed := o.retainFreed.getD none

/-- An error budget. -/
def readBudget : Input → Except ReadError (Option Nat × Input) :=
  readOf (Decode.optional Decode.halfWord)

/-- Whether freed objects are kept in mind. -/
def readRetainFreed : Input → Except ReadError (Option Bool × Input) :=
  readOf (Decode.optional Decode.bool)

/-- A field of the settings. -/
def readOptionField (o : PartialOptions) (key : String) (s : Input) :
    Except ReadError (PartialOptions × Input) := do
  match key with
  | "error_budget" =>
    let (errorBudget, s) ← readOnce key o.errorBudget readBudget s
    return ({ o with errorBudget }, s)
  | "stop_on_error" =>
    let (stopOnError, s) ← readOnce key o.stopOnError (readOf Decode.bool) s
    return ({ o with stopOnError }, s)
  | "retain_freed" =>
    let (retainFreed, s) ← readOnce key o.retainFreed readRetainFreed s
    return ({ o with retainFreed }, s)
  | _ => return (o, ← skipField s)

/-- The item of an array that comes next, if there is one. -/
def readNextItem {α : Type} (first : Bool) (read : Input → Except ReadError (α × Input))
    (s : Input) : Except ReadError (Option α × Input) := do
  match ← nextItem first s with
  | none => return (none, s)
  | some s =>
    let (a, s) ← read s
    return (some a, s)

/-- The settings in a trace, which may be written without keys. -/
def readOptions (s : Input) : Except ReadError (Options × Input) := do
  match ← readHead s with
  | (.object, s) =>
    let (o, s) ← readFields readOptionField {} s
    return (o.complete, s)
  | (.array, s) =>
    let (errorBudget, s) ← readNextItem true readBudget s
    let (stopOnError, s) ← readNextItem false (readOf Decode.bool) s
    let (retainFreed, s) ← readNextItem false readRetainFreed s
    let s ← closeArray s
    return (PartialOptions.complete { errorBudget, stopOnError, retainFreed }, s)
  | (h, _) => .error (.unfit (.wrongType h "struct TraceConfig"))

/-- What has been read of a trace. -/
structure PartialTrace where
  name : Option String := none
  options : Option Options := none
  operations : Option (List Operation) := none

/-- A field of a trace. -/
def readTraceField (t : PartialTrace) (key : String) (s : Input) :
    Except ReadError (PartialTrace × Input) := do
  match key with
  | "name" =>
    let (name, s) ← readOnce key t.name (readOf Decode.string) s
    return ({ t with name }, s)
  | "config" =>
    let (options, s) ← readOnce key t.options readOptions s
    return ({ t with options }, s)
  | "ops" =>
    let (operations, s) ← readOnce key t.operations readOperations s
    return ({ t with operations }, s)
  | _ => return (t, ← skipField s)

/-- The trace, if the name and the operations are there; `missing` says what a lack means. -/
def PartialTrace.complete (t : PartialTrace) (missing : (position : Nat) → String → Mismatch) :
    Except ReadError Trace :=
  match t.name, t.operations with
  | none, _ => .error (.unfit (missing 0 "name"))
  | _, none => .error (.unfit (missing 2 "ops"))
  | some name, some operations => .ok { name, options := t.options.getD {}, operations }

/-- A trace, which may be written without keys. -/
def readTrace (s : Input) : Except ReadError (Trace × Input) := do
  match ← readHead s with
  | (.object, s) =>
    let (t, s) ← readFields readTraceField {} s
    return (← t.complete fun _ key => .missingField key, s)
  | (.array, s) =>
    let (name, s) ← readNextItem true (readOf Decode.string) s
    let (options, s) ← readNextItem false readOptions s
    let (operations, s) ← readNextItem false readOperations s
    let t ← PartialTrace.complete { name, options, operations } fun position _ =>
      .wrongLength position "struct Trace with 3 elements"
    return (t, ← closeArray s)
  | (h, _) => .error (.unfit (.wrongType h "struct Trace"))

end Reader

/-- The trace that a text is. -/
def read (s : Input) : Except ReadError Trace := do
  let (t, s) ← Reader.readTrace s
  Json.Reader.expectEnd s
  return t

end MemorySentry.Trace
