import MemorySentry.Json.Decode

/-!
# Records

A record is an object with known fields. Its fields are looked at in the order in which they were
written, whatever their order in the record, and the first one that does not fit counts; fields that
are missing are noticed last. Fields that are not known mean nothing. A record may also be written
as an array of its fields in their own order, without the keys.
-/

namespace MemorySentry.Json

/-- What is known about a field of a record. -/
structure Field where
  /-- The key. -/
  key : String
  /-- Whether the field has to be there. -/
  required : Bool
  /-- Whether a value fits the field. -/
  check : Json → Except Mismatch Unit

/-- A way to make something of the fields of an object. -/
structure Record (α : Type) where
  /-- The known fields in their order. -/
  fields : List Field
  /-- What fields mean that fit. -/
  build : List (String × Json) → Except Mismatch α

namespace Record

/-- The first value written for a key. -/
def find? (key : String) (written : List (String × Json)) : Option Json :=
  (written.find? fun f => f.1 == key).map Prod.snd

/-- A field that has to be there. -/
def required {α : Type} (key : String) (decode : Json → Except Mismatch α) : Record α where
  fields := [⟨key, true, fun v => do let _ ← decode v⟩]
  build written :=
    match find? key written with
    | some v => decode v
    | none => .error (.missingField key)

/-- A field that may be missing. -/
def orElse {α : Type} (key : String) (decode : Json → Except Mismatch α) (absent : α) :
    Record α where
  fields := [⟨key, false, fun v => do let _ ← decode v⟩]
  build written :=
    match find? key written with
    | some v => decode v
    | none => .ok absent

/-- Something that depends on no field. -/
def const {α : Type} (a : α) : Record α where
  fields := []
  build _ := .ok a

/-- What a function of some fields makes of further fields. -/
def apply {α β : Type} (f : Record (α → β)) (x : Record α) : Record β where
  fields := f.fields ++ x.fields
  build written := do
    let f ← f.build written
    return f (← x.build written)

instance : Applicative Record where
  pure := const
  seq f x := f.apply (x ())

/-- Looks at fields in the order in which they were written; `seen` are the keys of those before
them. -/
def checkWritten (known : List Field) (seen : List String) :
    List (String × Json) → Except Mismatch Unit
  | [] => .ok ()
  | (key, v) :: rest =>
    match known.find? fun f => f.key == key with
    | none => checkWritten known seen rest
    | some f =>
      if key ∈ seen then .error (.repeatedField key)
      else do
        f.check v
        checkWritten known (key :: seen) rest

/-- What the fields of an object mean. -/
def ofFields {α : Type} (r : Record α) (written : List (String × Json)) : Except Mismatch α := do
  checkWritten r.fields [] written
  r.build written

/-- Gives keys to items in the order of the record. Items beyond the last field are refused, and so
is their lack where a field is required. `count` items have been given keys before. -/
def keyed (wanted : String) (count : Nat) :
    List Field → List Json → Except Mismatch (List (String × Json))
  | [], [] => .ok []
  | [], items =>
    .error (.wrongLength (count + items.length)
      (toString count ++ if count = 1 then " element in sequence" else " elements in sequence"))
  | f :: known, [] =>
    if f.required then .error (.wrongLength count wanted) else keyed wanted (count + 1) known []
  | f :: known, v :: items => do
    f.check v
    return (f.key, v) :: (← keyed wanted (count + 1) known items)

/-- What a message calls a record that is written as an array. -/
def wantedArray {α : Type} (r : Record α) (name : String) : String :=
  let n := r.fields.length
  name ++ " with " ++ toString n ++ if n = 1 then " element" else " elements"

/-- What the items of an array mean. -/
def ofItems {α : Type} (r : Record α) (name : String) (items : List Json) :
    Except Mismatch α := do
  r.build (← keyed (r.wantedArray name) 0 r.fields items)

end Record

end MemorySentry.Json
