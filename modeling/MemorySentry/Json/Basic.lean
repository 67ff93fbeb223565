import MemorySentry.Binary64.Shortest

/-!
# JSON values

A value as a document writes it: the fields of an object stand in the order of the text, and a key
may come more than once. `Json.normalize` gives the object that the fields describe, with sorted
keys and the last of the values written for a key.
-/

namespace MemorySentry

/-- A JSON number. Integers of at most 64 bits are exact; every other number is binary. -/
inductive Json.Number where
  /-- The integer `n`. -/
  | natural (n : Nat)
  /-- The integer `-(n + 1)`. -/
  | negative (n : Nat)
  /-- A number with a fraction or an exponent, or an integer that is too large. -/
  | float (x : Binary64)
deriving DecidableEq

/-- A JSON value. -/
inductive Json where
  | null
  | bool (b : Bool)
  | number (n : Json.Number)
  | string (s : String)
  | array (items : List Json)
  | object (fields : List (String × Json))

namespace Json

/-- A natural number as a JSON value. -/
def nat (n : Nat) : Json := .number (.natural n)

/-- A word as a JSON value. -/
def word (w : UInt64) : Json := nat w.toNat

/-- `null` in the absence of a value. -/
def ofOption {α : Type} (f : α → Json) : Option α → Json
  | none => .null
  | some a => f a

/-- Puts a field at its place among fields in ascending order of keys. A field with the same key is
replaced. -/
def insertField {α : Type} (key : String) (value : α) : List (String × α) → List (String × α)
  | [] => [(key, value)]
  | f :: rest =>
    if key < f.1 then (key, value) :: f :: rest
    else if f.1 < key then f :: insertField key value rest
    else (key, value) :: rest

/-- The fields in ascending order of keys, each with the last of its values. -/
def sortFields {α : Type} (fields : List (String × α)) : List (String × α) :=
  fields.foldl (fun acc f => insertField f.1 f.2 acc) []

mutual

/-- The value with the fields of all its objects sorted, and the last value of each key. -/
def normalize : Json → Json
  | .null => .null
  | .bool b => .bool b
  | .number n => .number n
  | .string s => .string s
  | .array items => .array (normalizeItems items)
  | .object fields => .object (sortFields (normalizeFields fields))

/-- The normalized items of an array. -/
def normalizeItems : List Json → List Json
  | [] => []
  | v :: rest => v.normalize :: normalizeItems rest

/-- The fields of an object with normalized values, in the same order. -/
def normalizeFields : List (String × Json) → List (String × Json)
  | [] => []
  | (k, v) :: rest => (k, v.normalize) :: normalizeFields rest

end

/-- The last value written for a key. -/
def get? (key : String) (fields : List (String × Json)) : Option Json :=
  (fields.reverse.find? fun f => f.1 == key).map Prod.snd

end Json

end MemorySentry
