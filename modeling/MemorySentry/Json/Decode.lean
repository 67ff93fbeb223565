import MemorySentry.Json.Mismatch

/-!
# Values of a given type

What a value is taken for: a text, a truth value, a natural number up to a limit, one of several
names. Most are decided by the head of a value, so that a reader of text and a reader of values
agree.
-/

namespace MemorySentry.Json.Decode

/-- The text that a value is. -/
def string : Head → Except Mismatch String
  | .string s => .ok s
  | h => .error (.wrongType h "a string")

/-- The truth value that a value is. -/
def bool : Head → Except Mismatch Bool
  | .bool b => .ok b
  | h => .error (.wrongType h "a boolean")

/-- The natural number that a value is, if it is at most `most`. -/
def natUpTo (most : Nat) (wanted : String) : Head → Except Mismatch Nat
  | .number (.natural n) =>
    if n ≤ most then .ok n else .error (.wrongValue (.number (.natural n)) wanted)
  | .number (.negative n) => .error (.wrongValue (.number (.negative n)) wanted)
  | h => .error (.wrongType h wanted)

/-- The number of 64 bits that a value is. -/
def word (h : Head) : Except Mismatch UInt64 :=
  UInt64.ofNat <$> natUpTo (UInt64.size - 1) "usize" h

/-- The number of 32 bits that a value is. -/
def halfWord (h : Head) : Except Mismatch Nat :=
  natUpTo (UInt32.size - 1) "u32" h

/-- A value that may be `null`. -/
def optional {α : Type} (decode : Head → Except Mismatch α) : Head → Except Mismatch (Option α)
  | .null => .ok none
  | h => some <$> decode h

/-- The member of a list that has a name. -/
def named {α : Type} (name : α → String) (all : List α) (s : String) : Except Mismatch α :=
  match all.find? fun a => name a == s with
  | some a => .ok a
  | none => .error (.unknownVariant s (all.map name))

/-- The member of a list that a value names: a text, or an object whose only key is the name and
whose value says nothing more, as `blank` decides. -/
def variant {α : Type} (name : α → String) (all : List α) (blank : Json → Bool) :
    Json → Except Mismatch α
  | .string s => named name all s
  | .object [(key, v)] => do
    let a ← named name all key
    if blank v then return a else .error (.wrongType v.head "unit")
  | .object _ => .error (.wrongValue .object "map with a single key")
  | v => .error (.wrongType v.head "string or map")

/-- What a value means if its head tells all. -/
def ofHead {α : Type} (decode : Head → Except Mismatch α) (v : Json) : Except Mismatch α :=
  decode v.head

/-- The items of an array, each of which means something. -/
def list {α : Type} (decode : Json → Except Mismatch α) : Json → Except Mismatch (List α)
  | .array items => items.mapM decode
  | v => .error (.wrongType v.head "a sequence")

end MemorySentry.Json.Decode
