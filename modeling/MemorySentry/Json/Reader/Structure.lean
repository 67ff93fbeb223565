import MemorySentry.Json.Reader.Quoted

/-!
# Arrays and objects in JSON text

An array is read item by item and an object field by field, by a function that reads one of them and
adds it to what has been read so far. So a reader that wants something in particular stops at the
first item that is not what it wants, and does not look at the text after it.
-/

namespace MemorySentry.Json.Reader

/-- Whether a symbol is white space between values. -/
def isSpace : Option Char → Bool
  | some ' ' | some '\n' | some '\t' | some '\r' => true
  | _ => false

/-- The text without white space before it. -/
def skipSpace (s : Input) : Input :=
  s.dropWhile isSpace

/-- The first symbol after white space and the text after it. -/
def nextSymbol (s : Input) : Except ReadError (Option Char × Input) :=
  match skipSpace s with
  | [] => .error .truncated
  | x :: rest => .ok (x, rest)

/-- The characters that have to come next. -/
def expectWord : List Char → Input → Except ReadError Input
  | [], s => .ok s
  | c :: word, s => do expectWord word (← expectSymbol c s)

/-- The text from the next item of an array on, none at the end of the array. Items are separated by
commas, and there is no comma at the end. -/
def nextItem (first : Bool) (s : Input) : Except ReadError (Option Input) := do
  let s := skipSpace s
  let (x, rest) ← nextSymbol s
  if x = some ']' then return none
  else if first then return some s
  else if x = some ',' then
    let rest := skipSpace rest
    let (x, _) ← nextSymbol rest
    if x = some ']' then .error .malformed else return some rest
  else .error .malformed

/-- The key that has to come next. -/
def readKey (s : Input) : Except ReadError (String × Input) := do
  let (x, rest) ← nextSymbol s
  if x = some '"' then readString rest else .error .malformed

/-- The key of the next field of an object and the text after it, none at the end of the object. -/
def nextKey (first : Bool) (s : Input) : Except ReadError (Option (String × Input)) := do
  let (x, rest) ← nextSymbol s
  if x = some '\x7d' then return none
  else if first then return some (← readKey s)
  else if x = some ',' then return some (← readKey rest)
  else .error .malformed

/-- The text after the colon of a field. -/
def afterColon (s : Input) : Except ReadError Input := do
  let (x, rest) ← nextSymbol s
  if x = some ':' then return rest else .error .malformed

/-- The text after the bracket that closes an array. -/
def closeArray (s : Input) : Except ReadError Input := do
  let (x, rest) ← nextSymbol s
  if x = some ']' then return rest else .error .malformed

/-- The text after the brace that closes an object. -/
def closeObject (s : Input) : Except ReadError Input := do
  let (x, rest) ← nextSymbol s
  if x = some '\x7d' then return rest else .error .malformed

/-- Reads the items of an array up to its end, at most as many as `bound` has symbols. -/
def readItemsUpTo {α : Type} (item : α → Input → Except ReadError (α × Input)) :
    (bound : Input) → (first : Bool) → α → Input → Except ReadError (α × Input)
  | [], _, _, _ => .error .truncated
  | _ :: bound, first, a, s => do
    match ← nextItem first s with
    | none => return (a, ← closeArray s)
    | some s =>
      let (a, s) ← item a s
      readItemsUpTo item bound false a s

/-- Reads the items of an array, after its bracket. Each item takes a symbol or more, so that the
text itself bounds their number. -/
def readItems {α : Type} (item : α → Input → Except ReadError (α × Input)) (a : α) (s : Input) :
    Except ReadError (α × Input) :=
  readItemsUpTo item s true a s

/-- Reads the fields of an object up to its end, at most as many as `bound` has symbols. -/
def readFieldsUpTo {α : Type} (field : α → String → Input → Except ReadError (α × Input)) :
    (bound : Input) → (first : Bool) → α → Input → Except ReadError (α × Input)
  | [], _, _, _ => .error .truncated
  | _ :: bound, first, a, s => do
    match ← nextKey first s with
    | none => return (a, ← closeObject s)
    | some (key, s) =>
      let (a, s) ← field a key s
      readFieldsUpTo field bound false a s

/-- Reads the fields of an object, after its brace. `field` is given a key and the text from the
colon on. -/
def readFields {α : Type} (field : α → String → Input → Except ReadError (α × Input)) (a : α)
    (s : Input) : Except ReadError (α × Input) :=
  readFieldsUpTo field s true a s

end MemorySentry.Json.Reader
