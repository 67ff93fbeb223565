import MemorySentry.Json.Reader.Structure

/-!
# JSON values in text

A value of any shape, the head of a value whose shape is decided by the reader, and a value that
nobody wants. Only the first has a limit on how deep arrays and objects may nest.
-/

namespace MemorySentry.Json

/-- How deep arrays and objects may nest. -/
def mostLevels : Nat := 127

namespace Reader

/-- The head of a value and the text after it. Of an array or an object only the bracket is read. -/
def readHead (s : Input) : Except ReadError (Head × Input) := do
  match ← nextSymbol s with
  | (some 'n', s) => return (.null, ← expectWord ['u', 'l', 'l'] s)
  | (some 't', s) => return (.bool true, ← expectWord ['r', 'u', 'e'] s)
  | (some 'f', s) => return (.bool false, ← expectWord ['a', 'l', 's', 'e'] s)
  | (some '"', s) => return (← readString s).map .string id
  | (some '[', s) => return (.array, s)
  | (some '\x7b', s) => return (.object, s)
  | (some '-', s) => return (← readNumber true s).map .number id
  | (x, s) =>
    if (digit? x).isSome then return (← readNumber false (x :: s)).map .number id
    else .error .malformed

/-- A value that nests at most `levels` deep, and the text after it. -/
def readValue : (levels : Nat) → Input → Except ReadError (Json × Input)
  | levels, s => do
    match ← readHead s with
    | (.null, s) => return (.null, s)
    | (.bool b, s) => return (.bool b, s)
    | (.number n, s) => return (.number n, s)
    | (.string t, s) => return (.string t, s)
    | (.array, s) =>
      match levels with
      | 0 => .error .malformed
      | levels + 1 =>
        let (items, s) ← readItems (fun items s => do
          let (v, s) ← readValue levels s
          return (v :: items, s)) [] s
        return (.array items.reverse, s)
    | (.object, s) =>
      match levels with
      | 0 => .error .malformed
      | levels + 1 =>
        let (fields, s) ← readFields (fun fields key s => do
          let (v, s) ← readValue levels (← afterColon s)
          return ((key, v) :: fields, s)) [] s
        return (.object fields.reverse, s)

/-- The two kinds of values that hold others. -/
inductive Bracket where
  | array
  | object
deriving DecidableEq

/-- The symbol that closes an array or an object. -/
def Bracket.closing : Bracket → Char
  | .array => ']'
  | .object => '\x7d'

/-- The text after a key whose name does not matter and its colon. -/
def skipKey (s : Input) : Except ReadError Input := do
  let (x, s) ← nextSymbol s
  if x = some '"' then afterColon (← skipString s) else .error .malformed

/-- The text after a number whose value does not matter, after its sign. One that ends early is
malformed. -/
def skipNumber (s : Input) : Except ReadError Input :=
  match readNumeral s with
  | .ok (_, rest) => .ok rest
  | .error _ => .error .malformed

/-- The text after a value that holds no others, or after the bracket of one that does. -/
def skipHead (s : Input) : Except ReadError (Option Bracket × Input) := do
  match ← nextSymbol s with
  | (some 'n', s) => return (none, ← expectWord ['u', 'l', 'l'] s)
  | (some 't', s) => return (none, ← expectWord ['r', 'u', 'e'] s)
  | (some 'f', s) => return (none, ← expectWord ['a', 'l', 's', 'e'] s)
  | (some '"', s) => return (none, ← skipString s)
  | (some '[', s) => return (some .array, s)
  | (some '\x7b', s) => return (some .object, s)
  | (some '-', s) => return (none, ← skipNumber s)
  | (x, s) => if (digit? x).isSome then return (none, ← skipNumber (x :: s)) else .error .malformed

/-- What may come next while a value is skipped. -/
inductive Expected where
  /-- A value. -/
  | value
  /-- The first item or field of an array or an object, or its end. -/
  | first
  /-- A comma or the end of an array or an object. -/
  | next
deriving DecidableEq

/-- The text after the rest of a value, at most as many steps on as `bound` has symbols. The
brackets are those that are still open, the innermost one first. -/
def skipUpTo : (bound : Input) → List Bracket → Expected → Input → Except ReadError Input
  | [], _, _, _ => .error .truncated
  | _ :: bound, opened, .value, s => do
    match ← skipHead s with
    | (some b, s) => skipUpTo bound (b :: opened) .first s
    | (none, s) =>
      match opened with
      | [] => return s
      | _ :: _ => skipUpTo bound opened .next s
  | _ :: _, [], _, s => .ok s
  | _ :: bound, b :: opened, expected, s => do
    let (x, rest) ← nextSymbol s
    if x = some b.closing then
      match opened with
      | [] => return rest
      | _ :: _ => skipUpTo bound opened .next rest
    else
      let s ← match expected with
        | .next => if x = some ',' then .ok rest else .error .malformed
        | _ => .ok (x :: rest)
      let s ← match b with
        | .array => .ok s
        | .object => skipKey s
      skipUpTo bound (b :: opened) .value s

/-- The text after a value of any depth that nobody wants. -/
def skipValue (s : Input) : Except ReadError Input :=
  skipUpTo (none :: s ++ s) [] .value s

/-- The end of a text: nothing but white space is left. -/
def expectEnd (s : Input) : Except ReadError Unit :=
  match skipSpace s with
  | [] => .ok ()
  | _ :: _ => .error .malformed

end Reader

/-- The value that a text is. -/
def read (s : Input) : Except ReadError Json := do
  let (v, s) ← Reader.readValue mostLevels s
  Reader.expectEnd s
  return v

end MemorySentry.Json
