import MemorySentry.Json.Reader.Numeral
import MemorySentry.Text.Numeral

/-!
# Strings in JSON text

A string is read up to its closing quote. Control characters must be escaped; `\u` escapes name
UTF-16 units, of which a leading and a trailing surrogate have to stand together. Bytes that belong
to no character spoil a string, which shows when the string ends.
-/

namespace MemorySentry.Json.Reader

/-- The number of bytes of a symbol. -/
def symbolSize : Option Char → Nat
  | some c => c.utf8Size
  | none => 1

/-- Whether a text has a number of bytes or more. -/
def hasBytes : (count : Nat) → Input → Bool
  | 0, _ => true
  | _ + 1, [] => false
  | count + 1, x :: rest => hasBytes (count + 1 - symbolSize x) rest

/-- The value of a hexadecimal digit. -/
def hexDigit? (x : Option Char) : Option Nat :=
  x.bind (Text.digitValue? 16)

/-- A UTF-16 unit, after `\u`. Four bytes are taken from the text before they are looked at. -/
def readUnit (s : Input) : Except ReadError (Nat × Input) :=
  if !hasBytes 4 s then .error .truncated
  else
    match s with
    | a :: b :: c :: d :: rest =>
      match hexDigit? a, hexDigit? b, hexDigit? c, hexDigit? d with
      | some a, some b, some c, some d => .ok (((a * 16 + b) * 16 + c) * 16 + d, rest)
      | _, _, _, _ => .error .malformed
    | _ => .error .malformed

/-- Whether a UTF-16 unit is a leading surrogate. -/
def isLeading (unit : Nat) : Bool :=
  0xd800 ≤ unit && unit ≤ 0xdbff

/-- Whether a UTF-16 unit is a trailing surrogate. -/
def isTrailing (unit : Nat) : Bool :=
  0xdc00 ≤ unit && unit ≤ 0xdfff

/-- A symbol that has to come next. -/
def expectSymbol (c : Char) : Input → Except ReadError Input
  | [] => .error .truncated
  | x :: rest => if x = some c then .ok rest else .error .malformed

/-- The character of a `\u` escape, after `\u`. A leading surrogate takes the next escape along. -/
def readUnicode (s : Input) : Except ReadError (Char × Input) := do
  let (unit, s) ← readUnit s
  if isTrailing unit then .error .malformed
  else if isLeading unit then
    let s ← expectSymbol '\\' s
    let s ← expectSymbol 'u' s
    let (trailing, s) ← readUnit s
    if isTrailing trailing then
      return (Char.ofNat (0x10000 + (unit - 0xd800) * 0x400 + (trailing - 0xdc00)), s)
    else .error .malformed
  else return (Char.ofNat unit, s)

/-- The character that a letter after a backslash stands for. -/
def escaped? : Option Char → Option Char
  | some '"' => some '"'
  | some '\\' => some '\\'
  | some '/' => some '/'
  | some 'b' => some '\x08'
  | some 'f' => some '\x0c'
  | some 'n' => some '\n'
  | some 'r' => some '\r'
  | some 't' => some '\t'
  | _ => none

/-- The character of an escape, after the backslash. -/
def readEscape : Input → Except ReadError (Char × Input)
  | [] => .error .truncated
  | x :: rest =>
    match escaped? x with
    | some c => .ok (c, rest)
    | none => if x = some 'u' then readUnicode rest else .error .malformed

/-- An escape whose character does not matter, after the backslash. -/
def skipEscape : Input → Except ReadError Input
  | [] => .error .truncated
  | x :: rest =>
    if (escaped? x).isSome then .ok rest
    else if x = some 'u' then return (← readUnit rest).2
    else .error .malformed

/-- Whether a symbol must not stand in a string as it is. -/
def isControl : Option Char → Bool
  | some c => c.toNat < 0x20
  | none => false

/-- The characters up to the closing quote, at most as many as `bound` has symbols. `sound` says
whether no stray byte has come yet. -/
def readCharsUpTo (sound : Bool) : (bound : Input) → Input → Except ReadError (List Char × Input)
  | [], _ => .error .truncated
  | _, [] => .error .truncated
  | _ :: _, some '"' :: rest => if sound then .ok ([], rest) else .error .malformed
  | _ :: bound, some '\\' :: rest => do
    let (c, rest) ← readEscape rest
    let (cs, rest) ← readCharsUpTo sound bound rest
    return (c :: cs, rest)
  | _ :: bound, none :: rest => readCharsUpTo false bound rest
  | _ :: bound, some c :: rest =>
    if isControl (some c) then .error .malformed
    else do
      let (cs, rest) ← readCharsUpTo sound bound rest
      return (c :: cs, rest)

/-- The characters of a string, after the opening quote. Each takes a symbol or more, so that the
text itself bounds their number. -/
def readString (s : Input) : Except ReadError (String × Input) := do
  let (cs, rest) ← readCharsUpTo true s s
  return (String.ofList cs, rest)

/-- The text after the closing quote, at most as many characters on as `bound` has symbols. -/
def skipCharsUpTo : (bound : Input) → Input → Except ReadError Input
  | [], _ => .error .truncated
  | _, [] => .error .truncated
  | _ :: _, some '"' :: rest => .ok rest
  | _ :: bound, some '\\' :: rest => do skipCharsUpTo bound (← skipEscape rest)
  | _ :: bound, x :: rest => if isControl x then .error .malformed else skipCharsUpTo bound rest

/-- The text after a string whose characters do not matter, after the opening quote. -/
def skipString (s : Input) : Except ReadError Input :=
  skipCharsUpTo s s

end MemorySentry.Json.Reader
