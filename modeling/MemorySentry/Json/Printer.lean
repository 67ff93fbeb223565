import MemorySentry.Json.Basic

/-!
# JSON text

Two ways of writing a value: on one line without blanks, and with one field or item a line, two
blanks deeper at each level. Neither writes a line break inside a string, so the first form of a
value is always one line.
-/

namespace MemorySentry.Json

/-- The two lower-case hexadecimal digits of a number below 256. -/
def hexPair (n : Nat) : List Char :=
  [Nat.digitChar (n / 16), Nat.digitChar (n % 16)]

/-- A character inside a string: the quote, the backslash and the control characters are escaped,
the common ones by a letter. -/
def escapeChar (c : Char) : List Char :=
  if c = '"' then ['\\', '"']
  else if c = '\\' then ['\\', '\\']
  else if c = '\x08' then ['\\', 'b']
  else if c = '\x0c' then ['\\', 'f']
  else if c = '\n' then ['\\', 'n']
  else if c = '\r' then ['\\', 'r']
  else if c = '\t' then ['\\', 't']
  else if c.toNat < 32 then ['\\', 'u', '0', '0'] ++ hexPair c.toNat
  else [c]

/-- The characters of a string, escaped. -/
def escape : List Char → List Char
  | [] => []
  | c :: rest => escapeChar c ++ escape rest

/-- A string between quotes. -/
def quote (s : String) : List Char :=
  '"' :: escape s.toList ++ ['"']

/-- Numbers keep a point, or an exponent from 10^16 on and below 10^-5; the exponent has a sign. -/
def floatLayout : Decimal.Layout where
  leastPlain := -5
  greatestPlain := 15
  positiveMark := ['e', '+']
  negativeMark := ['e', '-']

/-- The text of a number. -/
def Number.write : Number → List Char
  | .natural n => Nat.toDigits 10 n
  | .negative n => '-' :: Nat.toDigits 10 (n + 1)
  | .float x => x.write floatLayout

mutual

/-- The value on one line. -/
def write : Json → List Char
  | .null => ['n', 'u', 'l', 'l']
  | .bool true => ['t', 'r', 'u', 'e']
  | .bool false => ['f', 'a', 'l', 's', 'e']
  | .number n => n.write
  | .string s => quote s
  | .array [] => ['[', ']']
  | .array (v :: rest) => '[' :: v.write ++ writeItems rest
  | .object [] => ['{', '}']
  | .object ((k, v) :: rest) => '{' :: quote k ++ ':' :: v.write ++ writeFields rest

/-- The items after the first, and the closing bracket. -/
def writeItems : List Json → List Char
  | [] => [']']
  | v :: rest => ',' :: v.write ++ writeItems rest

/-- The fields after the first, and the closing brace. -/
def writeFields : List (String × Json) → List Char
  | [] => ['}']
  | (k, v) :: rest => ',' :: quote k ++ ':' :: v.write ++ writeFields rest

end

/-- The value on one line. -/
def render (v : Json) : String :=
  String.ofList v.write

/-- A new line at a depth. -/
def lineBreak (depth : Nat) : List Char :=
  '\n' :: List.replicate (2 * depth) ' '

mutual

/-- The value over several lines, from a line at the given depth on. -/
def writeIndented (depth : Nat) : Json → List Char
  | .array (v :: rest) =>
    '[' :: lineBreak (depth + 1) ++ v.writeIndented (depth + 1) ++ writeItemsIndented depth rest
  | .object ((k, v) :: rest) =>
    '{' :: lineBreak (depth + 1) ++ quote k ++ ':' :: ' ' :: v.writeIndented (depth + 1) ++
      writeFieldsIndented depth rest
  | v => v.write

/-- The items after the first, one a line, and the closing bracket on its own line. -/
def writeItemsIndented (depth : Nat) : List Json → List Char
  | [] => lineBreak depth ++ [']']
  | v :: rest =>
    ',' :: lineBreak (depth + 1) ++ v.writeIndented (depth + 1) ++ writeItemsIndented depth rest

/-- The fields after the first, one a line, and the closing brace on its own line. -/
def writeFieldsIndented (depth : Nat) : List (String × Json) → List Char
  | [] => lineBreak depth ++ ['}']
  | (k, v) :: rest =>
    ',' :: lineBreak (depth + 1) ++ quote k ++ ':' :: ' ' :: v.writeIndented (depth + 1) ++
      writeFieldsIndented depth rest

end

/-- The value over several lines. -/
def renderIndented (v : Json) : String :=
  String.ofList (v.writeIndented 0)

end MemorySentry.Json
