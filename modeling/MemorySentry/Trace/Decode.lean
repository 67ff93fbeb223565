import MemorySentry.Json.Record
import MemorySentry.Text.Numeral
import MemorySentry.Trace.Basic

/-!
# Operations of a trace as JSON

An operation is a record with a tag that says which operation it is. Addresses are numbers or texts,
the latter decimal or, after `0x`, hexadecimal.
-/

namespace MemorySentry.Trace

open Json

/-- The address that a text means: decimal digits, or hexadecimal ones after `0x`, with a plus sign
before the digits if one likes. -/
def address? (s : String) : Option Address :=
  let most := UInt64.size - 1
  (match s.toList with
    | '0' :: 'x' :: digits | '0' :: 'X' :: digits => Text.numeralUpTo? 16 most digits
    | digits => Text.numeralUpTo? 10 most digits).map UInt64.ofNat

/-- The address that a value means. -/
def decodeAddress : Json → Except Mismatch Address
  | .number (.natural n) =>
    match Word.ofNat? n with
    | some a => .ok a
    | none => .error (.invalidAddress (toString n))
  | .string s =>
    match address? s with
    | some a => .ok a
    | none => .error (.invalidAddress s)
  | _ => .error (.noForm "RawAddr")

/-- The kinds of objects that a trace can name. -/
def objectKinds : List ObjectKind := [.global, .stack, .heap, .byValue, .custom]

/-- Whether a value says nothing. -/
def isBlankValue : Json → Bool
  | .null | .object [] => true
  | _ => false

/-- The kind of objects that a value names. -/
def decodeKind : Json → Except Mismatch ObjectKind :=
  Decode.variant ObjectKind.jsonName objectKinds isBlankValue

/-- A field with a text. -/
def textField (key : String) : Record String := .required key (Decode.ofHead Decode.string)

/-- A field with an address. -/
def addressField (key : String) : Record Address := .required key decodeAddress

/-- A field with a number of bytes. -/
def sizeField (key : String) : Record ByteCount := .required key (Decode.ofHead Decode.word)

/-- A field with a truth value that is false if it is missing. -/
def flagField (key : String) : Record Bool := .orElse key (Decode.ofHead Decode.bool) false

/-- A field with arguments of a call, of which there are none if it is missing. -/
def argsField : Record (List Address) := .orElse "args" (Decode.list decodeAddress) []

/-- The operations that a trace can name, each with what its fields mean. -/
def knownOperations : List (String × Record Operation) :=
  [("pool_init", .createPool <$> textField "pool"),
    ("pool_destroy", .destroyPool <$> textField "pool"),
    ("register", .register <$> textField "pool" <*> addressField "addr" <*> sizeField "size" <*>
      .orElse "kind" decodeKind .heap),
    ("register_external", .registerExternal <$> addressField "addr" <*> sizeField "size"),
    ("unregister", .free <$> textField "pool" <*> addressField "addr"),
    ("unregister_stack", .endScope <$> textField "pool" <*> addressField "addr"),
    ("reregister", .move <$> textField "pool" <*> addressField "new_addr" <*>
      addressField "old_addr" <*> sizeField "size"),
    ("check", .checkAccess <$> textField "pool" <*> addressField "addr" <*>
      .orElse "len" (Decode.ofHead Decode.word) 1 <*> flagField "complete" <*> flagField "write"),
    ("check_align", .checkAlignment <$> textField "pool" <*> addressField "addr" <*>
      sizeField "element_size"),
    ("check_arithmetic", .checkArithmetic <$> textField "pool" <*> addressField "source" <*>
      addressField "dest" <*> flagField "complete"),
    ("exact_check", .checkDerived <$> addressField "base" <*> addressField "result" <*>
      sizeField "size"),
    ("fast_ls_check", .checkDerivedAccess <$> addressField "base" <*> addressField "result" <*>
      sizeField "size" <*> sizeField "len"),
    ("alloc_call", .allocated <$> textField "pool" <*> textField "callee" <*> argsField <*>
      addressField "ret" <*>
      .orElse "string_len" (Decode.ofHead (Decode.optional Decode.word)) none),
    ("free_call", .deallocated <$> textField "pool" <*> textField "callee" <*> argsField)]

/-- The words of a name with underscores, each with a capital letter. -/
def capitalized (start : Bool) : List Char → List Char
  | [] => []
  | '_' :: rest => capitalized true rest
  | c :: rest => (if start then c.toUpper else c) :: capitalized false rest

/-- What a message calls an operation that is written as an array. -/
def arrayName (name : String) : String :=
  "struct variant TraceOp::" ++ String.ofList (capitalized true name.toList)

/-- The operation that a tag names. -/
def decodeTag : Head → Except Mismatch (String × Record Operation)
  | .string s => Decode.named Prod.fst knownOperations s
  | h => .error (.wrongType h "variant identifier")

end MemorySentry.Trace
