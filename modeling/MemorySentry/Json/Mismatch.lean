import MemorySentry.Json.Printer
import MemorySentry.Text.Quoted

/-!
# Values of the wrong shape

A value may be JSON and still not be what a reader wanted. A `Mismatch` says what was found and what
was wanted instead.
-/

namespace MemorySentry.Json

/-- A value as far as its first character tells, without items and fields. -/
inductive Head where
  | null
  | bool (b : Bool)
  | number (n : Number)
  | string (s : String)
  | array
  | object
deriving DecidableEq

/-- The head of a value. -/
def head : Json → Head
  | .null => .null
  | .bool b => .bool b
  | .number n => .number n
  | .string s => .string s
  | .array _ => .array
  | .object _ => .object

/-- A word between the marks that set it off in messages. -/
def ticked (s : String) : String :=
  "\x60" ++ s ++ "\x60"

/-- What was found, in messages. -/
def Head.describe : Head → String
  | .null => "null"
  | .bool b => "boolean " ++ ticked (if b then "true" else "false")
  | .number (.float x) => "floating point " ++ ticked (String.ofList (Number.float x).write)
  | .number n => "integer " ++ ticked (String.ofList n.write)
  | .string s => "string " ++ Text.quoted s
  | .array => "sequence"
  | .object => "map"

/-- Why a value is not what was wanted. -/
inductive Mismatch where
  /-- The value is of another type than the one wanted. -/
  | wrongType (found : Head) (wanted : String)
  /-- The value is of the type wanted, but not one of its values. -/
  | wrongValue (found : Head) (wanted : String)
  /-- There are too few or too many items. -/
  | wrongLength (found : Nat) (wanted : String)
  /-- A field is missing. -/
  | missingField (name : String)
  /-- A field is there twice. -/
  | repeatedField (name : String)
  /-- A name is none of those that are known. -/
  | unknownVariant (name : String) (known : List String)
  /-- The value has none of the forms of something. -/
  | noForm (wanted : String)
  /-- A text is no address. -/
  | invalidAddress (text : String)
deriving DecidableEq

/-- The wording of a mismatch. -/
def Mismatch.message : Mismatch → String
  | .wrongType found wanted => "invalid type: " ++ found.describe ++ ", expected " ++ wanted
  | .wrongValue found wanted => "invalid value: " ++ found.describe ++ ", expected " ++ wanted
  | .wrongLength found wanted => "invalid length " ++ toString found ++ ", expected " ++ wanted
  | .missingField name => "missing field " ++ ticked name
  | .repeatedField name => "duplicate field " ++ ticked name
  | .unknownVariant name known =>
    "unknown variant " ++ ticked name ++ ", expected one of " ++
      ", ".intercalate (known.map ticked)
  | .noForm wanted => "data did not match any variant of untagged enum " ++ wanted
  | .invalidAddress text => "invalid address '" ++ text ++ "'"

/-- Why a text could not be read. -/
inductive ReadError where
  /-- The text ends too early. -/
  | truncated
  /-- The text is no JSON. -/
  | malformed
  /-- The text is JSON, but not what was wanted. -/
  | unfit (m : Mismatch)
deriving DecidableEq

end MemorySentry.Json
