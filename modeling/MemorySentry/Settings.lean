import MemorySentry.Pool.Basic
import MemorySentry.Text.Blank
import MemorySentry.Text.Numeral
import MemorySentry.Text.Quoted

/-!
# Settings

How a process is watched is set by environment variables. A variable that is absent leaves its
default, and one whose value makes no sense is an error, the first such variable in the order of the
settings counting.
-/

namespace MemorySentry

/-- How alerts are written. -/
inductive AlertFormat where
  /-- As blocks of text. -/
  | text
  /-- As JSON, one line each. -/
  | jsonl
deriving DecidableEq

namespace AlertFormat

/-- The format that a word means; no word at all means text. -/
def ofWord? (raw : String) : Option AlertFormat :=
  match String.ofList (Text.lower (Text.trim raw.toList)) with
  | "text" | "plain" | "" => some .text
  | "jsonl" | "json" => some .jsonl
  | _ => none

/-- The word for a format. -/
def word : AlertFormat → String
  | .text => "text"
  | .jsonl => "jsonl"

end AlertFormat

/-- How a process is watched. -/
structure Settings where
  /-- Whether the first fault ends the process. -/
  stopOnError : Bool := false
  /-- The number of the fault that ends the process. -/
  errorBudget : Nat := 20
  /-- What becomes of freed objects. -/
  retention : Retention := .standard
  /-- The file that alerts are appended to, if not the standard error stream. -/
  logPath : Option String := none
  /-- How alerts are written. -/
  format : AlertFormat := .text
deriving DecidableEq

namespace Settings

/-- The variables that are consulted, in their order. -/
inductive Key where
  | stopOnError
  | errorBudget
  | retainFreed
  | logFile
  | logFormat
deriving DecidableEq

/-- The name of a variable in the environment. -/
def Key.name : Key → String
  | .stopOnError => "POOLGUARD_STOP_ON_ERROR"
  | .errorBudget => "POOLGUARD_ERROR_BUDGET"
  | .retainFreed => "POOLGUARD_RETAIN_FREED"
  | .logFile => "POOLGUARD_LOGFILE"
  | .logFormat => "POOLGUARD_LOG_FORMAT"

/-- A variable whose value makes no sense. -/
structure Error where
  /-- The variable. -/
  key : Key
  /-- Its value, as it was given. -/
  value : String
deriving DecidableEq

/-- The wording of a variable that makes no sense. -/
def Error.message (e : Error) : String :=
  e.key.name ++ "=" ++ Text.quoted e.value ++ " is not a valid value"

/-- The truth value that a word means. -/
def truth? (raw : String) : Option Bool :=
  match String.ofList (Text.lower (Text.trim raw.toList)) with
  | "1" | "true" | "yes" | "on" | "enable" | "enabled" => some true
  | "0" | "false" | "no" | "off" | "disable" | "disabled" => some false
  | _ => none

/-- The error budget that a value means: a number that fits 32 bits and is not zero. -/
def budget? (raw : String) : Option Nat :=
  (Text.numeralUpTo? 10 (UInt32.size - 1) (Text.trim raw.toList)).filter fun n => 0 < n

/-- The retention that a value means: a number of objects that fits 64 bits, or a switch. -/
def retention? (raw : String) : Option Retention :=
  match Text.numeralUpTo? 10 (UInt64.size - 1) (Text.trim raw.toList) with
  | some 0 => some .immediate
  | some n => some (.keep n)
  | none => (truth? raw).map fun on => if on then .standard else .immediate

/-- The value of a variable, read by `read?`; `absent` if the variable is absent. -/
def readVariable {α : Type} (lookup : String → Option String) (key : Key)
    (read? : String → Option α) (absent : α) : Except Error α :=
  match lookup key.name with
  | none => .ok absent
  | some raw =>
    match read? raw with
    | some a => .ok a
    | none => .error ⟨key, raw⟩

/-- The settings that the variables of an environment describe. An empty file name is as good as
none. -/
def ofLookup (lookup : String → Option String) : Except Error Settings := do
  let absent : Settings := {}
  let stopOnError ← readVariable lookup .stopOnError truth? absent.stopOnError
  let errorBudget ← readVariable lookup .errorBudget budget? absent.errorBudget
  let retention ← readVariable lookup .retainFreed retention? absent.retention
  let logPath := (lookup Key.logFile.name).filter fun path => path ≠ ""
  let format ← readVariable lookup .logFormat AlertFormat.ofWord? absent.format
  return { stopOnError, errorBudget, retention, logPath, format }

end Settings

end MemorySentry
