import MemorySentry.CommandLine.Execution
import Std.Time.DateTime

/-!
# The program

Runs a command on the files of the computer it is started on.
-/

namespace MemorySentry.CommandLine

/-- A refusal of the operating system. -/
def refusal (number : UInt32) (kind description : String) : FileError :=
  match number.toNat with
  | 2 => .missing
  | 17 => .exists
  | 20 => .notDirectory
  | 21 => .isDirectory
  | 28 => .full
  | 36 => .nameTooLong
  | n => .refused n kind description

/-- Why a file was refused. -/
def refusalOf (e : IO.Error) : FileError :=
  match e with
  | .noFileOrDirectory .. => .missing
  | .alreadyExists _ number description => refusal number "AlreadyExists" description
  | .permissionDenied _ number _ => refusal number "PermissionDenied" "Permission denied"
  | .inappropriateType _ number description => refusal number "NotADirectory" description
  | .resourceExhausted _ number description => refusal number "Other" description
  | .invalidArgument _ number _ => refusal number "InvalidInput" "Invalid argument"
  | .otherError number description => refusal number "Uncategorized" description
  | e => refusal 0 "Other" (toString e)

/-- Carries out an operation on a file. -/
def attempt {α : Type} (act : IO α) : IO (Except FileError α) := do
  return (← act.toBaseIO).mapError refusalOf

/-- The operations on the files of the computer. -/
def computer : Host IO where
  read path := attempt do return (← IO.FS.readBinFile path).toList
  write path text := attempt (IO.FS.withFile path .write fun file => do
    file.putStr text
    file.flush)
  createFolder path := attempt (IO.FS.createDir path)
  isFolder path := do
    match ← (IO.FS.realPath path).toBaseIO with
    | .ok place => place.isDir
    | .error _ => return false
  print := IO.print
  complain := IO.eprint

end MemorySentry.CommandLine

/-- Runs the command that the arguments mean. All lines of a log carry the time of the start. -/
def main (arguments : List String) : IO UInt32 := do
  let now ← Std.Time.Timestamp.now
  let stamp := MemorySentry.RunLog.timestamp now.toMillisecondsSinceUnixEpoch.toInt.toNat
  MemorySentry.CommandLine.run MemorySentry.CommandLine.computer (fun _ => stamp) arguments
