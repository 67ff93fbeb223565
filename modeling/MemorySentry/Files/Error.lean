import MemorySentry.Text.Quoted

/-!
# Refused files

Why a file could not be read or written, in the words of the operating system.
-/

namespace MemorySentry

/-- Why a file could not be read or written. -/
inductive FileError where
  /-- There is no such file or folder. -/
  | missing
  /-- There is something already where a folder was to be created. -/
  | exists
  /-- Something on the way to the file is no folder. -/
  | notDirectory
  /-- A folder stands where a file is wanted. -/
  | isDirectory
  /-- A name is longer than names can be. -/
  | nameTooLong
  /-- There is no room left. -/
  | full
  /-- A name has the character in it that ends names. -/
  | nulInName
  /-- The operating system refused for another reason. -/
  | refused (number : Nat) (kind description : String)
  /-- The file is no text. -/
  | notText
deriving DecidableEq

namespace FileError

/-- The number by which the operating system explains the refusal, if it was the one to refuse. -/
def number? : FileError → Option Nat
  | .missing => some 2
  | .exists => some 17
  | .notDirectory => some 20
  | .isDirectory => some 21
  | .nameTooLong => some 36
  | .full => some 28
  | .refused number .. => some number
  | .nulInName | .notText => none

/-- The word for the kind of refusal. -/
def kind : FileError → String
  | .missing => "NotFound"
  | .exists => "AlreadyExists"
  | .notDirectory => "NotADirectory"
  | .isDirectory => "IsADirectory"
  | .nameTooLong => "InvalidFilename"
  | .full => "StorageFull"
  | .nulInName => "InvalidInput"
  | .refused _ kind _ => kind
  | .notText => "InvalidData"

/-- The refusal in words. -/
def description : FileError → String
  | .missing => "No such file or directory"
  | .exists => "File exists"
  | .notDirectory => "Not a directory"
  | .isDirectory => "Is a directory"
  | .nameTooLong => "File name too long"
  | .full => "No space left on device"
  | .nulInName => "file name contained an unexpected NUL byte"
  | .refused _ _ description => description
  | .notText => "stream did not contain valid UTF-8"

/-- The refusal in words, with its number. -/
def message (e : FileError) : String :=
  match e.number? with
  | some number => e.description ++ " (os error " ++ toString number ++ ")"
  | none => e.description

/-- The refusal with all that is known about it. -/
def report (e : FileError) : String :=
  match e.number? with
  | some number =>
    "Os \x7b code: " ++ toString number ++ ", kind: " ++ e.kind ++ ", message: " ++
      Text.quoted e.description ++ " \x7d"
  | none =>
    "Error \x7b kind: " ++ e.kind ++ ", message: " ++ Text.quoted e.description ++ " \x7d"

end FileError

end MemorySentry
