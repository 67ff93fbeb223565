import MemorySentry.Files.Error

/-!
# Paths

The text of a path: its steps, which are separated by slashes, and the beginnings of it that are
paths to the folders on its way.
-/

namespace MemorySentry

namespace Path

/-- The name of the root. -/
def rootName : String := "/"

/-- The step to the folder above. -/
def upward : String := ".."

/-- The greatest number of bytes in a name. -/
def longestName : Nat := 255

/-- The greatest number of bytes in a path. -/
def longestPath : Nat := 4095

/-- The parts of a text between slashes. -/
def splitSlashes : List Char → List (List Char)
  | [] => [[]]
  | '/' :: rest => [] :: splitSlashes rest
  | c :: rest =>
    match splitSlashes rest with
    | [] => [[c]]
    | part :: parts => (c :: part) :: parts

/-- The steps of a path; a blank one leads nowhere. -/
def steps (path : String) : List String :=
  ((splitSlashes path.toList).map String.ofList).filter fun name => name ≠ ""

/-- Whether a path leads from the root. -/
def isAbsolute (path : String) : Bool :=
  path.toList.head? == some '/'

/-- Whether a path ends in a slash, so that it can only lead to a folder. -/
def wantsFolder (path : String) : Bool :=
  path.toList.getLast? == some '/'

/-- Whether a text can be a path at all. -/
def check (path : String) : Except FileError Unit :=
  if '\x00' ∈ path.toList then .error .nulInName
  else if longestPath < path.utf8ByteSize then .error .nameTooLong
  else if path = "" then .error .missing
  else .ok ()

/-- The beginnings of a path that end with one of its steps, after what has been read of it, the
longest first. A step that stays where it is counts only at the very start. -/
def beginningsAfter (before : List Char) (first : Bool) : List (List Char) → List (List Char)
  | [] => []
  | part :: rest =>
    let path := before ++ part
    let longer := beginningsAfter (path ++ ['/']) false rest
    if part = [] ∨ (part = ['.'] ∧ ¬ first) then longer else longer ++ [path]

/-- The beginnings of a path that end with one of its steps, the longest first. -/
def beginnings (path : String) : List String :=
  (beginningsAfter [] true (splitSlashes path.toList)).map String.ofList

/-- The paths of the folders around something, the nearest first. -/
def around (path : String) : List String :=
  (beginnings path).drop 1

end Path

end MemorySentry
