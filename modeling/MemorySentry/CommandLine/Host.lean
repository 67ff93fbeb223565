import MemorySentry.Files.Delivery

/-!
# What a command works on

A command reads and writes files and prints text. The operations that do so are given to it, so that
it can work on real files or on files in memory.
-/

namespace MemorySentry.CommandLine

/-- The operations that a command may use. -/
structure Host (m : Type → Type) where
  /-- Reads a file. -/
  read : String → m (Except FileError (List UInt8))
  /-- Writes a text to a file, in place of its content so far. -/
  write : String → String → m (Except FileError Unit)
  /-- Creates a folder in another one. -/
  createFolder : String → m (Except FileError Unit)
  /-- Whether a path leads to a folder. -/
  isFolder : String → m Bool
  /-- Prints a text. -/
  print : String → m Unit
  /-- Writes a text on the standard error stream. -/
  complain : String → m Unit

namespace Host

section

variable {m : Type → Type} [Monad m] (h : Host m)

/-- Creates a folder, unless it is there. -/
def ensureFolder (path : String) : m (Except FileError Unit) := do
  match ← h.createFolder path with
  | .error .exists => return if ← h.isFolder path then .ok () else .error .exists
  | r => return r

/-- Creates a folder, unless it is there. It lies in the first one of some others, which lies in the
second one and so on; these are created only if the folder has no place without them. -/
def createFolders : List String → m (Except FileError Unit)
  | [] => return .ok ()
  | path :: around => do
    match ← h.ensureFolder path with
    | .error .missing =>
      match ← createFolders around with
      | .ok () => h.ensureFolder path
      | r => return r
    | r => return r

/-- Creates the folder in which a file is to be. -/
def createParents (path : String) : m (Except FileError Unit) :=
  h.createFolders (Path.around path)

end

/-- Carries out a change of what has been written. -/
def change (f : Written → Except FileError Written) : StateM Written (Except FileError Unit) :=
  fun w =>
    match f w with
    | .ok w => (.ok (), w)
    | .error e => (.error e, w)

/-- The operations on files in memory. -/
def inMemory : Host (StateM Written) where
  read path := fun w => (w.files.read path, w)
  write path text := change fun w => w.write path text
  createFolder path := change fun w => do
    return { w with files := ← w.files.createFolder path }
  isFolder path := fun w => (w.files.isFolder path, w)
  print text := fun w => ((), w.send .output text)
  complain text := fun w => ((), w.send .error text)

end Host

end MemorySentry.CommandLine
