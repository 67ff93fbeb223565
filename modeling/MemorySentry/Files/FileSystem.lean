import MemorySentry.Files.Path
import MemorySentry.Files.Tree

/-!
# File systems in memory

All files that there are, as a program sees them that starts in one of the folders. Paths are
relative to that folder, or they begin with a slash and lead from the root. A file system stands in
for real files where there are none.
-/

namespace MemorySentry

/-- A file system and the folder in which a program works. -/
structure FileSystem where
  /-- The root of all folders. -/
  root : FileNode := .empty
  /-- The folder that relative paths start from. -/
  here : Route := []

/-- A way down from the root: the names and what they led to, the last one first. -/
abbrev Trail := List (String × FileNode)

/-- The names on a way. -/
def Trail.route (t : Trail) : Route :=
  (t.map Prod.fst).reverse

namespace FileSystem

/-- What a way leads to. -/
def last (s : FileSystem) : Trail → FileNode
  | [] => s.root
  | (_, node) :: _ => node

/-- Looks up a name in a folder. In a fixed folder there is nothing more to come. -/
def lookUp (folder : FileNode) (name : String) : Except FileError (Option FileNode) :=
  if Path.longestName < name.utf8ByteSize then .error .nameTooLong
  else
    match folder, folder.child? name with
    | .folder true _, none => .error .missing
    | _, node => .ok node

/-- Follows steps from the end of a way on, all of which have to lead to folders. There is nothing
above the root. -/
def follow (s : FileSystem) (way : Trail) : List String → Except FileError Trail
  | [] => .ok way
  | "." :: rest => follow s way rest
  | ".." :: rest => follow s way.tail rest
  | name :: rest => do
    match ← lookUp (s.last way) name with
    | some node =>
      if node.isFolder then follow s ((name, node) :: way) rest else .error .notDirectory
    | none => .error .missing

/-- The way to the folder that the last step of a path is taken from, and that step, unless it leads
to a folder by its form. -/
def find (s : FileSystem) (path : String) : Except FileError (Trail × Option String) := do
  Path.check path
  let steps := Path.steps path
  let start := if Path.isAbsolute path then [] else s.here
  let way ← s.follow [] (start ++ steps.dropLast)
  match steps.getLast? with
  | none | some "." | some ".." => return (way, none)
  | some name => return (way, some name)

/-- Puts a node behind a name in the folder at the end of a way. -/
def put (s : FileSystem) (way : Trail) (name : String) (node : FileNode) : FileSystem :=
  { s with root := s.root.put (way.route ++ [name]) node }

/-- Why a device with nothing behind its name cannot be opened. -/
def noDevice : FileError :=
  .refused 6 "Uncategorized" "No such device or address"

/-- The content of a file. -/
def read (s : FileSystem) (path : String) : Except FileError (List UInt8) := do
  match ← s.find path with
  | (_, none) => .error .isDirectory
  | (way, some name) =>
    match ← lookUp (s.last way) name with
    | none => .error .missing
    | some (.folder ..) => .error .isDirectory
    | some (.file content) => if Path.wantsFolder path then .error .notDirectory else return content
    | some (.device d) =>
      if Path.wantsFolder path then .error .notDirectory
      else if d = .absent then .error noDevice
      else return []

/-- Opens something to be written. What only a folder can be is not written, whether it is there or
not. -/
def openFile (s : FileSystem) (path : String) :
    Except FileError (Trail × String × Option FileNode) := do
  match ← s.find path with
  | (_, none) => .error .isDirectory
  | (way, some name) =>
    if Path.wantsFolder path then .error .isDirectory
    else
      match ← lookUp (s.last way) name with
      | some (.folder ..) => .error .isDirectory
      | some (.device .absent) => .error noDevice
      | node => return (way, name, node)

/-- Writes to a file, which is created if it is not there. `keep` says what stays of its content so
far. -/
def writeAfter (s : FileSystem) (keep : List UInt8 → List UInt8) (path : String)
    (content : List UInt8) : Except FileError FileSystem := do
  match ← s.openFile path with
  | (_, _, some (.device .full)) => if content = [] then return s else .error .full
  | (_, _, some (.device _)) => return s
  | (way, name, some (.file before)) => return s.put way name (.file (keep before ++ content))
  | (way, name, _) => return s.put way name (.file content)

/-- Writes a file, in place of its content so far. -/
def write (s : FileSystem) (path : String) (content : List UInt8) : Except FileError FileSystem :=
  s.writeAfter (fun _ => []) path content

/-- Writes at the end of a file. -/
def append (s : FileSystem) (path : String) (content : List UInt8) : Except FileError FileSystem :=
  s.writeAfter id path content

/-- The stream that a path leads to, if it leads to one. -/
def stream? (s : FileSystem) (path : String) : Option Stream :=
  match s.openFile path with
  | .ok (_, _, some (.device (.stream stream))) => some stream
  | _ => none

/-- Creates a folder in another one. -/
def createFolder (s : FileSystem) (path : String) : Except FileError FileSystem := do
  match ← s.find path with
  | (_, none) => .error .exists
  | (way, some name) =>
    match ← lookUp (s.last way) name with
    | some _ => .error .exists
    | none => return s.put way name .empty

/-- Whether a path leads to a folder. -/
def isFolder (s : FileSystem) (path : String) : Bool :=
  match s.find path with
  | .ok (_, none) => true
  | .ok (way, some name) => ((s.last way).child? name).any FileNode.isFolder
  | .error _ => false

/-- All files in the folder in which a program works, with their contents. -/
def files (s : FileSystem) : List (String × List UInt8) :=
  match s.follow [] s.here with
  | .ok way =>
    match s.last way with
    | .folder _ entries => FileNode.filesIn "" entries
    | _ => []
  | .error _ => []

end FileSystem

end MemorySentry
