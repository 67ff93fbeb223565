import MemorySentry.Files.Error

/-!
# Trees of files

What a path can lead to: files, devices, and folders that hold more of them.
-/

namespace MemorySentry

/-- A stream of text that a program writes to. -/
inductive Stream where
  /-- The standard output stream. -/
  | output
  /-- The standard error stream. -/
  | error
deriving DecidableEq

/-- A device. There is nothing to be read from it. -/
inductive Device where
  /-- Loses what is written to it. -/
  | discard
  /-- Has no room for anything. -/
  | full
  /-- Stands for a stream of the program. -/
  | stream (s : Stream)
  /-- Has nothing behind its name. -/
  | absent
deriving DecidableEq

/-- What a path leads to. -/
inductive FileNode where
  /-- A file with its content. -/
  | file (content : List UInt8)
  /-- A folder with the names in it, in the order of their creation. Nothing can be created in a
  fixed folder. -/
  | folder (fixed : Bool) (entries : List (String × FileNode))
  /-- A device. -/
  | device (d : Device)

/-- The names on the way to something. -/
abbrev Route := List String

namespace FileNode

/-- A folder with nothing in it. -/
def empty : FileNode :=
  .folder false []

/-- Whether there is a folder. -/
def isFolder : FileNode → Bool
  | .folder .. => true
  | _ => false

/-- What has a name in a folder. -/
def child? : FileNode → String → Option FileNode
  | .folder _ entries, name => entries.lookup name
  | _, _ => none

/-- Gives a name to a node, in place of the one that has it so far. -/
def setEntry (name : String) (node : FileNode) :
    List (String × FileNode) → List (String × FileNode)
  | [] => [(name, node)]
  | e :: rest => if e.1 = name then (name, node) :: rest else e :: setEntry name node rest

/-- Puts a node at the end of a route. Folders that are not there are created on the way; what is no
folder stays as it is. -/
def put (node : FileNode) (route : Route) (new : FileNode) : FileNode :=
  match route with
  | [] => new
  | name :: rest =>
    match node with
    | .folder fixed entries =>
      .folder fixed (setEntry name (((entries.lookup name).getD empty).put rest new) entries)
    | other => other

mutual

/-- The files in a tree with their contents, under the path of the tree. -/
def files (path : String) : FileNode → List (String × List UInt8)
  | .file content => [(path, content)]
  | .folder _ entries => filesIn (path ++ "/") entries
  | .device _ => []

/-- The files behind some names, whose paths begin with a text. -/
def filesIn (start : String) : List (String × FileNode) → List (String × List UInt8)
  | [] => []
  | (name, node) :: rest => files (start ++ name) node ++ filesIn start rest

end

end FileNode

end MemorySentry
