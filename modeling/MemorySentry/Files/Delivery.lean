import MemorySentry.AlertLog
import MemorySentry.Files.FileSystem
import MemorySentry.Text.Utf8

/-!
# What a program writes

What a program leaves behind: text in files and on its streams. The alerts of a log are delivered to
where they belong.
-/

namespace MemorySentry

/-- What a program has written. -/
structure Written where
  /-- The file system in which it was started. -/
  files : FileSystem := {}
  /-- The text on the standard output stream. -/
  outputText : String := ""
  /-- The text on the standard error stream. -/
  errorText : String := ""

namespace Written

/-- Writes a text on a stream. -/
def send (w : Written) (s : Stream) (text : String) : Written :=
  match s with
  | .output => { w with outputText := w.outputText ++ text }
  | .error => { w with errorText := w.errorText ++ text }

/-- Writes a text on the standard error stream. -/
def complain (w : Written) (text : String) : Written :=
  w.send .error text

/-- Writes a text to a file by an operation on the file system. It goes to a stream if the file
stands for one. -/
def change (w : Written) (op : FileSystem → String → List UInt8 → Except FileError FileSystem)
    (path text : String) : Except FileError Written := do
  let files ← op w.files path (Text.Utf8.encode text)
  let w := (w.files.stream? path).elim w fun s => w.send s text
  return { w with files }

/-- Writes a text to a file, in place of its content so far. -/
def write (w : Written) (path text : String) : Except FileError Written :=
  w.change FileSystem.write path text

/-- Writes a text at the end of a file. -/
def append (w : Written) (path text : String) : Except FileError Written :=
  w.change FileSystem.append path text

/-- Opens a file for alerts, which creates it if it is not there. -/
def openFile (w : Written) (path : String) : Except FileError Written :=
  w.append path ""

/-- Writes one entry of a log. What a sink does not take is lost. -/
def deliverEntry (format : AlertFormat) (w : Written) (entry : Sink × Violation) : Written :=
  let text := format.render entry.2
  match entry.1 with
  | .standardError => w.complain text
  | .file path =>
    match w.append path text with
    | .ok w => w
    | .error _ => w
  | .buffer _ | .refusing => w

/-- Writes entries of a log in their order. -/
def deliver (format : AlertFormat) (w : Written) (entries : List (Sink × Violation)) : Written :=
  entries.foldl (deliverEntry format) w

end Written

end MemorySentry
