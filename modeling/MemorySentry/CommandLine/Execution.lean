import MemorySentry.CommandLine.Help
import MemorySentry.CommandLine.Host
import MemorySentry.RunLog.Validation
import MemorySentry.Trace.Run
import MemorySentry.Violation.Catalogue

/-!
# Commands

What the commands do. A command that fails says why on the standard error stream and gives another
exit code than one that succeeds; arguments that make no sense give a third one.
-/

namespace MemorySentry.CommandLine

/-- Why a command failed. -/
inductive Failure where
  /-- A file was refused. -/
  | file (e : FileError)
  /-- The trace file or the log file of a replay was refused. -/
  | traceFile (e : FileError)
  /-- The trace file is no trace. -/
  | trace (e : Json.ReadError)
  /-- The replay failed. -/
  | replay (e : Trace.ReplayError)
  /-- The replay reported faults, and that counts as a failure. -/
  | faults (count : Nat)
  /-- The log has fields that are not in order. -/
  | invalidFields (count lines : Nat)
deriving DecidableEq

/-- The failure of a replay with all that is known about it. -/
def replayReport (variant : String) (index : Nat) (label : String) : String :=
  variant ++ " \x7b index: " ++ toString index ++ ", label: " ++ Text.quoted label ++ " \x7d"

/-- The failure with all that is known about it. -/
def Failure.report : Failure → String
  | .file e => e.report
  | .traceFile e => "Io(" ++ e.report ++ ")"
  | .trace _ => "Json"
  | .replay (.unknownPool index label) => replayReport "UnknownPool" index label
  | .replay (.duplicatePool index label) => replayReport "DuplicatePool" index label
  | .faults count => Text.quoted ("replay reported " ++ toString count ++ " faults")
  | .invalidFields count lines =>
    Text.quoted (toString count ++ " invalid fields in " ++ toString lines ++ " lines")

/-- The exit code of a command that succeeded. -/
def succeeded : UInt32 := 0

/-- The exit code of a command that failed. -/
def failed : UInt32 := 1

/-- The exit code of arguments that make no sense. -/
def misused : UInt32 := 2

/-- The line on what a replay did. -/
def replayLine (s : Trace.Summary) : String :=
  s.name ++ ": " ++ toString s.executed ++ "/" ++ toString s.total ++ " ops, " ++
    toString s.warnings ++ " warnings, " ++ toString s.faults ++ " faults" ++
    (if s.terminatedAt.isSome then ", terminated" else "") ++ "\n"

section

variable {m : Type → Type} [Monad m] (h : Host m)

/-- Carries on with the value of a file operation, or fails. -/
def expect {α : Type} (failure : FileError → Failure) (r : m (Except FileError α)) :
    ExceptT Failure m α :=
  ExceptT.mk (Except.mapError failure <$> r)

/-- Writes a text to a file, whose folders are created, or prints it. -/
def writeOutput (output : Option String) (text : String) : ExceptT Failure m Unit := do
  match output with
  | none => h.print (text ++ "\n")
  | some path =>
    expect .file (h.createParents path)
    expect .file (h.write path text)
    h.complain ("Wrote " ++ path ++ "\n")

/-- The number of bytes of a log that are kept back before they are written. -/
def bufferBytes : Nat := 8192

/-- Writes the log of a replay. The file is opened before the replay begins. After that a refusal is
noticed as soon as more has come together than is kept back, or at the end of the replay, but not if
the replay has failed by then. -/
def writeLog (path : String) (run : Trace.Run) : ExceptT Failure m Unit := do
  expect .traceFile (h.write path "")
  let text := run.logText
  let refused ← ExceptT.lift (h.write path text)
  if bufferBytes < text.utf8ByteSize ∨ run.result.isOk then expect .traceFile (pure refused)

/-- Replays a trace file and writes its log. -/
def replayFile (clock : Nat → String) (trace : String) (log : Option String) :
    ExceptT Failure m (Trace.Summary × String) := do
  let bytes ← expect .traceFile (h.read trace)
  let run ← ExceptT.mk (pure ((Trace.runOf bytes clock).mapError .trace))
  match log with
  | none => pure ()
  | some path => writeLog h path run
  let summary ← ExceptT.mk (pure (run.result.mapError .replay))
  return (summary, run.digest)

/-- Carries out a command. -/
def execute (clock : Nat → String) : Command → ExceptT Failure m Unit
  | .replay trace log output failOnFault => do
    h.complain ("Replaying " ++ trace ++ "\n")
    let (summary, digest) ← replayFile h clock trace log
    h.complain (replayLine summary)
    writeOutput h output (summary.toJson digest).renderIndented
    if failOnFault && 0 < summary.faults then throw (.faults summary.faults)
  | .taxonomy output => writeOutput h output ViolationKind.catalogue.renderIndented
  | .validateLog log => do
    let bytes ← expect .file (h.read log)
    match Text.Utf8.decode? bytes with
    | none => throw (.file .notText)
    | some text =>
      let (lines, complaints) := RunLog.validateText text
      for c in complaints do
        h.complain (c.render ++ "\n")
      if complaints.isEmpty then h.complain (toString lines ++ " lines valid\n")
      else throw (.invalidFields complaints.length lines)
  | .explain topic => h.print topic.text

/-- Carries out the command that arguments mean. `clock` gives the time stamps of the log of a
replay. -/
def run (clock : Nat → String) (arguments : List String) : m UInt32 := do
  match parse? arguments with
  | none => return misused
  | some c =>
    match ← (execute h clock c).run with
    | .ok () => return succeeded
    | .error e =>
      h.complain ("Error: " ++ e.report ++ "\n")
      return failed

end

end MemorySentry.CommandLine
