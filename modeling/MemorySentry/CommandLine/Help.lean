import MemorySentry.CommandLine.Arguments

/-!
# Explanations of the command line

What is written when an explanation is asked for.
-/

namespace MemorySentry.CommandLine

/-- What a command does. -/
def CommandName.purpose : CommandName → String
  | .replay => "Replay a JSON trace on a fresh runtime and print the summary"
  | .taxonomy => "Emit the violation taxonomy as JSON"
  | .validateLog => "Validate a structured JSONL log"

/-- The arguments of a command in its usage line. -/
def CommandName.usage : CommandName → String
  | .replay => "replay [OPTIONS] --trace <TRACE>"
  | .taxonomy => "taxonomy [OPTIONS]"
  | .validateLog => "validate-log --log <LOG>"

/-- The options of a command, each with what it means. -/
def CommandName.optionLines : CommandName → List (String × String)
  | .replay =>
    [("    --trace <TRACE>", "Trace JSON path"), ("    --log <LOG>", "Structured JSONL log path"),
      ("    --output <OUTPUT>", "Output path for the summary JSON (if omitted, prints to stdout)"),
      ("    --fail-on-fault", "Exit with an error when the replay reported any fault"),
      ("-h, --help", "Print help")]
  | .taxonomy =>
    [("    --output <OUTPUT>", "Output JSON path (if omitted, prints to stdout)"),
      ("-h, --help", "Print help")]
  | .validateLog => [("    --log <LOG>", ""), ("-h, --help", "Print help")]

/-- Lines in two columns. -/
def columns (lines : List (String × String)) : String :=
  let width := (lines.map fun l => l.1.length).foldl max 0
  String.join (lines.map fun l =>
    "  " ++ l.1 ++ String.ofList (List.replicate (width - l.1.length) ' ') ++ "  " ++ l.2 ++ "\n")

/-- What asking for an explanation does. -/
def helpPurpose : String := "Print this message or the help of the given subcommand(s)"

/-- What can be explained in a line. -/
def Topic.purpose : Topic → String
  | .overview => "Replay pool operation traces against the poolguard runtime"
  | .command c => c.purpose
  | .help => helpPurpose

/-- What follows the name of the program in a usage line. -/
def Topic.usage : Topic → String
  | .overview => "<COMMAND>"
  | .command c => c.usage
  | .help => "help [COMMAND]..."

/-- What an explanation lists, under headings. -/
def Topic.sections : Topic → List (String × List (String × String))
  | .overview =>
    [("Commands", (CommandName.all.map fun c => (c.word, c.purpose)) ++ [(helpWord, helpPurpose)]),
      ("Options", [("-h, --help", "Print help")])]
  | .command c => [("Options", c.optionLines)]
  | .help => [("Arguments", [("[COMMAND]...", "Print help for the subcommand(s)")])]

/-- An explanation. -/
def Topic.text (t : Topic) : String :=
  t.purpose ++ "\n\nUsage: harness " ++ t.usage ++ "\n" ++
    String.join (t.sections.map fun (heading, lines) => "\n" ++ heading ++ ":\n" ++ columns lines)

end MemorySentry.CommandLine
