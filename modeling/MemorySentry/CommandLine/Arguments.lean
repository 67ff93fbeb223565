/-!
# Arguments of the command line

A command with its options. Options have long names; a value follows its option or an equals sign
after it, and must not be empty or look like an option. No option comes twice.
-/

namespace MemorySentry.CommandLine

/-- A command that can be named. -/
inductive CommandName where
  | replay
  | taxonomy
  | validateLog
deriving DecidableEq

namespace CommandName

/-- All commands. -/
def all : List CommandName := [.replay, .taxonomy, .validateLog]

/-- The word for a command. -/
def word : CommandName → String
  | .replay => "replay"
  | .taxonomy => "taxonomy"
  | .validateLog => "validate-log"

/-- The command that a word means. -/
def ofWord? (s : String) : Option CommandName :=
  all.find? fun c => c.word == s

end CommandName

/-- What can be explained. -/
inductive Topic where
  /-- All commands. -/
  | overview
  | command (name : CommandName)
  /-- How to ask for explanations. -/
  | help
deriving DecidableEq

/-- What is to be done. -/
inductive Command where
  /-- Replays a trace and writes the summary. -/
  | replay (trace : String) (log output : Option String) (failOnFault : Bool)
  /-- Writes the catalogue of violations. -/
  | taxonomy (output : Option String)
  /-- Checks a run log. -/
  | validateLog (log : String)
  | explain (topic : Topic)
deriving DecidableEq

/-- An option of a command. -/
structure Switch where
  /-- The name. -/
  name : String
  /-- Whether a value follows. -/
  hasValue : Bool
deriving DecidableEq

/-- The options of a command. -/
def CommandName.switches : CommandName → List Switch
  | .replay => [⟨"trace", true⟩, ⟨"log", true⟩, ⟨"output", true⟩, ⟨"fail-on-fault", false⟩]
  | .taxonomy => [⟨"output", true⟩]
  | .validateLog => [⟨"log", true⟩]

/-- Why arguments do not give a command with its options. -/
inductive Stop where
  /-- They make no sense. -/
  | misuse
  /-- An explanation is wanted instead. -/
  | help
deriving DecidableEq

/-- Options with their values, blank where an option has none. -/
abbrev Options := List (String × String)

/-- A text before its first equals sign, and what comes after it if there is one. -/
def splitEquals : List Char → List Char × Option (List Char)
  | [] => ([], none)
  | '=' :: rest => ([], some rest)
  | c :: rest =>
    let (name, value) := splitEquals rest
    (c :: name, value)

/-- Whether an argument looks like an option. -/
def looksLikeOption : List Char → Bool
  | '-' :: _ :: _ => true
  | _ => false

/-- The value of an option, from after its equals sign or from the next argument, and the arguments
after it. -/
def takeValue (s : Switch) (attached : Option (List Char)) (rest : List String) :
    Except Stop (String × List String) :=
  match s.hasValue, attached, rest with
  | false, none, _ => .ok ("", rest)
  | false, some _, _ => .error .misuse
  | true, some [], _ => .error .misuse
  | true, some value, _ => .ok (String.ofList value, rest)
  | true, none, [] => .error .misuse
  | true, none, value :: rest =>
    if value = "" ∨ looksLikeOption value.toList then .error .misuse else .ok (value, rest)

/-- Taking the value of a switch leaves no more arguments than there were. -/
theorem takeValue_length {s : Switch} {attached : Option (List Char)} {rest : List String}
    {value : String} {left : List String} (h : takeValue s attached rest = .ok (value, left)) :
    left.length ≤ rest.length := by
  unfold takeValue at h
  split at h <;> grind

/-- The word that asks for an explanation. -/
def helpWord : String := "help"

/-- The options in arguments, after those that were given before. -/
def readOptions (switches : List Switch) (given : Options) : List String → Except Stop Options
  | [] => .ok given
  | arg :: rest =>
    match arg.toList with
    | ['-', '-'] => if rest.isEmpty then .ok given else .error .misuse
    | '-' :: '-' :: body =>
      let (name, attached) := splitEquals body
      if name = helpWord.toList ∧ attached.isNone then .error .help
      else
        match switches.find? fun s => s.name.toList == name with
        | none => .error .misuse
        | some s =>
          if given.any fun e => e.1 == s.name then .error .misuse
          else
            match _taken : takeValue s attached rest with
            | .error e => .error e
            | .ok (value, left) => readOptions switches ((s.name, value) :: given) left
    | '-' :: 'h' :: _ => .error .help
    | _ => .error .misuse
termination_by args => args.length
decreasing_by
  have := takeValue_length _taken
  simp only [List.length_cons]
  omega

/-- The command that its name and its options make. -/
def complete (name : CommandName) (given : Options) : Except Stop Command :=
  match name with
  | .replay =>
    match given.lookup "trace" with
    | none => .error .misuse
    | some trace =>
      .ok (.replay trace (given.lookup "log") (given.lookup "output")
        (given.lookup "fail-on-fault").isSome)
  | .taxonomy => .ok (.taxonomy (given.lookup "output"))
  | .validateLog =>
    match given.lookup "log" with
    | none => .error .misuse
    | some log => .ok (.validateLog log)

/-- What is to be explained, given the words after the one that asks for it. -/
def topic? : List String → Option Topic
  | [] => some .overview
  | [word] => if word = helpWord then some .help else (CommandName.ofWord? word).map .command
  | _ => none

/-- The command that arguments mean, if they make sense. -/
def parse? : List String → Option Command
  | [] => none
  | word :: rest =>
    match CommandName.ofWord? word with
    | none =>
      if word = helpWord then (topic? rest).map .explain
      else if word = "--" ++ helpWord ∨ ['-', 'h'].isPrefixOf word.toList then
        some (.explain .overview)
      else none
    | some name =>
      match (readOptions name.switches [] rest).bind (complete name) with
      | .ok c => some c
      | .error .help => some (.explain (.command name))
      | .error .misuse => none

end MemorySentry.CommandLine
