import LintLedger.Schedule.Plan
import LintLedger.Text.Blank
import LintLedger.Text.Integer

/-!
# Commands and the grammar of command lines

What a user asks for is a command with its arguments.  An argument is a switch, an option with a
value, or a positional value.  Arguments are read from left to right; an option that was named
waits for its value, and whatever was read is committed when the next argument begins.  After a
lone `--` everything is positional.

## Main Definitions

* `Command` -- the commands with their arguments
* `Invocation` -- a command with the settings common to all
* `UsageError` -- why a command line is not understood, or asks for help
* `UsageError.message` -- what is wrong with it
* `CommandLine.usage` -- the commands at a glance
* `Argument`, `Grammar` -- the arguments that a command takes
* `Reading` -- what was read so far
* `Grammar.read` -- the arguments of a command, up to the name of a subcommand
-/

namespace LintLedger

/-- The arguments of an audit. -/
structure AuditRequest where
  /-- The directory with the projects. -/
  path : String := "."
  /-- The tools to run; empty leaves the choice to the settings. -/
  tools : List String := []
  jobs? : Option Nat := none
  stopOnError : Bool := false
  strategy : Strategy := .auto
  /-- Audit the directory itself. -/
  singleProject : Bool := false
  /-- Look for projects on several levels. -/
  recursive : Bool := false
deriving DecidableEq, Repr

/-- A command with its arguments. -/
inductive Command where
  /-- Create the tables. -/
  | seed
  /-- Run tools and keep their findings. -/
  | audit (request : AuditRequest)
  /-- Write the findings of one root or of all. -/
  | export (outDir : String) (root? : Option String)
  /-- Run one tool and print its record. -/
  | runTool (tool target : String) (recordFile? : Option String)
  /-- List the tools. -/
  | tools
  /-- Remove the scans before a time. -/
  | prune (before : String)
deriving DecidableEq, Repr

/-- A command with what holds for every command. -/
structure Invocation where
  config? : Option String
  database? : Option String
  debug : Bool
  verbose : Bool
  quiet : Bool
  command : Command
deriving DecidableEq, Repr

/-- Why a command line leads to no command. -/
inductive UsageError where
  | unknownArgument
  /-- A value that is missing, empty or not one of the choices. -/
  | invalidValue
  /-- A value that is no number in range. -/
  | valueValidation
  | missingRequiredArgument
  /-- An argument given again that may be given once. -/
  | argumentConflict
  | invalidSubcommand
  | missingSubcommand
  /-- A value for an argument that takes none. -/
  | tooManyValues
  | displayHelp
  | displayVersion
  /-- Nothing was asked for. -/
  | displayHelpOnMissing
deriving DecidableEq, Repr

/-- What is wrong with a command line. -/
def UsageError.message : UsageError → String
  | .unknownArgument => "unexpected argument"
  | .invalidValue => "a value is missing or is not one of the choices"
  | .valueValidation => "a value is not a number in range"
  | .missingRequiredArgument => "a required argument is missing"
  | .argumentConflict => "an argument is given more than once"
  | .invalidSubcommand => "unrecognized command"
  | .missingSubcommand => "a command is missing"
  | .tooManyValues => "an argument takes no value"
  | .displayHelp => "help is asked for"
  | .displayVersion => "the version is asked for"
  | .displayHelpOnMissing => "nothing is asked for"

/-- The commands at a glance. -/
def CommandLine.usage : String :=
  "\n".intercalate
    ["Usage: auditor [--config FILE] [--db FILE] [--debug] [-v] [-q] COMMAND",
     "",
     "Commands:",
     "  seed-db",
     "  audit [PATH] [--tool TOOL]... [--jobs N] [--parallel HOW] [--stop-on-error]",
     "        [--single-project] [--recursive]",
     "  export [--output-path DIR] [--root FOLDER]",
     "  run-tool TOOL TARGET [--json-out FILE]",
     "  tools",
     "  prune --before TIME"]

end LintLedger

namespace LintLedger.CommandLine

/-- What values an argument takes. -/
inductive ValueKind where
  /-- Any text. -/
  | text
  /-- A path, which is never empty. -/
  | path
  /-- A natural number of 64 bits. -/
  | count
  /-- The name of a strategy. -/
  | strategy
deriving DecidableEq, Repr

/-- Why a value is refused, if it is. -/
def ValueKind.refuse? (kind : ValueKind) (value : String) : Option UsageError :=
  match kind with
  | .text => none
  | .path => if value = "" then some .invalidValue else none
  | .count =>
    if (Text.natUpTo? (Nat.pow 2 64 - 1) value).isNone then some .valueValidation else none
  | .strategy => if (Strategy.ofName? value).isNone then some .invalidValue else none

/-- How an argument is given. -/
inductive Form where
  | switch
  | option (kind : ValueKind)
  | repeated (kind : ValueKind)
  /-- A request for help or for the version, which ends the reading. -/
  | request (answer : UsageError)
deriving DecidableEq, Repr

/-- An argument that is given by name. -/
structure Argument where
  name : String
  short? : Option Char
  form : Form
deriving DecidableEq, Repr

/-- A positional argument. -/
structure Positional where
  name : String
  kind : ValueKind
deriving DecidableEq, Repr

/-- The arguments that a command takes, and the names of its subcommands. -/
structure Grammar where
  arguments : List Argument
  positionals : List Positional
  subcommands : List String
deriving DecidableEq, Repr

/-- An argument that was begun and is not yet committed. -/
structure Pending where
  name : String
  kind : ValueKind
  repeated : Bool
  values : List String
deriving DecidableEq, Repr

/-- What was read so far. -/
structure Reading where
  /-- The committed arguments with their values, in order; a switch has none. -/
  given : List (String × List String)
  pending? : Option Pending
  /-- Whether the pending argument waits for its value. -/
  waiting : Bool
  /-- How many positional arguments were read. -/
  position : Nat
  /-- Whether a lone `--` was read. -/
  trailing : Bool
deriving DecidableEq, Repr

namespace Reading

/-- Before the first argument. -/
def start : Reading := ⟨[], none, false, 0, false⟩

/-- Whether an argument was given. -/
def has (r : Reading) (name : String) : Bool := r.given.any (·.1 == name)

/-- The values of an argument. -/
def values (r : Reading) (name : String) : List String :=
  (r.given.filter (·.1 == name)).flatMap (·.2)

/-- The first value of an argument. -/
def value? (r : Reading) (name : String) : Option String := (r.values name).head?

/-- Commits the pending argument: it has a value, it is not given twice unless it may be, and
the value is of its kind. -/
def commit (r : Reading) : Except UsageError Reading :=
  match r.pending? with
  | none => .ok r
  | some p =>
    if p.values.isEmpty then .error .invalidValue
    else if !p.repeated && r.has p.name then .error .argumentConflict
    else
      match p.values.findSome? p.kind.refuse? with
      | some e => .error e
      | none => .ok { r with given := r.given ++ [(p.name, p.values)], pending? := none }

/-- Reads a switch. -/
def switch (r : Reading) (name : String) : Except UsageError Reading :=
  r.commit.bind fun r =>
    if r.has name then .error .argumentConflict
    else .ok { r with given := r.given ++ [(name, [])], waiting := false }

/-- Begins an option, with a value if one is attached to its name. -/
def begin (r : Reading) (name : String) (kind : ValueKind) (repeated : Bool) :
    Option String → Except UsageError Reading
  | some v =>
    r.commit.bind fun r =>
      (commit { r with pending? := some ⟨name, kind, repeated, [v]⟩ }).map fun r =>
        { r with waiting := false }
  | none =>
    r.commit.map fun r =>
      { r with pending? := some ⟨name, kind, repeated, []⟩, waiting := true }

/-- Gives the waiting option its value. -/
def fill (r : Reading) (v : String) : Reading :=
  { r with
    pending? := r.pending?.map fun p => { p with values := p.values ++ [v] }
    waiting := false }

end Reading

namespace Grammar

/-- Reads an argument by its form. -/
def readForm (a : Argument) (value? : Option String) (r : Reading) : Except UsageError Reading :=
  match a.form with
  | .option kind => r.begin a.name kind false value?
  | .repeated kind => r.begin a.name kind true value?
  | .switch => if value?.isSome then .error .tooManyValues else r.switch a.name
  | .request answer =>
    if value?.isSome then .error .tooManyValues else r.commit.bind fun _ => .error answer

/-- Reads a name after `--`, with the value after an equals sign if there is one. -/
def readLong (g : Grammar) (cs : List Char) (r : Reading) : Except UsageError Reading :=
  let name := String.ofList (cs.takeWhile (· != '='))
  let value? := match cs.dropWhile (· != '=') with
    | [] => none
    | _ :: rest => some (String.ofList rest)
  match g.arguments.find? (·.name == name) with
  | none => .error .unknownArgument
  | some a => readForm a value? r

/-- Reads letters after `-`, each a switch. -/
def readShort (g : Grammar) : List Char → Reading → Except UsageError Reading
  | [], r => .ok r
  | c :: rest, r =>
    match g.arguments.find? (·.short? == some c) with
    | none => .error .unknownArgument
    | some a => (readForm a none r).bind (readShort g rest)

/-- What is wrong with a positional value that has no place: a command with subcommands takes
it for an unknown one, unless it stands after `--` and names one that exists. -/
def misplaced (g : Grammar) (trailing : Bool) (word : String) : UsageError :=
  if trailing && g.subcommands.contains word then .unknownArgument
  else if g.subcommands.isEmpty then .unknownArgument
  else .invalidSubcommand

/-- Reads a positional value. -/
def readPositional (g : Grammar) (word : String) (r : Reading) : Except UsageError Reading :=
  match g.positionals[r.position]? with
  | none => .error (g.misplaced r.trailing word)
  | some p =>
    r.commit.map fun r =>
      { r with
        pending? := some ⟨p.name, p.kind, false, [word]⟩
        waiting := false
        position := r.position + 1 }

/-- Reads one argument. -/
def readWord (g : Grammar) (word : String) (r : Reading) : Except UsageError Reading :=
  if r.trailing then g.readPositional word r
  else
    match word.toList with
    | ['-', '-'] => .ok { r with trailing := true }
    | '-' :: '-' :: name => g.readLong name r
    | '-' :: c :: letters => g.readShort (c :: letters) r
    | _ => if r.waiting then .ok (r.fill word) else g.readPositional word r

/-- Reads arguments up to the name of a subcommand, which is not looked for while an option
waits for its value.  The answer has the name and the arguments after it. -/
def read (g : Grammar) : List String → Reading →
    Except UsageError (Reading × Option (String × List String))
  | [], r => .ok (r, none)
  | word :: rest, r =>
    if !r.trailing && !r.waiting && g.subcommands.contains word then .ok (r, some (word, rest))
    else (g.readWord word r).bind (g.read rest)

end Grammar

end LintLedger.CommandLine
