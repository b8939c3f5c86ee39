import LintLedger.CommandLine.Grammar

/-!
# Reading command lines

The arguments common to all commands may stand before or after the name of the command; after
it they win.

## Main Definitions

* `CommandLine.parse` -- the invocation that a command line means
-/

namespace LintLedger.CommandLine

/-- The arguments common to all commands. -/
def commonArguments : List Argument :=
  [⟨"config", none, .option .path⟩, ⟨"db", none, .option .path⟩, ⟨"debug", none, .switch⟩,
   ⟨"verbose", some 'v', .switch⟩, ⟨"quiet", some 'q', .switch⟩,
   ⟨"help", some 'h', .request .displayHelp⟩]

/-- The names of the commands. -/
def commandNames : List String := ["seed-db", "audit", "export", "run-tool", "tools", "prune"]

/-- The command that explains the others. -/
def helpCommand : String := "help"

/-- The grammar in front of the command. -/
def mainGrammar : Grammar where
  arguments := commonArguments ++ [⟨"version", some 'V', .request .displayVersion⟩]
  positionals := []
  subcommands := commandNames ++ [helpCommand]

/-- The named arguments of a command. -/
def ownArguments (command : String) : List Argument :=
  match command with
  | "audit" =>
    [⟨"tool", none, .repeated .text⟩, ⟨"jobs", none, .option .count⟩,
     ⟨"stop-on-error", none, .switch⟩, ⟨"parallel", none, .option .strategy⟩,
     ⟨"single-project", none, .switch⟩, ⟨"recursive", none, .switch⟩]
  | "export" => [⟨"output-path", none, .option .path⟩, ⟨"root", none, .option .text⟩]
  | "run-tool" => [⟨"json-out", none, .option .path⟩]
  | "prune" => [⟨"before", none, .option .text⟩]
  | _ => []

/-- The positional arguments of a command. -/
def ownPositionals (command : String) : List Positional :=
  match command with
  | "audit" => [⟨"path", .path⟩]
  | "run-tool" => [⟨"name", .text⟩, ⟨"target", .path⟩]
  | _ => []

/-- The grammar of a command. -/
def grammarOf (command : String) : Grammar where
  arguments := ownArguments command ++ commonArguments
  positionals := ownPositionals command
  subcommands := []

/-- A value that has to be given. -/
def required (r : Reading) (name : String) : Except UsageError String :=
  match r.value? name with
  | some v => .ok v
  | none => .error .missingRequiredArgument

/-- The command of a name with the arguments read for it. -/
def commandOf (name : String) (r : Reading) : Except UsageError Command :=
  match name with
  | "seed-db" => .ok .seed
  | "tools" => .ok .tools
  | "audit" =>
    .ok (.audit
      { path := (r.value? "path").getD "."
        tools := r.values "tool"
        jobs? := (r.value? "jobs").bind (Text.natUpTo? (Nat.pow 2 64 - 1))
        stopOnError := r.has "stop-on-error"
        strategy := ((r.value? "parallel").bind Strategy.ofName?).getD .auto
        singleProject := r.has "single-project"
        recursive := r.has "recursive" })
  | "export" => (required r "output-path").map fun dir => .export dir (r.value? "root")
  | "run-tool" =>
    (required r "name").bind fun tool => (required r "target").map fun target =>
      .runTool tool target (r.value? "json-out")
  | "prune" => (required r "before").map Command.prune
  | _ => .error .invalidSubcommand

/-- The answer to a request for help about commands, which have no commands below them. -/
def helpAbout : List String → UsageError
  | [] => .displayHelp
  | [command] =>
    if (commandNames ++ [helpCommand]).contains command then .displayHelp else .invalidSubcommand
  | _ => .invalidSubcommand

/-- The invocation that a command line means.  The arguments of the command are checked before
those in front of it. -/
def parse (args : List String) : Except UsageError Invocation :=
  match mainGrammar.read args .start with
  | .error e => .error e
  | .ok (front, none) =>
    front.commit.bind fun front =>
      .error (if front.given.isEmpty then .displayHelpOnMissing else .missingSubcommand)
  | .ok (front, some (name, rest)) =>
    if name = helpCommand then .error (helpAbout rest)
    else
      ((grammarOf name).read rest .start).bind fun (own, _) =>
      own.commit.bind fun own =>
      (commandOf name own).bind fun command =>
      front.commit.map fun front =>
        { config? := (own.value? "config").or (front.value? "config")
          database? := (own.value? "db").or (front.value? "db")
          debug := own.has "debug" || front.has "debug"
          verbose := own.has "verbose" || front.has "verbose"
          quiet := own.has "quiet" || front.has "quiet"
          command := command }

end LintLedger.CommandLine
