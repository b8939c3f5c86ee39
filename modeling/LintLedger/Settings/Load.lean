import LintLedger.FileTree.Basic
import LintLedger.Json.Basic
import LintLedger.Settings
import LintLedger.Text.Case
import LintLedger.Toml.Reader

/-!
# Reading and finding the settings

A group of settings is an object with the settings by name, or a list with the settings in
their order.  What is left out has its default, what is unknown is ignored, and a value of the
wrong kind or out of range makes the whole document unreadable.

Settings come from the file that the user names, else from the project, else from the user's
home; without any file they are the defaults.  Two environment variables override the file.

## Main Definitions

* `membersOf?`, `given?` -- a group, and one setting of it
* `Settings.ofJson?`, `ToolSettings.ofJson?` -- the readers
* `SettingsError` -- a file that cannot be read or understood
* `Settings.ofFile` -- the settings in one file
* `Settings.load` -- the settings that are in force
-/

namespace LintLedger

namespace SettingsReader

/-- The settings of a group by name; a list gives them in the order of `names`. -/
def membersOf? (names : List String) : Json → Option (List (String × Json))
  | .obj members => some members
  | .arr items => some (names.zip items)
  | _ => none

/-- A setting, or its default where it is left out. -/
def given? {α : Type} (group : List (String × Json)) (name : String) (dflt : α)
    (read : Json → Option α) : Option α :=
  match Assoc.find? name group with
  | none => some dflt
  | some v => read v

/-- A natural number below `2 ^ bits`. -/
def natural? (bits : Nat) : Json → Option Nat
  | .num (.int i) => if 0 ≤ i ∧ i < Int.pow 2 bits then some i.toNat else none
  | _ => none

/-- A list of texts. -/
def texts? (v : Json) : Option (List String) := v.arr?.bind fun items => items.mapM Json.str?

/-- A value that may be null. -/
def orNull? {α : Type} (read : Json → Option α) : Json → Option (Option α)
  | .null => some none
  | v => (read v).map some

end SettingsReader

open SettingsReader

/-- The name of an insert mode, alone or as the only key of an object with an empty value. -/
def InsertMode.ofJson? (v : Json) : Option InsertMode :=
  let name? := match v with
    | .str s => some s
    | .obj [(s, .obj [])] => some s
    | .obj [(s, .arr [])] => some s
    | _ => none
  match name? with
  | some "bulk" => some .bulk
  | some "per_row" => some .perRow
  | _ => none

/-- Settings of the dead-code finder. -/
def VultureSettings.ofJson? (v : Json) : Option VultureSettings := do
  let g ← membersOf? ["min_confidence"] v
  let d : VultureSettings := {}
  return { minConfidence := ← given? g "min_confidence" d.minConfidence (natural? 8) }

/-- Settings of the pattern scanner. -/
def SemgrepSettings.ofJson? (v : Json) : Option SemgrepSettings := do
  let g ← membersOf? ["configs", "timeout"] v
  let d : SemgrepSettings := {}
  return {
    configs := ← given? g "configs" d.configs texts?
    timeout := ← given? g "timeout" d.timeout (natural? 64) }

/-- Settings of the secret detector. -/
def GitleaksSettings.ofJson? (v : Json) : Option GitleaksSettings := do
  let g ← membersOf? ["redact"] v
  let d : GitleaksSettings := {}
  return { redact := ← given? g "redact" d.redact Json.bool? }

/-- Settings of the clone detector. -/
def JscpdSettings.ofJson? (v : Json) : Option JscpdSettings := do
  let g ← membersOf?
    ["min_tokens", "min_lines", "formats", "patterns", "ignore", "gitignore", "allow_intra_file",
     "emit_both_sides", "fragment_in_key"] v
  let d : JscpdSettings := {}
  return {
    minTokens? := ← given? g "min_tokens" d.minTokens? (orNull? (natural? 32))
    minLines? := ← given? g "min_lines" d.minLines? (orNull? (natural? 32))
    formats := ← given? g "formats" d.formats texts?
    patterns := ← given? g "patterns" d.patterns texts?
    ignore := ← given? g "ignore" d.ignore texts?
    gitignore := ← given? g "gitignore" d.gitignore Json.bool?
    allowIntraFile := ← given? g "allow_intra_file" d.allowIntraFile Json.bool?
    emitBothSides := ← given? g "emit_both_sides" d.emitBothSides Json.bool?
    fragmentInKey := ← given? g "fragment_in_key" d.fragmentInKey Json.bool? }

/-- Settings of the type checker. -/
def MypySettings.ofJson? (v : Json) : Option MypySettings := do
  let g ← membersOf? ["strict"] v
  let d : MypySettings := {}
  return { strict := ← given? g "strict" d.strict Json.bool? }

/-- Settings of the tools that are installed with a project. -/
def NodeSettings.ofJson? (v : Json) : Option NodeSettings := do
  let g ← membersOf? ["bin_dir"] v
  return { binDir? := ← given? g "bin_dir" none (orNull? Json.str?) }

/-- Settings of the tools. -/
def ToolSettings.ofJson? (v : Json) : Option ToolSettings := do
  let g ← membersOf? ["enabled", "vulture", "semgrep", "gitleaks", "jscpd", "mypy", "node"] v
  return {
    enabled := ← given? g "enabled" [] texts?
    vulture := ← given? g "vulture" {} VultureSettings.ofJson?
    semgrep := ← given? g "semgrep" {} SemgrepSettings.ofJson?
    gitleaks := ← given? g "gitleaks" {} GitleaksSettings.ofJson?
    jscpd := ← given? g "jscpd" {} JscpdSettings.ofJson?
    mypy := ← given? g "mypy" {} MypySettings.ofJson?
    node := ← given? g "node" {} NodeSettings.ofJson? }

/-- Settings of the database. -/
def DatabaseSettings.ofJson? (v : Json) : Option DatabaseSettings := do
  let g ← membersOf? ["path", "insert_mode"] v
  let d : DatabaseSettings := {}
  return {
    path := ← given? g "path" d.path Json.str?
    insertMode := ← given? g "insert_mode" d.insertMode InsertMode.ofJson? }

/-- Settings of the debug log. -/
def LogSettings.ofJson? (v : Json) : Option LogSettings := do
  let g ← membersOf? ["debug", "dir"] v
  let d : LogSettings := {}
  return {
    debug := ← given? g "debug" d.debug Json.bool?
    dir := ← given? g "dir" d.dir Json.str? }

/-- Settings of the processes. -/
def ExecutionSettings.ofJson? (v : Json) : Option ExecutionSettings := do
  let g ← membersOf? ["timeout_secs", "memory_limit_mb", "jobs"] v
  let d : ExecutionSettings := {}
  return {
    timeout := ← given? g "timeout_secs" d.timeout (natural? 64)
    memoryLimit? := ← given? g "memory_limit_mb" d.memoryLimit? (orNull? (natural? 64))
    jobs := ← given? g "jobs" d.jobs (natural? 64) }

/-- All settings. -/
def Settings.ofJson? (v : Json) : Option Settings := do
  let g ← membersOf? ["database", "logging", "execution", "tools"] v
  return {
    database := ← given? g "database" {} DatabaseSettings.ofJson?
    log := ← given? g "logging" {} LogSettings.ofJson?
    execution := ← given? g "execution" {} ExecutionSettings.ofJson?
    tools := ← given? g "tools" {} ToolSettings.ofJson? }

/-! ## Finding the settings -/

/-- Variables of the environment with their values, the last one of a name in force. -/
abbrev Environment := Assoc String

/-- A settings file that cannot be used. -/
inductive SettingsError where
  | reading (path : String)
  | parsing (path : String)
deriving DecidableEq, Repr

/-- The message of an error. -/
def SettingsError.message : SettingsError → String
  | .reading path => "reading config " ++ path
  | .parsing path => "parsing config " ++ path

namespace Settings

/-- The settings in one file, whose path is taken from the directory `cwd`. -/
def ofFile (t : FileTree) (cwd path : String) : Except SettingsError Settings :=
  match t.readText? (Path.join cwd path) with
  | none => .error (.reading path)
  | some text =>
    match (Toml.parse? text).bind Settings.ofJson? with
    | none => .error (.parsing path)
    | some s => .ok s

/-- The settings file of a project. -/
def projectFile (project : String) : String :=
  Path.join (Path.join project ".auditor") "config.toml"

/-- The settings file of a user. -/
def homeFile (home : String) : String :=
  Path.join (Path.join (Path.join home ".config") "auditor") "config.toml"

/-- The settings of the first file there is. -/
def ofFirst (t : FileTree) (cwd : String) : List String → Except SettingsError Settings
  | [] => .ok {}
  | path :: rest =>
    if t.exists? (Path.join cwd path) then ofFile t cwd path else ofFirst t cwd rest

/-- The words that switch the debug log on. -/
def onWords : List String := ["1", "true", "yes", "on"]

/-- Settings with the environment taken into account: a database that is named, and a word
that switches the debug log on or, if it is any other word, off. -/
def withEnvironment (s : Settings) (env : Environment) : Settings :=
  let database := match (env.find? "AUDITOR_DB").filter (· ≠ "") with
    | some path => { s.database with path := path }
    | none => s.database
  let log := match env.find? "AUDITOR_DEBUG" with
    | some word =>
      { s.log with debug := onWords.contains (Text.asciiLower (Text.trim word)) }
    | none => s.log
  { s with database := database, log := log }

/-- The settings in force for a project. -/
def load (t : FileTree) (env : Environment) (cwd project : String) (named? : Option String) :
    Except SettingsError Settings :=
  let fromFile := match named? with
    | some path => ofFile t cwd path
    | none =>
      let home := ((env.find? "HOME").filter (· ≠ "")).map homeFile
      ofFirst t cwd (projectFile project :: home.toList)
  fromFile.map fun s => s.withEnvironment env

end Settings

end LintLedger
