/-!
# Settings

What a user may configure, with its defaults.  A settings file gives some of it; whatever it
leaves out has the default.

## Main Definitions

* `ToolSettings` -- the settings that change how tools are called and how reports are read
* `InsertMode` -- the two ways in which rows enter the database
* `Settings` -- all settings
-/

namespace LintLedger

/-- Settings of the dead-code finder. -/
structure VultureSettings where
  /-- Less certain findings are left out. -/
  minConfidence : Nat := 50
deriving DecidableEq, Repr

/-- Settings of the pattern scanner. -/
structure SemgrepSettings where
  configs : List String := []
  /-- Seconds the scanner may spend on one rule. -/
  timeout : Nat := 30
deriving DecidableEq, Repr

/-- Settings of the secret detector. -/
structure GitleaksSettings where
  redact : Bool := true
deriving DecidableEq, Repr

/-- Settings of the clone detector. -/
structure JscpdSettings where
  minTokens? : Option Nat := some 50
  minLines? : Option Nat := none
  formats : List String := []
  patterns : List String := []
  ignore : List String := ["**/node_modules/**", "**/dist/**", "**/build/**"]
  gitignore : Bool := true
  /-- Keep clones with both sides in one file. -/
  allowIntraFile : Bool := true
  /-- Report a clone on both of its sides. -/
  emitBothSides : Bool := false
  /-- Tell apart clones in the same places by their text. -/
  fragmentInKey : Bool := false
deriving DecidableEq, Repr

/-- Settings of the type checker. -/
structure MypySettings where
  strict : Bool := false
deriving DecidableEq, Repr

/-- Settings of the tools that are installed with a project. -/
structure NodeSettings where
  /-- A directory that is searched for executables first. -/
  binDir? : Option String := none
deriving DecidableEq, Repr

/-- Settings of the tools. -/
structure ToolSettings where
  /-- The tools to run where none are named; empty means all. -/
  enabled : List String := []
  vulture : VultureSettings := {}
  semgrep : SemgrepSettings := {}
  gitleaks : GitleaksSettings := {}
  jscpd : JscpdSettings := {}
  mypy : MypySettings := {}
  node : NodeSettings := {}
deriving DecidableEq, Repr

/-- How rows enter the database. -/
inductive InsertMode where
  /-- Many rows with one statement; rows that are there already are skipped. -/
  | bulk
  /-- One row with one statement; a row that is there already is noticed and skipped. -/
  | perRow
deriving DecidableEq, Repr

/-- Settings of the database. -/
structure DatabaseSettings where
  path : String := "auditor.db"
  insertMode : InsertMode := .bulk
deriving DecidableEq, Repr

/-- Settings of the debug log. -/
structure LogSettings where
  /-- Keep events, summaries and raw reports of every audit. -/
  debug : Bool := false
  dir : String := "logs"
deriving DecidableEq, Repr

/-- Settings of the processes. -/
structure ExecutionSettings where
  /-- Seconds a tool may take. -/
  timeout : Nat := 300
  /-- Megabytes of address space a tool may take. -/
  memoryLimit? : Option Nat := none
  /-- How many tools may run at once. -/
  jobs : Nat := 4
deriving DecidableEq, Repr

/-- All settings. -/
structure Settings where
  database : DatabaseSettings := {}
  log : LogSettings := {}
  execution : ExecutionSettings := {}
  tools : ToolSettings := {}
deriving DecidableEq, Repr

end LintLedger
