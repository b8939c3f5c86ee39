/-!
# Tools, tables and columns

Every tool has a name, which is how a user asks for it, and one findings table named after it.

A findings table has the columns common to all tables, followed by those of its tool.  What
is declared here is what the rows of a database are built from, and the statement that
creates a table in a relational database.  The columns of each tool are a contract with whatever
reads the database.

## Main Definitions

* `Tool` -- the twelve tools
* `Tool.all` -- the tools in the order in which they are offered and run by default
* `Tool.ofName?` -- a tool by the exact name
* `ColumnKind`, `Column`, `Table` -- the declarations
* `baseColumns` -- the columns common to all tables
* `Table.allColumns` -- the columns of a table in the order of its rows
* `Table.createStatement` -- the statement that creates the table
* `ownColumns` -- the columns of each tool
* `tables` -- the twelve tables in schema order
* `table?` -- a table by name
-/

namespace LintLedger

/-- A supported analysis tool. -/
inductive Tool where
  | bandit
  | mypy
  | radon
  | vulture
  | semgrep
  | eslint
  | gitleaks
  | biome
  | snyk
  | bearer
  | qlty
  | jscpd
deriving DecidableEq, Repr

namespace Tool

/-- The name of a tool. -/
def name : Tool → String
  | .bandit => "bandit"
  | .mypy => "mypy"
  | .radon => "radon"
  | .vulture => "vulture"
  | .semgrep => "semgrep"
  | .eslint => "eslint"
  | .gitleaks => "gitleaks"
  | .biome => "biome"
  | .snyk => "snyk"
  | .bearer => "bearer"
  | .qlty => "qlty"
  | .jscpd => "jscpd"

/-- The tools in the order in which they are offered. -/
def all : List Tool :=
  [.bandit, .mypy, .radon, .vulture, .semgrep, .eslint, .gitleaks, .biome, .snyk, .bearer,
   .qlty, .jscpd]

theorem mem_all (t : Tool) : t ∈ all := by cases t <;> decide

/-- The findings table of a tool. -/
def tableName (t : Tool) : String := t.name ++ "_results"

/-- The tool with the given name. -/
def ofName? (s : String) : Option Tool := all.find? fun t => t.name == s

end Tool

end LintLedger

namespace LintLedger.Schema

/-- What a column holds. -/
inductive ColumnKind where
  | text
  | integer
  | real
  /-- Stored as 0 or 1. -/
  | bool
  /-- Nested data, stored as JSON text. -/
  | json
deriving DecidableEq, Repr

/-- The storage class of a column. -/
def ColumnKind.storage : ColumnKind → String
  | .text => "TEXT"
  | .json => "TEXT"
  | .integer => "INTEGER"
  | .bool => "INTEGER"
  | .real => "REAL"

/-- A column of a table. -/
structure Column where
  name : String
  kind : ColumnKind
deriving DecidableEq, Repr

/-- The findings table of a tool. -/
structure Table where
  tool : Tool
  /-- The columns of the tool, after the common ones. -/
  own : List Column
deriving DecidableEq, Repr

/-- The columns common to all tables. -/
def baseColumns : List Column :=
  [⟨"pk", .text⟩, ⟨"scan_id", .integer⟩, ⟨"file_path", .text⟩, ⟨"root", .text⟩,
   ⟨"line_number", .integer⟩, ⟨"end_line_number", .integer⟩, ⟨"col_offset", .integer⟩,
   ⟨"end_col_offset", .integer⟩]

/-- An identifier in quotes, in which a quote is written twice: column names come from the
vocabulary of the tools and may be reserved words. -/
def quoted (identifier : String) : String :=
  String.ofList ('"' :: identifier.toList.flatMap (fun c => if c = '"' then ['"', '"'] else [c])
    ++ ['"'])

namespace Table

/-- The name of a table. -/
def name (t : Table) : String := t.tool.tableName

/-- All columns in the order of the rows. -/
def allColumns (t : Table) : List Column := baseColumns ++ t.own

/-- Whether a table has a column of the given name. -/
def hasColumn (t : Table) (column : String) : Bool := t.allColumns.any (·.name == column)

/-- Whether the rows of a table carry a message for people; rows of pure metrics do not. -/
def carriesMessage (t : Table) : Bool := t.own.any (·.name == "message")

/-- The definitions of the columns in the statement that creates the table: the identity is
the key, and rows go with the scan that owns them. -/
def definitions (t : Table) : List String :=
  [quoted "pk" ++ " TEXT PRIMARY KEY",
   quoted "scan_id" ++ " INTEGER NOT NULL REFERENCES scan_metadata(id) ON DELETE CASCADE"]
  ++ (baseColumns.drop 2 ++ t.own).map fun c => quoted c.name ++ " " ++ c.kind.storage

/-- The statements that create the table and its indexes. -/
def createStatement (t : Table) : String :=
  "CREATE TABLE IF NOT EXISTS " ++ t.name ++ " (\n    " ++ ",\n    ".intercalate t.definitions
    ++ "\n);\nCREATE INDEX IF NOT EXISTS idx_" ++ t.name ++ "_scan ON " ++ t.name
    ++ "(scan_id);\nCREATE INDEX IF NOT EXISTS idx_" ++ t.name ++ "_root ON " ++ t.name
    ++ "(root);"

end Table

/-! ## The findings tables -/

/-- The columns that the table of a tool has besides the common ones. -/
def ownColumns : Tool → List Column
  | .bandit =>
    [⟨"rule", .text⟩, ⟨"code", .text⟩, ⟨"message", .text⟩, ⟨"issue_severity", .text⟩,
     ⟨"issue_confidence", .text⟩, ⟨"more_info", .text⟩, ⟨"cwe", .json⟩]
  | .mypy => [⟨"message", .text⟩, ⟨"hint", .text⟩, ⟨"code", .text⟩, ⟨"severity", .text⟩]
  | .radon =>
    [⟨"metric_type", .text⟩, ⟨"cc_blocks", .integer⟩, ⟨"cc_total", .real⟩, ⟨"cc_max", .real⟩,
     ⟨"cc_avg", .real⟩, ⟨"cc_worst_rank", .text⟩, ⟨"cc_rank_counts", .json⟩, ⟨"mi", .real⟩,
     ⟨"mi_rank", .text⟩, ⟨"raw_loc", .integer⟩, ⟨"raw_sloc", .integer⟩, ⟨"raw_lloc", .integer⟩,
     ⟨"raw_comments", .integer⟩, ⟨"raw_multi", .integer⟩, ⟨"raw_blank", .integer⟩,
     ⟨"raw_single_comments", .integer⟩, ⟨"hal_volume", .real⟩, ⟨"hal_difficulty", .real⟩,
     ⟨"hal_effort", .real⟩, ⟨"hal_time", .real⟩, ⟨"hal_bugs", .real⟩, ⟨"extra", .json⟩]
  | .vulture => [⟨"message", .text⟩, ⟨"confidence", .integer⟩, ⟨"kind", .text⟩]
  | .eslint =>
    [⟨"row_type", .text⟩, ⟨"rule_id", .text⟩, ⟨"severity", .integer⟩, ⟨"message", .text⟩,
     ⟨"fatal", .bool⟩, ⟨"fix", .bool⟩, ⟨"node_type", .text⟩, ⟨"message_id", .text⟩,
     ⟨"suggestion_count", .integer⟩, ⟨"suggestions", .json⟩, ⟨"fix_text", .text⟩,
     ⟨"fix_range", .json⟩, ⟨"error_count", .integer⟩, ⟨"warning_count", .integer⟩,
     ⟨"fixable_error_count", .integer⟩, ⟨"fixable_warning_count", .integer⟩, ⟨"mi", .real⟩,
     ⟨"mi_rank", .text⟩, ⟨"metrics", .json⟩]
  | .semgrep =>
    [⟨"check_id", .text⟩, ⟨"severity", .text⟩, ⟨"message", .text⟩, ⟨"fix", .text⟩,
     ⟨"fingerprint", .text⟩, ⟨"category", .text⟩, ⟨"confidence", .text⟩, ⟨"likelihood", .text⟩,
     ⟨"impact", .text⟩, ⟨"cwe", .json⟩, ⟨"owasp", .json⟩, ⟨"references", .json⟩,
     ⟨"technology", .json⟩, ⟨"source_url", .text⟩, ⟨"metadata", .json⟩]
  | .gitleaks =>
    [⟨"rule_id", .text⟩, ⟨"description", .text⟩, ⟨"message", .text⟩, ⟨"fingerprint", .text⟩,
     ⟨"secret", .text⟩, ⟨"match_text", .text⟩, ⟨"entropy", .real⟩, ⟨"commit_sha", .text⟩,
     ⟨"author", .text⟩, ⟨"email", .text⟩, ⟨"commit_date", .text⟩, ⟨"tags", .json⟩]
  | .biome =>
    [⟨"category", .text⟩, ⟨"severity", .text⟩, ⟨"message", .text⟩, ⟨"span_start", .integer⟩,
     ⟨"span_end", .integer⟩, ⟨"tags", .json⟩, ⟨"advices", .json⟩]
  | .snyk =>
    [⟨"rule_id", .text⟩, ⟨"rule_name", .text⟩, ⟨"level", .text⟩, ⟨"message", .text⟩,
     ⟨"fingerprint", .text⟩, ⟨"help_text", .text⟩, ⟨"tags", .json⟩, ⟨"properties", .json⟩]
  | .bearer =>
    [⟨"rule_id", .text⟩, ⟨"title", .text⟩, ⟨"severity", .text⟩, ⟨"message", .text⟩,
     ⟨"fingerprint", .text⟩, ⟨"cwe_ids", .json⟩, ⟨"category_groups", .json⟩,
     ⟨"code_extract", .text⟩, ⟨"documentation_url", .text⟩]
  | .qlty =>
    [⟨"rule_id", .text⟩, ⟨"rule_name", .text⟩, ⟨"level", .text⟩, ⟨"message", .text⟩,
     ⟨"fingerprint", .text⟩, ⟨"tool_name", .text⟩, ⟨"tags", .json⟩, ⟨"properties", .json⟩]
  | .jscpd =>
    [⟨"row_type", .text⟩, ⟨"rule_id", .text⟩, ⟨"fingerprint", .text⟩, ⟨"message", .text⟩,
     ⟨"format", .text⟩, ⟨"lines", .integer⟩, ⟨"tokens", .integer⟩, ⟨"counterpart", .json⟩,
     ⟨"clones", .integer⟩, ⟨"duplicated_lines", .integer⟩, ⟨"percentage", .real⟩]

/-- The table of a tool. -/
def tableOf (t : Tool) : Table := ⟨t, ownColumns t⟩

/-- The tools in schema order, which is the order of every document made from the store. -/
def order : List Tool :=
  [.bandit, .mypy, .radon, .vulture, .eslint, .semgrep, .gitleaks, .biome, .snyk, .bearer,
   .qlty, .jscpd]

theorem order_perm_all : order.Perm Tool.all := by decide

/-- The findings tables in schema order. -/
def tables : List Table := order.map tableOf

/-- The table of the given name. -/
def table? (name : String) : Option Table := tables.find? (·.name == name)

/-- The tables whose rows carry a message. -/
def messageTables : List Table := tables.filter Table.carriesMessage

end LintLedger.Schema
