import LintLedger.Json.Basic
import LintLedger.Schema.Tables

/-!
# Findings

A finding is one row that a report gives rise to: where it was found, and what the owning
table wants to know besides.  The place columns are common to all tables; the rest are fields
under the column names of the table.

## Main Definitions

* `Region` -- lines and columns
* `Finding` -- the row before it has an owner
* `Finding.json`, `Finding.text`, … -- set a field; an absent value sets nothing
* `Finding.column?` -- a column by name, place columns included
-/

namespace LintLedger

/-- Lines and columns of a finding, as far as they were reported. -/
structure Region where
  line? : Option Int
  endLine? : Option Int
  column? : Option Int
  endColumn? : Option Int
deriving DecidableEq, Repr

/-- The region of a finding that has no position. -/
def Region.none : Region := ⟨.none, .none, .none, .none⟩

/-- One row of a report. -/
structure Finding where
  /-- The table the row is for. -/
  table : String
  /-- The identity, if it was given; otherwise it is computed from the content. -/
  pk? : Option String
  file : String
  root : String
  region : Region
  fields : Assoc Json

namespace Finding

/-- A finding of a tool in a file, with no position and no fields. -/
def blank (tool : Tool) (file root : String) : Finding where
  table := tool.tableName
  pk? := .none
  file := file
  root := root
  region := .none
  fields := []

/-- The finding on the given lines. -/
def lines (f : Finding) (first last : Option Int) : Finding :=
  { f with region := { f.region with line? := first, endLine? := last } }

/-- The finding between the given columns. -/
def columns (f : Finding) (first last : Option Int) : Finding :=
  { f with region := { f.region with column? := first, endColumn? := last } }

/-- Sets a field, unless the value is absent or null. -/
def json (f : Finding) (key : String) : Option Json → Finding
  | .none => f
  | some .null => f
  | some v => { f with fields := f.fields.insert key v }

/-- Sets a field to a text. -/
def text (f : Finding) (key : String) (s? : Option String) : Finding :=
  f.json key (s?.map Json.str)

/-- Sets a field to an integer. -/
def int (f : Finding) (key : String) (i? : Option Int) : Finding :=
  f.json key (i?.map Json.ofInt)

/-- Sets a field to a float; infinities and not-a-number set nothing. -/
def real (f : Finding) (key : String) (x? : Option Float) : Finding :=
  f.json key (x?.map Json.ofFloat)

/-- Sets a field to a truth value. -/
def flag (f : Finding) (key : String) (b? : Option Bool) : Finding :=
  f.json key (b?.map Json.bool)

/-- A column by its name: a place column, else a field. -/
def column? (f : Finding) (key : String) : Option Json :=
  match key with
  | "file_path" => some (.str f.file)
  | "root" => some (.str f.root)
  | "line_number" => f.region.line?.map Json.ofInt
  | "end_line_number" => f.region.endLine?.map Json.ofInt
  | "col_offset" => f.region.column?.map Json.ofInt
  | "end_col_offset" => f.region.endColumn?.map Json.ofInt
  | other => f.fields.find? other

end Finding

end LintLedger
