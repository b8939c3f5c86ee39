import LintLedger.Proofs.Json.Parts
import LintLedger.Proofs.Store.Persist
import LintLedger.Store.Extract
import Mathlib.Data.List.Forall2

/-!
# What a row keeps of its finding

A row has the table, the identity, the file, the root and the place of its finding, and a cell for
each column of its table.  What the cell shows depends on the kind of the column: a string stays
what it is in a column of texts and is read as a number in a column of numbers, and a value that
has no place in a column leaves nothing there.

## Main Definitions

* `Cell.Shows` -- what the cell of a column shows of a value
* `Row.ShowsFields`, `Row.Shows` -- a row keeps what it can of a finding

## Main Statements

* `Cell.shows_ofJson` -- every value is shown by its cell
* `Cell.Shows.eq_text`, `Cell.Shows.exists_real` -- strings and floats in columns of their kinds
* `Row.shows_ofFinding` -- the row that a finding becomes
* `Row.ShowsFields.exists_cell?` -- the cell that is found under the name of a column

## Design Notes

`Cell.Shows` has one rule for each kind of column and each kind of value, so that it can be read
without the functions that make cells.  A finding may hold any value under any name; that the
findings of reports hold only what their columns take is another matter.
-/

namespace LintLedger

namespace Cell

/-- What the cell of a column of some kind shows of the value that a finding has for it. -/
inductive Shows : Schema.ColumnKind → Option Json → Cell → Prop where
  /-- There is nothing to show of an absent value, and nothing is shown of null. -/
  | absent {kind : Schema.ColumnKind} : Shows kind none .null
  | null {kind : Schema.ColumnKind} : Shows kind (some .null) .null
  /-- A column of texts holds a string as it is and anything else as compact JSON. -/
  | string (s : String) : Shows .text (some (.str s)) (.text s)
  | written {v : Json} :
      v ≠ .null → (∀ s, v ≠ .str s) → Shows .text (some v) (.text v.render)
  /-- A column of nested data holds everything as compact JSON. -/
  | document {v : Json} : v ≠ .null → Shows .json (some v) (.text v.render)
  /-- Where integers are stored, truth values are zero and one, … -/
  | flag {kind : Schema.ColumnKind} (b : Bool) : kind.storage = "INTEGER" →
      Shows kind (some (.bool b)) (.integer (if b then 1 else 0))
  /-- … integers stay what they are, but for those that do not fit in 64 bits, … -/
  | integer {kind : Schema.ColumnKind} (i : Int) : kind.storage = "INTEGER" →
      Shows kind (some (.num (.int i))) (.integer (max Text.int64Min (min Text.int64Max i)))
  /-- … floats lose their fractions, … -/
  | truncated {kind : Schema.ColumnKind} (x : Float) : kind.storage = "INTEGER" →
      Shows kind (some (.num (.real x))) (.integer (truncateFloat x))
  /-- … and nothing is shown of arrays and objects. -/
  | items {kind : Schema.ColumnKind} (vs : List Json) : kind.storage = "INTEGER" →
      Shows kind (some (.arr vs)) .null
  | members {kind : Schema.ColumnKind} (vs : List (String × Json)) : kind.storage = "INTEGER" →
      Shows kind (some (.obj vs)) .null
  /-- A string is read as an integer in a column of integers, if it writes one, and is nothing in a
  column of truth values. -/
  | digits {s : String} {i : Int} :
      Text.int64Of? (Text.trim s) = some i → Shows .integer (some (.str s)) (.integer i)
  | noDigits {s : String} :
      Text.int64Of? (Text.trim s) = none → Shows .integer (some (.str s)) .null
  | noFlag (s : String) : Shows .bool (some (.str s)) .null
  /-- A column of floats holds what the value writes, and nothing of what writes no number. -/
  | float {v : Json} {x y : Float} :
      v.Writes x → (x == y) = true → Shows .real (some v) (.real y)
  | noFloat {v : Json} : (∀ x, v.Writes x → x.isNaN = true) → Shows .real (some v) .null

/-- What is a number is equal to itself. -/
theorem beq_self_of_isNaN_eq_false {x : Float} (h : x.isNaN = false) : (x == x) = true := by
  obtain ⟨m⟩ := x
  change m.unpack.isNaN = false at h
  change m.unpack.beq m.unpack = true
  cases hm : m.unpack with
  | notANumber => rw [hm] at h; cases h
  | infinity sign => cases sign <;> rfl
  | zero _ => rfl
  | finite sign mantissa exponent hpos =>
    have hsame : (compare exponent exponent).then (compare mantissa mantissa) = .eq := by simp
    cases sign with
    | positive => exact congrArg (some · == some .eq) hsame
    | negative => exact congrArg (some ·.swap == some .eq) hsame

/-- Apart from null, a value is stored in the way of its column. -/
theorem ofJson_of_ne_null {kind : Schema.ColumnKind} {v : Json} (hnull : v ≠ .null) :
    ofJson kind v =
      match kind with
      | .text => ofText v
      | .integer => ofInteger v
      | .bool => ofBool v
      | .real => ofReal v
      | .json => .text v.render := by
  cases v with
  | null => exact absurd rfl hnull
  | _ => rfl

theorem shows_ofText {v : Json} (hnull : v ≠ .null) : (ofText v).Shows .text (some v) := by
  cases v with
  | str s => exact .string s
  | _ => exact .written hnull (by simp)

/-- What is no text is stored among integers in the same way in columns of both kinds. -/
theorem shows_ofBool {kind : Schema.ColumnKind} (hkind : kind.storage = "INTEGER") {v : Json}
    (hnull : v ≠ .null) (htext : ∀ s, v ≠ .str s) : (ofBool v).Shows kind (some v) := by
  cases v with
  | null => exact absurd rfl hnull
  | bool b => exact .flag b hkind
  | num n =>
    cases n with
    | int i => exact .integer i hkind
    | real x => exact .truncated x hkind
  | str s => exact absurd rfl (htext s)
  | arr vs => exact .items vs hkind
  | obj vs => exact .members vs hkind

theorem shows_ofInteger {v : Json} (hnull : v ≠ .null) :
    (ofInteger v).Shows .integer (some v) := by
  cases v with
  | str s =>
    have hread : ofInteger (.str s) = ofOption .integer (Text.int64Of? (Text.trim s)) := rfl
    rw [hread]
    cases hdigits : Text.int64Of? (Text.trim s) with
    | none => exact .noDigits hdigits
    | some i => exact .digits hdigits
  | _ => exact shows_ofBool rfl hnull (by simp)

/-- A float is stored as an equal number, if it is a number; only the sign of zero is lost. -/
theorem shows_ofFloat {v : Json} {x : Float} (h : Json.asFloat? (some v) = some x) :
    (ofFloat x).Shows .real (some v) := by
  have hwrites : v.Writes x := Json.asFloat?_some_eq_some_iff.mp h
  unfold ofFloat
  cases hnan : x.isNaN with
  | true =>
    refine .noFloat fun y hy => ?_
    rw [Json.asFloat?_some_eq_some_iff.mpr hy] at h
    exact Option.some.inj h ▸ hnan
  | false =>
    by_cases hzero : (x == 0.0) = true
    · simpa [hzero] using Shows.float hwrites hzero
    · simpa [hzero] using Shows.float hwrites (beq_self_of_isNaN_eq_false hnan)

theorem shows_ofReal (v : Json) : (ofReal v).Shows .real (some v) := by
  rw [ofReal]
  cases hread : Json.asFloat? (some v) with
  | some x => exact shows_ofFloat hread
  | none =>
    refine .noFloat fun x hx => ?_
    rw [Json.asFloat?_some_eq_some_iff.mpr hx] at hread
    cases hread

/-- **Every value is shown by its cell.** -/
theorem shows_ofJson (kind : Schema.ColumnKind) (v? : Option Json) :
    (ofOption (ofJson kind) v?).Shows kind v? := by
  cases v? with
  | none => exact .absent
  | some v =>
    by_cases hnull : v = .null
    · rw [hnull]
      exact .null
    · rw [ofOption, ofJson_of_ne_null hnull]
      cases kind with
      | text => exact shows_ofText hnull
      | integer => exact shows_ofInteger hnull
      | real => exact shows_ofReal v
      | json => exact .document hnull
      | bool =>
        cases v with
        | str s => exact .noFlag s
        | _ => exact shows_ofBool rfl hnull (by simp)

/-- A string in a column of texts is stored as it is. -/
theorem Shows.eq_text {s : String} {cell : Cell} (h : cell.Shows .text (some (.str s))) :
    cell = .text s := by
  cases h with
  | string _ => rfl
  | written _ htext => exact absurd rfl (htext s)

/-- A float in a column of floats is stored as an equal one. -/
theorem Shows.exists_real {x : Float} {cell : Cell} (h : cell.Shows .real (some (.num (.real x))))
    (hnan : x.isNaN = false) : ∃ y, cell = .real y ∧ (x == y) = true := by
  cases h with
  | truncated _ hstorage => exact absurd hstorage (by decide)
  | float hwrites heq =>
    cases hwrites with
    | number _ => exact ⟨_, rfl, heq⟩
  | noFloat hnone =>
    have hx : x.isNaN = true := hnone x (.number (.real x))
    rw [hnan] at hx
    cases hx

end Cell

namespace Schema

/-- A table that is found is that of its tool. -/
theorem eq_tableOf_of_table?_eq_some {name : String} {table : Table}
    (h : table? name = some table) : table = tableOf table.tool := by
  obtain ⟨t, -, rfl⟩ := List.mem_map.mp (List.mem_of_find?_eq_some h)
  rfl

/-- The columns of a tool have names of their own. -/
theorem find?_ownColumns {t : Tool} {c : Column} (hc : c ∈ ownColumns t) :
    (ownColumns t).find? (fun d => d.name == c.name) = some c := by
  have hnames : ∀ c ∈ ownColumns t,
      (ownColumns t).find? (fun d => d.name == c.name) = some c := by
    cases t <;> decide
  exact hnames c hc

end Schema

namespace Row

variable {t : Tool} {f : Finding} {r : Row}

/-- The cells of the tool's own columns, column by column. -/
def ShowsFields (r : Row) (f : Finding) : Prop :=
  List.Forall₂ (fun c cell => Cell.Shows c.kind (f.fields.find? c.name) cell)
    (Schema.ownColumns r.tool) r.own

/-- A row keeps of a finding its table and identity, its file and root, its lines and columns, and
what the columns of the table show of its fields. -/
structure Shows (r : Row) (f : Finding) : Prop where
  table : r.tool.tableName = f.table
  pk : r.pk = f.pk
  file : r.file = f.file
  root : r.root = f.root
  region : r.region = f.region
  fields : r.ShowsFields f

/-- No column of a tool is one of the places that all tables have. -/
theorem column?_of_mem_ownColumns {c : Schema.Column} (hc : c ∈ Schema.ownColumns t) :
    f.column? c.name = f.fields.find? c.name := by
  have hplaces : ∀ c ∈ Schema.ownColumns t, c.name ∉ ["file_path", "root", "line_number",
      "end_line_number", "col_offset", "end_col_offset"] := by
    cases t <;> decide
  have hname := hplaces c hc
  unfold Finding.column?
  split
  case h_7 => rfl
  all_goals
    rename_i heq
    exact absurd hname (by simp [heq])

/-- Column by column, the row of a finding shows the fields of the finding. -/
theorem showsFields_ofFinding (t : Tool) (owner : Int) (pk : String) (f : Finding) :
    (ofFinding (Schema.tableOf t) owner pk f).ShowsFields f := by
  refine List.forall₂_map_right_iff.mpr (List.forall₂_same.mpr fun c hc => ?_)
  rw [column?_of_mem_ownColumns hc]
  exact Cell.shows_ofJson c.kind _

/-- **The row that a finding becomes** keeps what it can of the finding. -/
theorem shows_ofFinding {table : Schema.Table} (h : Schema.table? f.table = some table)
    (owner : Int) : (ofFinding table owner f.pk f).Shows f where
  table := Schema.name_of_table?_eq_some h
  pk := rfl
  file := rfl
  root := rfl
  region := rfl
  fields := by
    rw [Schema.eq_tableOf_of_table?_eq_some h]
    exact showsFields_ofFinding _ _ _ f

/-- What a row shows has its key. -/
theorem Shows.key_eq (h : r.Shows f) : r.key = f.key := by rw [key, Finding.key, h.table, h.pk]

/-- The cell beside the first column of some name. -/
theorem exists_find?_zip {R : Schema.Column → Cell → Prop} {cols : List Schema.Column}
    {cells : List Cell} (h : List.Forall₂ R cols cells) {c : Schema.Column} {name : String}
    (hfind : cols.find? (fun d => d.name == name) = some c) :
    ∃ cell, (cols.zip cells).find? (fun p => p.1.name == name) = some (c, cell) ∧ R c cell := by
  induction h with
  | nil => cases hfind
  | @cons d cell cols cells hd _ ih =>
    rw [List.find?_cons] at hfind
    rw [List.zip_cons_cons, List.find?_cons]
    cases hname : d.name == name with
    | true =>
      rw [hname] at hfind
      cases hfind
      exact ⟨cell, rfl, hd⟩
    | false =>
      rw [hname] at hfind
      exact ih hfind

/-- The cell that is found under the name of a column shows the field of that name. -/
theorem ShowsFields.exists_cell? (h : r.ShowsFields f) {c : Schema.Column}
    (hc : c ∈ Schema.ownColumns r.tool) :
    ∃ cell, r.cell? c.name = some cell ∧ cell.Shows c.kind (f.fields.find? c.name) := by
  obtain ⟨cell, hcell, hshows⟩ := exists_find?_zip h (Schema.find?_ownColumns hc)
  exact ⟨cell, by rw [cell?, hcell, Option.map_some], hshows⟩

end Row

end LintLedger
