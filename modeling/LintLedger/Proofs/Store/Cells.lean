import LintLedger.Proofs.Analyzer.Fields
import LintLedger.Proofs.Analyzer.Report
import LintLedger.Proofs.Json.RoundTrip
import LintLedger.Proofs.Store.Contents

/-!
# What the cells of a row hold

The row of a finding has one cell for each column of its table.  A field that fits its column is
stored without loss, and a field that has no column is not stored at all.  The fields of all
tools have columns that they fit, but for the help texts of Qlty.

## Main Definitions

* `Cell.Holds` -- a cell holds a value without loss
* `Finding.Stored` -- a field that the rows of a finding hold without loss

## Main Statements

* `Cell.Shows.holds` -- a value that its column takes
* `Row.stored_of_fits` -- a field that fits a column
* `Row.stored_of_mem_read` -- what is stored of the findings of a report
* `HelpText.not_stored` -- a help text that is not stored
-/

namespace LintLedger

/-- A cell of a column of some kind holds a value without loss: the same text, the same integer, a
truth value as zero or one, the same number, or a text that reads back as the same value if that
can be said of the floats in it. -/
def Cell.Holds : Schema.ColumnKind → Json → Cell → Prop
  | .text, v, cell => ∃ s, v = .str s ∧ cell = .text s
  | .integer, v, cell => ∃ i, v = .num (.int i) ∧ cell = .integer i
  | .bool, v, cell => ∃ b : Bool, v = .bool b ∧ cell = .integer (if b then 1 else 0)
  | .real, v, cell => ∃ x y, v = .num (.real x) ∧ cell = .real y ∧ (x == y) = true
  | .json, v, cell => ∃ s, cell = .text s ∧ (v.FloatsReadBack → Json.parse? s = some v)

/-- A field of a finding that the table of a tool has a column for, and that every row of the
finding holds there without loss. -/
def Finding.Stored (t : Tool) (f : Finding) (key : String) (v : Json) : Prop :=
  ∃ kind, ⟨key, kind⟩ ∈ Schema.ownColumns t ∧ ∀ owner pk, ∃ cell,
    (Row.ofFinding (Schema.tableOf t) owner pk f).cell? key = some cell ∧ cell.Holds kind v

/-! ## Values in cells -/

theorem isNaN_of_isFinite {x : Float} (h : x.isFinite = true) : x.isNaN = false := by
  obtain ⟨m⟩ := x
  change m.unpack.isFinite = true at h
  change m.unpack.isNaN = false
  cases hm : m.unpack with
  | notANumber => rw [hm] at h; cases h
  | infinity _ => rfl
  | zero _ => rfl
  | finite _ _ _ _ => rfl

/-- **A value that its column takes is stored without loss**, for what its cell shows is then the
value itself. -/
theorem Cell.Shows.holds {kind : Schema.ColumnKind} {v : Json} {cell : Cell}
    (h : cell.Shows kind (some v)) (htakes : kind.Takes v) : cell.Holds kind v := by
  cases kind with
  | text =>
    obtain ⟨s, rfl⟩ := htakes
    exact ⟨s, rfl, h.eq_text⟩
  | integer =>
    obtain ⟨i, rfl, hfits⟩ := htakes
    have hbounds := Json.fitsInt64_iff.mp hfits
    -- no integer of 64 bits is cut
    have hwhole : max Text.int64Min (min Text.int64Max i) = i := by
      simp only [Text.int64Min, Text.int64Max]
      omega
    cases h with
    | integer _ _ => exact ⟨i, rfl, congrArg Cell.integer hwhole⟩
  | bool =>
    obtain ⟨b, rfl⟩ := htakes
    cases h with
    | flag _ _ => exact ⟨b, rfl, rfl⟩
  | real =>
    obtain ⟨x, rfl, hfinite⟩ := htakes
    obtain ⟨y, hcell, heq⟩ := h.exists_real (isNaN_of_isFinite hfinite)
    exact ⟨x, y, rfl, hcell, heq⟩
  | json =>
    obtain ⟨hnull, hreadable⟩ := htakes
    cases h with
    | null => exact absurd rfl hnull
    | document _ => exact ⟨v.render, rfl, Json.parse?_render hreadable⟩
    | flag _ hstorage | integer _ hstorage | truncated _ hstorage | items _ hstorage
    | members _ hstorage => exact absurd hstorage (by decide)

/-! ## Rows -/

namespace Row

variable {t : Tool} {f : Finding}

/-- A field that fits a column of the table is stored. -/
theorem stored_of_fits {cols : List Schema.Column} (h : f.Fits cols) {key : String} {v : Json}
    (hv : (key, v) ∈ f.fields) {kind : Schema.ColumnKind} (hown : ⟨key, kind⟩ ∈ Schema.ownColumns t)
    (htakes : kind.Takes v) : f.Stored t key v := by
  have hfind : f.fields.find? key = some v := (Assoc.find?_eq_some_iff h.ascending).mpr hv
  refine ⟨kind, hown, fun owner pk => ?_⟩
  obtain ⟨cell, hcell, hshows⟩ := (showsFields_ofFinding t owner pk f).exists_cell? hown
  rw [hfind] at hshows
  exact ⟨cell, hcell, hshows.holds htakes⟩

/-- **What is stored of the findings of a report.**  They are for the table of the tool, and each
of their fields has a column that holds it without loss.  The one exception are the help texts of
Qlty, which are not stored. -/
theorem stored_of_mem_read {settings : ToolSettings} {run : RunRecord} {ctx : PathContext}
    {findings : List Finding} (hread : (analyzerOf settings t).read run ctx = .ok findings)
    (hrun : run.Sound) (hf : f ∈ findings) :
    f.table = t.tableName ∧ ∀ key v, (key, v) ∈ f.fields → f.Stored t key v ∨
      (t = .qlty ∧ key = "help_text" ∧
        ∀ owner pk, (ofFinding (Schema.tableOf t) owner pk f).cell? key = none) := by
  refine ⟨table_of_mem_read hread f hf, fun key v hv => ?_⟩
  have hfits := fits_of_mem_read hread hrun f hf
  obtain ⟨kind, hcolumn, htakes⟩ := hfits.takes (key, v) hv
  have hcolumns : ⟨key, kind⟩ ∈ Schema.ownColumns t ∨
      (t = .qlty ∧ (⟨key, kind⟩ : Schema.Column) = ⟨"help_text", .text⟩) := by
    cases t
    case qlty => exact (List.mem_cons.mp hcolumn).symm.imp_right fun h => ⟨rfl, h⟩
    all_goals exact .inl hcolumn
  rcases hcolumns with hown | ⟨rfl, hhelp⟩
  · exact .inl (stored_of_fits hfits hv hown htakes)
  · cases hhelp
    exact .inr ⟨rfl, rfl, fun owner pk => rfl⟩

end Row

/-! ## A help text -/

namespace HelpText

/-- A rule with a help text. -/
def rule : Json :=
  .obj [("help", .obj [("text", .str "Use a parameter.")]), ("id", .str "S608")]

/-- A result for the rule. -/
def result : Json :=
  .obj [
    ("locations", .arr [
      .obj [("physicalLocation", .obj [
        ("artifactLocation", .obj [("uri", .str "/srv/api/db.py")])])]]),
    ("ruleId", .str "S608")]

/-- A report with one result. -/
def report : Json :=
  .obj [("runs", .arr [
    .obj [
      ("results", .arr [result]),
      ("tool", .obj [("driver", .obj [("name", .str "ruff"), ("rules", .arr [rule])])])]])]

/-- A run that gave the report. -/
def run : RunRecord where
  tool := "qlty"
  cmd := ["qlty", "check"]
  cwd := "/srv/api"
  exitCode := 0
  duration := 0.0
  stdout := ""
  stderr := ""
  payload? := some report

/-- The context of the run. -/
def ctx : PathContext := ⟨some "/srv/api", some "/srv/api", none⟩

/-- The hit of the result. -/
def hit : Sarif.Hit where
  uri := "/srv/api/db.py"
  region := .none
  ruleId? := some "S608"
  ruleName? := none
  level? := none
  message? := none
  fingerprint? := none
  help? := some "Use a parameter."
  tags? := none
  properties? := none
  driver? := some "ruff"

/-- The finding of Snyk for the hit. -/
def snykFinding : Finding := Sarif.row .snyk ctx (ctx.root [hit.uri]) hit

/-- The finding of Qlty for the hit. -/
def qltyFinding : Finding :=
  (Sarif.row .qlty ctx (ctx.root [hit.uri]) hit).text "tool_name" hit.driver?

theorem read_snyk : (analyzerOf {} .snyk).read run ctx = .ok [snykFinding] := rfl

theorem read_qlty : (analyzerOf {} .qlty).read run ctx = .ok [qltyFinding] := rfl

theorem sound_run : run.Sound where
  payload := by
    rintro v ⟨⟩
    have hreadable : report.Readable 9 := by
      simp only [report, result, rule, Json.readable_obj, Json.readable_arr, Json.readable_str,
        Assoc.Ascending, List.forall_mem_cons, List.pairwise_cons, List.Pairwise.nil,
        List.not_mem_nil, false_imp_iff, implies_true, and_true]
      decide
    exact hreadable.mono (by decide)
  size := by
    rintro v (hpayload | hparse)
    · cases hpayload
      decide
    · have hnone : Json.parse? (Text.trim run.stdout) = none := rfl
      rw [hnone] at hparse
      cases hparse

/-- The finding of Qlty is stored but for the help text. -/
theorem stored_of_report :
    (analyzerOf {} .qlty).read run ctx = .ok [qltyFinding] ∧ run.Sound ∧
      qltyFinding ∈ [qltyFinding] ∧ qltyFinding.table = Tool.qlty.tableName ∧
      ∀ key v, (key, v) ∈ qltyFinding.fields → qltyFinding.Stored .qlty key v ∨
        (Tool.qlty = .qlty ∧ key = "help_text" ∧ ∀ owner pk,
          (Row.ofFinding (Schema.tableOf .qlty) owner pk qltyFinding).cell? key = none) :=
  ⟨read_qlty, sound_run, List.mem_singleton_self _,
    Row.stored_of_mem_read read_qlty sound_run (List.mem_singleton_self _)⟩

/-- **A help text that is not stored**: it is a field of the finding that Qlty has, but no column
of its table.  The finding that Snyk has for the same report is stored with it. -/
theorem not_stored :
    (analyzerOf {} .qlty).read run ctx = .ok [qltyFinding] ∧
      ("help_text", .str "Use a parameter.") ∈ qltyFinding.fields ∧
      (∀ c ∈ Schema.ownColumns .qlty, c.name ≠ "help_text") ∧
      ¬ qltyFinding.Stored .qlty "help_text" (.str "Use a parameter.") ∧
      (analyzerOf {} .snyk).read run ctx = .ok [snykFinding] ∧
      snykFinding.Stored .snyk "help_text" (.str "Use a parameter.") := by
  have hcolumns : ∀ c ∈ Schema.ownColumns .qlty, c.name ≠ "help_text" := by decide
  refine ⟨read_qlty, ?_, hcolumns, ?_, read_snyk, ?_⟩
  · exact Assoc.mem_of_find?_eq_some (by simp [qltyFinding, Sarif.row, hit, Json.isNull])
  · rintro ⟨kind, hcolumn, -⟩
    exact hcolumns _ hcolumn rfl
  · have hfits := fits_of_mem_read read_snyk sound_run _ (List.mem_singleton_self _)
    have hfield : ("help_text", Json.str "Use a parameter.") ∈ snykFinding.fields :=
      Assoc.mem_of_find?_eq_some (by simp [snykFinding, Sarif.row, hit, Json.isNull])
    have hcolumn : ⟨"help_text", .text⟩ ∈ Schema.ownColumns .snyk := by decide
    exact Row.stored_of_fits hfits hfield hcolumn ⟨_, rfl⟩

end HelpText

end LintLedger
