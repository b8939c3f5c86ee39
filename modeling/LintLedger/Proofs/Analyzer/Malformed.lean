import LintLedger.Proofs.Analyzer.Report
import LintLedger.Proofs.Analyzer.Rule

/-!
# Malformed reports

A tool that breaks down prints something that is no document.  Such a report brings no finding, as
the readers take the null document in its place and find nothing in it -- with one exception.
ESLint has a row for the whole scan besides those for messages and files, and writes it for the
null document as well.  That row looks like the one of a clean scan, and it has the key of the row
of every later scan, which is therefore not stored.

## Main Definitions

* `Tool.readingDocuments` -- the tools whose reports are documents
* `RunRecord.Malformed` -- a run whose output is no document

## Main Statements

* `read_of_malformed` -- what malformed reports bring
* `Eslint.key_scanRow` -- the rows of two scans of one place have one key
* `Eslint.scanRow_of_malformed` -- a row made from output that is no document
-/

namespace LintLedger

/-- The tools whose reports are documents; Mypy and Vulture print lines. -/
def Tool.readingDocuments : List Tool :=
  [.bandit, .radon, .semgrep, .eslint, .gitleaks, .biome, .snyk, .bearer, .qlty, .jscpd]

/-- A run with no document put together from it and none on standard output. -/
structure RunRecord.Malformed (run : RunRecord) : Prop where
  payload? : run.payload? = none
  stdout : Json.parse? (Text.trim run.stdout) = none

namespace RunRecord.Malformed

variable {run : RunRecord}

/-- The readers take the null document in place of a malformed report. -/
theorem document_eq (h : run.Malformed) : run.document = .null := by
  rw [document, report?, h.payload?]
  show (Json.parse? (Text.trim run.stdout)).getD .null = .null
  rw [h.stdout, Option.getD_none]

theorem detectPayload_eq (h : run.Malformed) : detectPayload run.stdout = none := by
  unfold detectPayload
  dsimp only
  split
  · exact h.stdout
  · exact h.stdout
  · rfl

/-- Radon asks what standard output shows, and takes the null document as well. -/
theorem bundle_eq (h : run.Malformed) : Radon.bundleOf run = .null := by
  rw [Radon.bundleOf, h.payload?, h.detectPayload_eq, Option.or_none, Option.getD_none]

end RunRecord.Malformed

/-- No list and no members are found in the null document. -/
@[simp] theorem Json.itemsOf_get?_null (key : String) : Json.itemsOf (Json.null.get? key) = [] :=
  rfl

/-! ## What is left of a malformed report -/

section Readers

variable {run : RunRecord} (h : run.Malformed) (ctx : PathContext)

include h

theorem Bandit.findings_of_malformed : Bandit.findings run ctx = [] := by
  simp [Bandit.findings, h.document_eq]

theorem Radon.findings_of_malformed : Radon.findings run ctx = [] := by
  have hnone (metric : String) : Radon.entriesOf .null metric = [] := rfl
  simp [Radon.findings, h.bundle_eq, hnone]

theorem Semgrep.findings_of_malformed : Semgrep.findings run ctx = [] := by
  simp [Semgrep.findings, h.document_eq]

/-- The scan has its row whatever the report is. -/
theorem Eslint.findings_of_malformed :
    Eslint.findings run ctx = [Eslint.scanRow ctx (ctx.root []) []] := by
  have hnone : Eslint.entriesOf .null = [] := rfl
  rw [Eslint.findings, h.document_eq, hnone]
  rfl

theorem Gitleaks.findings_of_malformed (settings : GitleaksSettings) :
    Gitleaks.findings settings run ctx = [] := by
  simp [Gitleaks.findings, h.document_eq, Gitleaks.leaksOf]

theorem Biome.findings_of_malformed : Biome.findings run ctx = [] := by
  simp [Biome.findings, h.document_eq]

theorem Sarif.findings_of_malformed (tool : Tool) (wraps : Bool) :
    Sarif.findings tool wraps run ctx = [] := by
  simp [Sarif.findings, Sarif.hits, h.document_eq]

theorem Bearer.findings_of_malformed : Bearer.findings run ctx = [] := by
  simp [Bearer.findings, Bearer.itemsOf, h.document_eq]

theorem Jscpd.findings_of_malformed (settings : JscpdSettings) :
    Jscpd.findings settings run ctx = [] := by
  have hclones : Jscpd.listedClones .null = [] := rfl
  have hfiles (root : String) : Jscpd.fileRows ctx root .null = [] := rfl
  simp [Jscpd.findings, Jscpd.issueRows, Jscpd.firstOfKey, h.document_eq, hclones, hfiles]

end Readers

/-- **Malformed reports** are read without an error and bring no finding, apart from the row that
ESLint has for the whole scan. -/
theorem read_of_malformed (settings : ToolSettings) {t : Tool} (ht : t ∈ Tool.readingDocuments)
    (ctx : PathContext) {run : RunRecord} (h : run.Malformed) :
    (analyzerOf settings t).read run ctx =
      .ok (if t = .eslint then [Eslint.scanRow ctx (ctx.root []) []] else []) := by
  cases t with
  | bandit => exact congrArg Except.ok (Bandit.findings_of_malformed h ctx)
  | mypy => exact absurd ht (by decide)
  | radon => exact congrArg Except.ok (Radon.findings_of_malformed h ctx)
  | vulture => exact absurd ht (by decide)
  | semgrep => exact congrArg Except.ok (Semgrep.findings_of_malformed h ctx)
  | eslint => exact congrArg Except.ok (Eslint.findings_of_malformed h ctx)
  | gitleaks => exact congrArg Except.ok (Gitleaks.findings_of_malformed h ctx settings.gitleaks)
  | biome => exact congrArg Except.ok (Biome.findings_of_malformed h ctx)
  | snyk => exact congrArg Except.ok (Sarif.findings_of_malformed h ctx .snyk false)
  | bearer => exact congrArg Except.ok (Bearer.findings_of_malformed h ctx)
  | qlty => exact congrArg Except.ok (Sarif.findings_of_malformed h ctx .qlty true)
  | jscpd => exact congrArg Except.ok (Jscpd.findings_of_malformed h ctx settings.jscpd)

/-- A report that was cut off in the middle. -/
theorem read_of_cut_report :
    let run : RunRecord := ⟨"radon", [], "/w/p", 0, 0.0, "\x7b\"cc\": [", "", none⟩
    let ctx := PathContext.ofRun run (some "/w/p") none
    Tool.radon ∈ Tool.readingDocuments ∧ run.Malformed ∧
      (analyzerOf {} .radon).read run ctx = .ok [] := by
  intro run ctx
  have hrun : run.Malformed := ⟨rfl, by decide⟩
  exact ⟨by decide, hrun, read_of_malformed {} (by decide) ctx hrun⟩

/-! ## The row of a scan -/

/-- **The rows of two scans of one place have one key**, whatever the reports were. -/
theorem Eslint.key_scanRow (ctx : PathContext) (root : String) (entries entries' : List Entry) :
    (scanRow ctx root entries).key = (scanRow ctx root entries').key := by
  have hfields : ∀ name ∈ Finding.valueFields, (scanRow ctx root entries).fields.find? name =
      (scanRow ctx root entries').fields.find? name := by
    intro name hname
    have hmetrics : name ≠ "metrics" := by rintro rfl; exact absurd hname (by decide)
    have hcounts : name ∉ ["error_count", "warning_count", "fixable_error_count",
        "fixable_warning_count"] := by
      intro hmem
      fin_cases hmem <;> exact absurd hname (by decide)
    simp [scanRow, find?_withCounts, hmetrics, hcounts]
  refine (Finding.sameIdentity_of_find?_eq ?_ ?_ ?_ ?_ hfields).key_eq ?_ ?_
  all_goals simp [scanRow, withCounts]

/-- A row is written from output that is no document, and it has the key of the row of every report
on that project. -/
theorem Eslint.scanRow_of_malformed :
    let run : RunRecord := ⟨"eslint", [], "/w/p", 0, 0.0, "oops", "", none⟩
    let ctx := PathContext.ofRun run (some "/w/p") none
    run.Malformed ∧ ∃ f, (analyzerOf {} .eslint).read run ctx = .ok [f] ∧
      f.column? "row_type" = some (.str "scan") ∧
        ∀ entries, (scanRow ctx "/w/p" entries).key = f.key := by
  intro run ctx
  have hrun : run.Malformed := ⟨rfl, by decide⟩
  refine ⟨hrun, scanRow ctx "/w/p" [], ?_, row_type_scanRow .., fun _ => key_scanRow ..⟩
  exact congrArg Except.ok (Eslint.findings_of_malformed hrun ctx)

end LintLedger
