import LintLedger.Analyzer.Registry
import LintLedger.Proofs.Finding.Columns
import LintLedger.Proofs.Json.Parts
import Mathlib.Data.List.Forall2

/-!
# What reports bring

Two things hold of the reports of all twelve tools and make audits independent of their order: a
report brings rows for the table of its own tool only, and nothing but the report of ESLint is
read differently when there is a complexity document.

## Main Definitions

* `Radon.IsEntryOf`, `Radon.States` -- the maintainability index of a file in a document
* `Eslint.IsFileRow` -- a row of ESLint for a file, with its maintainability index

## Main Statements

* `forall₂_filterMap` -- one row for each entry that has one
* `table_of_mem_read` -- the findings of a report are for the table of the tool
* `read_withComplexity` -- the complexity document matters only to the analyzer that waits for it
* `usesComplexity_iff`, `providesComplexity_iff` -- which analyzers these are
* `Radon.maintainability?_eq_some_iff` -- the index that is found for a file
* `Eslint.isFileRow_of_mem`, `Eslint.exists_isFileRow` -- what ESLint takes from the complexity
  document
-/

namespace LintLedger

namespace Finding

/-! ## Setting fields -/

/-- Setting fields one after the other leaves the table. -/
theorem table_foldl {α : Type} {set : Finding → α → Finding}
    (hset : ∀ f a, (set f a).table = f.table) (f : Finding) (xs : List α) :
    (xs.foldl set f).table = f.table := by
  induction xs generalizing f with
  | nil => rfl
  | cons x rest ih => rw [List.foldl_cons, ih, hset]

end Finding

/-! ## The reports of the tools -/

/-- **One row for each entry that has one**, in the order of the entries. -/
theorem forall₂_filterMap {α β : Type} {R : α → β → Prop} {has : α → Bool} {row? : α → Option β}
    (hhas : ∀ x, has x = (row? x).isSome) (hrow : ∀ x y, row? x = some y → R x y) (xs : List α) :
    List.Forall₂ R (xs.filter has) (xs.filterMap row?) := by
  induction xs with
  | nil => exact .nil
  | cons x xs ih =>
    cases hx : row? x with
    | none =>
      rw [List.filterMap_cons_none hx, List.filter_cons_of_neg (by simp [hhas, hx])]
      exact ih
    | some y =>
      rw [List.filterMap_cons_some hx, List.filter_cons_of_pos (by simp [hhas, hx])]
      exact .cons (hrow x y hx) ih

section Tables

variable {run : RunRecord} {ctx : PathContext} {f : Finding}

theorem Bandit.table_of_mem (h : f ∈ Bandit.findings run ctx) :
    f.table = Tool.bandit.tableName := by
  obtain ⟨result, -, hissue⟩ := List.mem_filterMap.mp h
  obtain ⟨file, -, rfl⟩ := Option.map_eq_some_iff.mp hissue
  simp

theorem Mypy.table_of_mem (h : f ∈ Mypy.findings run ctx) : f.table = Tool.mypy.tableName := by
  obtain ⟨entry, -, hissue⟩ := List.mem_filterMap.mp h
  obtain ⟨file, -, rfl⟩ := Option.map_eq_some_iff.mp hissue
  simp

theorem Radon.table_row (root file metric : String) :
    (Radon.row ctx root file metric).table = Tool.radon.tableName := by simp [Radon.row]

theorem Radon.table_of_mem (h : f ∈ Radon.findings run ctx) :
    f.table = Tool.radon.tableName := by
  simp only [Radon.findings, List.mem_append, List.mem_filterMap] at h
  rcases h with ((⟨entry, -, hrow⟩ | ⟨entry, -, hrow⟩) | ⟨entry, -, hrow⟩) | ⟨entry, -, hrow⟩
  · obtain ⟨blocks, -, rfl⟩ := Option.map_eq_some_iff.mp hrow
    simp [Radon.table_row]
  · obtain ⟨mi, -, rfl⟩ := Option.map_eq_some_iff.mp hrow
    simp [Radon.table_row]
  · obtain ⟨loc, -, rfl⟩ := Option.map_eq_some_iff.mp hrow
    refine (Finding.table_foldl (fun _ _ => ?_) _ _).trans (Radon.table_row _ _ _)
    simp
  · obtain ⟨totals, -, rfl⟩ := Option.map_eq_some_iff.mp hrow
    refine (Finding.table_foldl (fun _ _ => ?_) _ _).trans (Radon.table_row _ _ _)
    simp

theorem Vulture.table_of_mem {settings : VultureSettings}
    (h : f ∈ Vulture.findings settings run ctx) : f.table = Tool.vulture.tableName := by
  obtain ⟨entry, -, rfl⟩ := List.mem_map.mp h
  simp [Vulture.row]

theorem Semgrep.table_of_mem (h : f ∈ Semgrep.findings run ctx) :
    f.table = Tool.semgrep.tableName := by
  obtain ⟨result, -, hissue⟩ := List.mem_filterMap.mp h
  obtain ⟨file, -, rfl⟩ := Option.map_eq_some_iff.mp hissue
  simp

theorem Eslint.table_of_mem (h : f ∈ Eslint.findings run ctx) :
    f.table = Tool.eslint.tableName := by
  simp only [Eslint.findings, Eslint.entryRows, List.mem_append, List.mem_flatMap, List.mem_map,
    List.mem_singleton] at h
  rcases h with ⟨entry, -, ⟨message, -, rfl⟩ | rfl⟩ | rfl
  · simp [Eslint.issueRow]
  · simp [Eslint.fileRow, Eslint.withCounts]
  · simp [Eslint.scanRow, Eslint.withCounts]

theorem Gitleaks.table_of_mem {settings : GitleaksSettings}
    (h : f ∈ Gitleaks.findings settings run ctx) : f.table = Tool.gitleaks.tableName := by
  obtain ⟨leak, -, hissue⟩ := List.mem_filterMap.mp h
  obtain ⟨file, -, rfl⟩ := Option.map_eq_some_iff.mp hissue
  simp

theorem Biome.table_of_mem (h : f ∈ Biome.findings run ctx) : f.table = Tool.biome.tableName := by
  obtain ⟨diagnostic, -, hissue⟩ := List.mem_filterMap.mp h
  obtain ⟨file, -, rfl⟩ := Option.map_eq_some_iff.mp hissue
  simp

theorem Sarif.table_of_mem {tool : Tool} {wraps : Bool}
    (h : f ∈ Sarif.findings tool wraps run ctx) : f.table = tool.tableName := by
  obtain ⟨hit, -, rfl⟩ := List.mem_map.mp h
  cases wraps <;> simp [Sarif.row]

theorem Bearer.table_of_mem (h : f ∈ Bearer.findings run ctx) :
    f.table = Tool.bearer.tableName := by
  obtain ⟨entry, -, hissue⟩ := List.mem_filterMap.mp h
  obtain ⟨file, -, rfl⟩ := Option.map_eq_some_iff.mp hissue
  simp

theorem Jscpd.table_sideRow (root : String) (c : Jscpd.Clone) (side counterpart : Jscpd.Side) :
    (Jscpd.sideRow ctx root c side counterpart).table = Tool.jscpd.tableName := by
  simp [Jscpd.sideRow]

theorem Jscpd.table_of_mem {settings : JscpdSettings} (h : f ∈ Jscpd.findings settings run ctx) :
    f.table = Tool.jscpd.tableName := by
  simp only [Jscpd.findings, Jscpd.issueRows, Jscpd.fileRows, Jscpd.cloneRows, List.mem_append,
    List.mem_flatMap, List.mem_cons, List.mem_map] at h
  rcases h with ⟨c, -, rfl | hother⟩ | ⟨format, -, source, -, rfl⟩
  · exact Jscpd.table_sideRow _ _ _ _
  · split at hother
    · rw [List.mem_singleton.mp hother, Jscpd.table_sideRow]
    · cases hother
  · simp [Jscpd.fileRow]

end Tables

/-- **The findings of a report are for the table of the tool.** -/
theorem table_of_mem_read {settings : ToolSettings} {t : Tool} {run : RunRecord}
    {ctx : PathContext} {findings : List Finding}
    (h : (analyzerOf settings t).read run ctx = .ok findings) :
    ∀ f ∈ findings, f.table = t.tableName := by
  intro f hf
  cases t <;> cases h
  case bandit => exact Bandit.table_of_mem hf
  case mypy => exact Mypy.table_of_mem hf
  case radon => exact Radon.table_of_mem hf
  case vulture => exact Vulture.table_of_mem hf
  case semgrep => exact Semgrep.table_of_mem hf
  case eslint => exact Eslint.table_of_mem hf
  case gitleaks => exact Gitleaks.table_of_mem hf
  case biome => exact Biome.table_of_mem hf
  case snyk => exact Sarif.table_of_mem hf
  case bearer => exact Bearer.table_of_mem hf
  case qlty => exact Sarif.table_of_mem hf
  case jscpd => exact Jscpd.table_of_mem hf

/-! ## Complexity -/

theorem usesComplexity_iff (settings : ToolSettings) (t : Tool) :
    (analyzerOf settings t).usesComplexity = true ↔ t = .eslint := by
  cases t <;> simp [analyzerOf, Analyzer.plain, Bandit.analyzer, Mypy.analyzer, Radon.analyzer,
    Vulture.analyzer, Semgrep.analyzer, Eslint.analyzer, Gitleaks.analyzer, Biome.analyzer,
    Snyk.analyzer, Bearer.analyzer, Qlty.analyzer, Jscpd.analyzer]

theorem providesComplexity_iff (settings : ToolSettings) (t : Tool) :
    (analyzerOf settings t).providesComplexity = true ↔ t = .radon := by
  cases t <;> simp [analyzerOf, Analyzer.plain, Bandit.analyzer, Mypy.analyzer, Radon.analyzer,
    Vulture.analyzer, Semgrep.analyzer, Eslint.analyzer, Gitleaks.analyzer, Biome.analyzer,
    Snyk.analyzer, Bearer.analyzer, Qlty.analyzer, Jscpd.analyzer]

/-- **The complexity document matters only to the analyzer that waits for it.** -/
theorem read_withComplexity {settings : ToolSettings} {t : Tool} (ht : t ≠ .eslint)
    (run : RunRecord) (anchor? : Option String) (c c' : Option Json) :
    (analyzerOf settings t).read run (PathContext.ofRun run anchor? c) =
      (analyzerOf settings t).read run (PathContext.ofRun run anchor? c') := by
  cases t <;> first | rfl | exact absurd rfl ht

/-! ## Maintainability indices -/

namespace Radon

variable {document entry : Json} {cwd? : Option String} {file : String} {x : Float}
  {rank? : Option String}

/-- The entry of a file among the maintainability indices of a document: the first one whose path is
absolutely that of the file. -/
def IsEntryOf (document : Json) (cwd? : Option String) (file : String) (entry : Json) : Prop :=
  ∃ before path after, document.get? "mi" = some (.obj (before ++ (path, entry) :: after)) ∧
    Path.ensureAbsolute path cwd? = Path.ensureAbsolute file cwd? ∧
    ∀ p ∈ before, Path.ensureAbsolute p.1 cwd? ≠ Path.ensureAbsolute file cwd?

/-- A document states an index for a file, and a rank perhaps, which goes by one of two names. -/
def States (document : Json) (cwd? : Option String) (file : String) (x : Float)
    (rank? : Option String) : Prop :=
  ∃ entry mi, IsEntryOf document cwd? file entry ∧ entry.get? "mi" = some mi ∧ mi.Writes x ∧
    rank? = (Json.asText? (entry.get? "rank")).or (Json.asText? (entry.get? "mi_rank"))

/-- The first entry in a section whose path is absolutely that of a file. -/
theorem find?_entriesOf_eq_some_iff :
    (∃ path, ((entriesOf document "mi").find? fun e =>
      Path.ensureAbsolute e.1 cwd? == Path.ensureAbsolute file cwd?) = some (path, entry)) ↔
    IsEntryOf document cwd? file entry := by
  simp only [List.find?_eq_some_iff_append, Bool.not_eq_true', beq_iff_eq, beq_eq_false_iff_ne]
  constructor
  · rintro ⟨path, hpath, before, after, hentries, hbefore⟩
    have hsection : document.get? "mi" = some (.obj (before ++ (path, entry) :: after)) := by
      unfold entriesOf at hentries
      cases hget : document.get? "mi" with
      | none => simp [hget] at hentries
      | some v =>
        rw [hget] at hentries
        cases v with
        | obj members => rw [← hentries]; rfl
        | _ => simp [Json.obj?] at hentries
    exact ⟨before, path, after, hsection, hpath, hbefore⟩
  · rintro ⟨before, path, after, hsection, hpath, hbefore⟩
    have hentries : entriesOf document "mi" = before ++ (path, entry) :: after := by
      rw [entriesOf, hsection]
      rfl
    exact ⟨path, hpath, before, after, hentries, hbefore⟩

/-- **The index that is found for a file** is the one that the document states. -/
theorem maintainability?_eq_some_iff :
    maintainability? document file cwd? = some (x, rank?) ↔
      States document cwd? file x rank? := by
  unfold maintainability? States
  simp only [Option.bind_eq_some_iff, Option.map_eq_some_iff, Json.asFloat?_eq_some_iff,
    Prod.mk.injEq]
  constructor
  · rintro ⟨⟨path, entry⟩, hfind, _, ⟨mi, hmi, hwrites⟩, rfl, hrank⟩
    exact ⟨entry, mi, find?_entriesOf_eq_some_iff.mp ⟨path, hfind⟩, hmi, hwrites, hrank.symm⟩
  · rintro ⟨entry, mi, hentry, hmi, hwrites, hrank⟩
    obtain ⟨path, hfind⟩ := find?_entriesOf_eq_some_iff.mpr hentry
    exact ⟨(path, entry), hfind, x, ⟨mi, hmi, hwrites⟩, rfl, hrank.symm⟩

end Radon

/-! ## File rows of ESLint -/

namespace Eslint

/-- A row for the file of an entry.  It has the index and the rank that the complexity document
states for the file, and neither if the document states none or there is no document.  An index that
is no finite number is left out. -/
structure IsFileRow (ctx : PathContext) (e : Entry) (f : Finding) : Prop where
  file : f.file = ctx.filePath e.file
  row_type : f.column? "row_type" = some (.str "file")
  stated : ∀ document x rank?, ctx.complexity? = some document →
    Radon.States document ctx.cwd? e.file x rank? →
    f.column? "mi" = (if x.isFinite then some (.num (.real x)) else none) ∧
      f.column? "mi_rank" = rank?.map Json.str
  unstated : (∀ document x rank?, ctx.complexity? = some document →
      ¬ Radon.States document ctx.cwd? e.file x rank?) →
    f.column? "mi" = none ∧ f.column? "mi_rank" = none

/-- The counts of a file are fields of their own. -/
theorem find?_withCounts (f : Finding) (c : Counts) {key : String}
    (h : key ∉ ["error_count", "warning_count", "fixable_error_count", "fixable_warning_count"]) :
    (withCounts f c).fields.find? key = f.fields.find? key := by
  simp only [List.mem_cons, List.not_mem_nil, or_false, not_or] at h
  obtain ⟨herror, hwarning, hfixable, hfixing⟩ := h
  simp [withCounts, herror, hwarning, hfixable, hfixing]

/-- The fields for the index and the rank that were found for a file. -/
theorem column?_fileRow (ctx : PathContext) (file root : String) (e : Entry) :
    let found? := ctx.complexity?.bind fun document =>
      Radon.maintainability? document e.file ctx.cwd?
    (fileRow ctx file root e).column? "mi" =
        found?.bind (fun i => if i.1.isFinite then some (.num (.real i.1)) else none) ∧
      (fileRow ctx file root e).column? "mi_rank" = (found?.bind fun i => i.2).map Json.str := by
  intro found?
  change (fileRow ctx file root e).fields.find? "mi" = _ ∧
    (fileRow ctx file root e).fields.find? "mi_rank" = _
  have hrow : fileRow ctx file root e =
      ((withCounts ((Finding.blank .eslint file root).text "row_type" (some "file"))
        e.counts).real "mi" (found?.map (·.1))).text "mi_rank" (found?.bind (·.2)) := rfl
  rw [hrow]
  refine ⟨?_, ?_⟩
  · cases found? with
    | none => simp [find?_withCounts]
    | some i =>
      cases hfinite : i.1.isFinite <;>
        simp [find?_withCounts, Option.filter, Json.isNull, Json.ofFloat, hfinite]
  · generalize found?.bind (fun i => i.2) = rank?
    simp [find?_withCounts]

/-- **The row of a file** is one. -/
theorem isFileRow (ctx : PathContext) (root : String) (e : Entry) :
    IsFileRow ctx e (fileRow ctx (ctx.filePath e.file) root e) := by
  obtain ⟨hmi, hrank⟩ := column?_fileRow ctx (ctx.filePath e.file) root e
  refine ⟨?_, ?_, ?_, ?_⟩
  · simp [fileRow, withCounts]
  · change (fileRow ctx (ctx.filePath e.file) root e).fields.find? "row_type" = _
    simp [fileRow, find?_withCounts, Json.isNull]
  · intro document x rank? hdocument hstates
    rw [hmi, hrank, hdocument, Option.bind_some, Radon.maintainability?_eq_some_iff.mpr hstates]
    exact ⟨rfl, rfl⟩
  · intro hnone
    have hfound : (ctx.complexity?.bind fun document =>
        Radon.maintainability? document e.file ctx.cwd?) = none := by
      refine Option.bind_eq_none_iff.mpr fun document hdocument => ?_
      refine Option.eq_none_iff_forall_ne_some.mpr fun i hi => ?_
      exact hnone document i.1 i.2 hdocument (Radon.maintainability?_eq_some_iff.mp hi)
    rw [hmi, hrank, hfound]
    exact ⟨rfl, rfl⟩

/-- The row of a message is no row of a file. -/
theorem row_type_issueRow (file root : String) (message : Json) :
    (issueRow file root message).column? "row_type" = some (.str "issue") := by
  change (issueRow file root message).fields.find? "row_type" = _
  simp [issueRow, Json.isNull]

/-- The row of a scan is no row of a file. -/
theorem row_type_scanRow (ctx : PathContext) (root : String) (entries : List Entry) :
    (scanRow ctx root entries).column? "row_type" = some (.str "scan") := by
  change (scanRow ctx root entries).fields.find? "row_type" = _
  simp [scanRow, find?_withCounts, Json.isNull]

/-- Every row of a file is that of an entry of the report. -/
theorem isFileRow_of_mem {run : RunRecord} {ctx : PathContext} {f : Finding}
    (hf : f ∈ findings run ctx) (hfile : f.column? "row_type" = some (.str "file")) :
    ∃ e ∈ entriesOf run.document, IsFileRow ctx e f := by
  simp only [findings, entryRows, List.mem_append, List.mem_flatMap, List.mem_map,
    List.mem_singleton] at hf
  rcases hf with ⟨e, he, ⟨message, -, rfl⟩ | rfl⟩ | rfl
  · simp [row_type_issueRow] at hfile
  · exact ⟨e, he, isFileRow ctx _ e⟩
  · simp [row_type_scanRow] at hfile

/-- Every entry of a report has the row of its file among the findings. -/
theorem exists_isFileRow {run : RunRecord} {ctx : PathContext} {e : Entry}
    (he : e ∈ entriesOf run.document) : ∃ f ∈ findings run ctx, IsFileRow ctx e f := by
  refine ⟨_, ?_, isFileRow ctx (ctx.root ((entriesOf run.document).map (·.file))) e⟩
  refine List.mem_append_left _ (List.mem_flatMap.mpr ⟨e, he, ?_⟩)
  exact List.mem_append_right _ List.mem_cons_self

end Eslint

end LintLedger
