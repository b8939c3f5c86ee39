import LintLedger.Proofs.Analyzer.Fields
import LintLedger.Proofs.Analyzer.Report

/-!
# The row of a scan

A report of ESLint becomes a row for each message and a row for each file, and a last row that sums
up the scan.  What the last row says is told from the rows in front of it: its counts are the sums
of those of the files, and its metrics say how many rows there are of what kind.  Counts are kept
within 64 bits by wrapping around, also on the way, which does no harm if the sums fit.

## Main Definitions

* `Eslint.accepted` -- the entries of a report that count
* `Eslint.rowsOf` -- the rows of one kind
* `Eslint.IssueRow`, `Eslint.FileRow`, `Eslint.Block` -- the rows of an entry
* `Eslint.Tells` -- how often the rows have which key
* `Eslint.Measures`, `Eslint.SumsUp` -- what the row of a scan says of other rows

## Main Statements

* `Eslint.pick_totals` -- a count of a scan is the sum of those of its entries, wrapped around
* `Eslint.sumsUp` -- the row of a scan sums up the rows of its entries
* `Eslint.read_of_report` -- the rows of a report
-/

namespace LintLedger.Eslint

/-! ## Columns -/

/-- The kind of a row. -/
def kindOf? (f : Finding) : Option String := (f.column? "row_type").bind Json.str?

/-- The rule of a row. -/
def ruleOf? (f : Finding) : Option String := (f.column? "rule_id").bind Json.str?

/-- The severity of a row, as the text of its number, if it is that of a warning or of an error. -/
def gradeOf? (f : Finding) : Option String :=
  (((f.column? "severity").bind Json.int64?).filter isGraded).map toString

/-- A count of a row. -/
def countIn (column : String) (f : Finding) : Int :=
  ((f.column? column).bind Json.int64?).getD 0

/-- The rows of one kind. -/
def rowsOf (kind : String) (rows : List Finding) : List Finding :=
  rows.filter fun f => kindOf? f == some kind

/-- A count that an entry states; a missing one is zero. -/
def stated (member : String) (entry : Json) : Int := (Json.asInt? (entry.get? member)).getD 0

/-- A column for counts, the member of an entry that it is taken from, and its place in a sum. -/
structure CountColumn where
  column : String
  member : String
  pick : Counts → Int

/-- The columns for counts. -/
def countColumns : List CountColumn :=
  [⟨"error_count", "errorCount", Counts.errors⟩, ⟨"warning_count", "warningCount", Counts.warnings⟩,
    ⟨"fixable_error_count", "fixableErrorCount", Counts.fixableErrors⟩,
    ⟨"fixable_warning_count", "fixableWarningCount", Counts.fixableWarnings⟩]

/-- The rules with a threshold, with the members of the metrics for them. -/
def thresholds : List (String × String) :=
  [("complexity", "complexity"), ("max_depth", "max-depth"), ("max_params", "max-params"),
    ("max_lines_per_function", "max-lines-per-function")]

/-! ## The rows of a report -/

/-- The entries of a report that count: they name a file, which is a source. -/
def accepted (report : Json) : List Json :=
  (Json.itemsOf (some report)).filter fun entry => (entry.textAt? "filePath").any isSource

section Rows

variable (ctx : PathContext) (root : String)

/-- The row of a message of an entry. -/
structure IssueRow (entry message : Json) (f : Finding) : Prop where
  kind : kindOf? f = some "issue"
  file : ∃ name, entry.textAt? "filePath" = some name ∧ f.file = ctx.filePath name
  root : f.root = root
  rule : f.column? "rule_id" = (Json.asText? (message.get? "ruleId")).map .str
  severity : f.column? "severity" = (Json.asInt? (message.get? "severity")).map Json.ofInt

/-- The row of the file of an entry. -/
structure FileRow (entry : Json) (f : Finding) : Prop where
  kind : kindOf? f = some "file"
  file : ∃ name, entry.textAt? "filePath" = some name ∧ f.file = ctx.filePath name
  root : f.root = root
  counts : ∀ c ∈ countColumns, f.column? c.column = some (Json.ofInt (stated c.member entry))

/-- The rows of an entry: one for each of its messages, and behind them that of its file. -/
inductive Block (entry : Json) : List Finding → Prop
  | mk {issues : List Finding} {file : Finding}
      (hissues : List.Forall₂ (IssueRow ctx root entry)
        (Json.itemsOf (entry.get? "messages")) issues)
      (hfile : FileRow ctx root entry file) : Block entry (issues ++ [file])

end Rows

/-- Exactly the keys of some rows, each with the number of the rows that have it. -/
structure Tells (key? : Finding → Option String) (rows : List Finding) (m : Assoc Json) : Prop where
  ascending : Assoc.Ascending m
  find? : ∀ key, Assoc.find? key m =
    if (rows.filterMap key?).count key = 0 then none
    else some (Json.ofNat ((rows.filterMap key?).count key))

/-- The metrics of some rows. -/
structure Measures (rows : List Finding) (metrics : Json) : Prop where
  files : metrics.get? "files" = some (Json.ofNat (rowsOf "file" rows).length)
  severities : ∃ bySeverity : Assoc Json, metrics.get? "by_severity" = some (.obj bySeverity) ∧
    Tells gradeOf? (rowsOf "issue" rows) bySeverity
  rules : ∃ byRule : Assoc Json, metrics.get? "by_rule" = some (.obj byRule) ∧
    Tells ruleOf? (rowsOf "issue" rows) byRule ∧
    (∀ p ∈ thresholds,
      metrics.dig? [p.1, "count"] = some ((Assoc.find? p.2 byRule).getD (Json.ofNat 0))) ∧
    metrics.get? "import_cycles" =
      some ((Assoc.find? "import/no-cycle" byRule).getD (Json.ofNat 0))

/-- The row of a scan, which sums up other rows. -/
structure SumsUp (rows : List Finding) (scan : Finding) : Prop where
  kind : kindOf? scan = some "scan"
  counts : ∀ c ∈ countColumns, scan.column? c.column =
    some (Json.ofInt ((rowsOf "file" rows).map (countIn c.column)).sum)
  metrics : ∃ metrics, scan.column? "metrics" = some metrics ∧ Measures rows metrics

/-! ## Sums -/

theorem wrap_wrap_add (i j : Int) : wrap (wrap i + j) = wrap (i + j) := Int.bmod_add_bmod

/-- What 64 bits hold is not wrapped around. -/
theorem wrap_of_fitsInt64 {i : Int} (h : Text.fitsInt64 i = true) : wrap i = i := by
  have hbounds := Json.fitsInt64_iff.mp h
  refine Int.bmod_eq_of_le ?_ ?_ <;>
    simp only [show Nat.pow 2 64 = 18446744073709551616 from rfl] <;> omega

theorem pick_add {c : CountColumn} (hc : c ∈ countColumns) (a b : Counts) :
    c.pick (a.add b) = wrap (c.pick a + c.pick b) := by
  simp only [countColumns, List.mem_cons, List.not_mem_nil, or_false] at hc
  rcases hc with rfl | rfl | rfl | rfl <;> rfl

theorem pick_counts {c : CountColumn} (hc : c ∈ countColumns) (e : Entry) :
    c.pick e.counts = stated c.member e.json := by
  simp only [countColumns, List.mem_cons, List.not_mem_nil, or_false] at hc
  rcases hc with rfl | rfl | rfl | rfl <;> rfl

/-- **A count of a scan is the sum of those of its entries**, wrapped around. -/
theorem pick_totals {c : CountColumn} (hc : c ∈ countColumns) (entries : List Entry) :
    c.pick (totals entries) = wrap (entries.map fun e => stated c.member e.json).sum := by
  induction entries using List.reverseRecOn with
  | nil =>
    simp only [countColumns, List.mem_cons, List.not_mem_nil, or_false] at hc
    rcases hc with rfl | rfl | rfl | rfl <;> rfl
  | append_singleton entries e ih =>
    have hstep : totals (entries ++ [e]) = (totals entries).add e.counts := List.foldl_concat ..
    rw [hstep, pick_add hc, ih, pick_counts hc, wrap_wrap_add, List.map_append, List.sum_append,
      List.map_singleton, List.sum_singleton]

/-! ## Columns of rows -/

section Rows

variable (ctx : PathContext) (root : String)

theorem kindOf?_issueRow (file : String) (message : Json) :
    kindOf? (issueRow file root message) = some "issue" := by
  rw [kindOf?, row_type_issueRow]
  rfl

theorem kindOf?_fileRow (e : Entry) :
    kindOf? (fileRow ctx (ctx.filePath e.file) root e) = some "file" := by
  rw [kindOf?, (isFileRow ctx root e).row_type]
  rfl

theorem kindOf?_scanRow (entries : List Entry) :
    kindOf? (scanRow ctx root entries) = some "scan" := by
  rw [kindOf?, row_type_scanRow]
  rfl

theorem rule_issueRow (file : String) (message : Json) :
    (issueRow file root message).column? "rule_id" = (rule? message).map .str := by
  simp [issueRow, Finding.column?]

theorem severity_issueRow (file : String) (message : Json) :
    (issueRow file root message).column? "severity" = (severity? message).map Json.ofInt := by
  have hnumber : (Option.map Json.ofInt (severity? message)).filter (fun v => !v.isNull) =
      (severity? message).map Json.ofInt := by
    cases severity? message <;> rfl
  simp [issueRow, Finding.column?, hnumber]

theorem ruleOf?_issueRow (file : String) (message : Json) :
    ruleOf? (issueRow file root message) = rule? message := by
  rw [ruleOf?, rule_issueRow]
  cases rule? message <;> rfl

theorem gradeOf?_issueRow (file : String) (message : Json) :
    gradeOf? (issueRow file root message) =
      ((severity? message).filter isGraded).map toString := by
  rw [gradeOf?, severity_issueRow]
  cases hseverity : severity? message with
  | none => rfl
  | some i =>
    have hfits : Text.fitsInt64 i = true := Json.fitsInt64_of_asInt? hseverity
    have hint : (Json.ofInt i).int64? = some i := if_pos hfits
    rw [Option.map_some, Option.bind_some, hint]

theorem counts_fileRow {c : CountColumn} (hc : c ∈ countColumns) (e : Entry) :
    (fileRow ctx (ctx.filePath e.file) root e).column? c.column =
      some (Json.ofInt (stated c.member e.json)) := by
  rw [← pick_counts hc]
  simp only [countColumns, List.mem_cons, List.not_mem_nil, or_false] at hc
  rcases hc with rfl | rfl | rfl | rfl <;>
    simp [fileRow, withCounts, Finding.column?, Json.isNull, Json.ofInt]

theorem counts_scanRow {c : CountColumn} (hc : c ∈ countColumns) (entries : List Entry) :
    (scanRow ctx root entries).column? c.column =
      some (Json.ofInt (c.pick (totals entries))) := by
  simp only [countColumns, List.mem_cons, List.not_mem_nil, or_false] at hc
  rcases hc with rfl | rfl | rfl | rfl <;>
    simp [scanRow, withCounts, Finding.column?, Json.isNull, Json.ofInt]

theorem metrics_scanRow (entries : List Entry) :
    (scanRow ctx root entries).column? "metrics" = some (metricsOf entries).toJson := by
  simp [scanRow, withCounts, Finding.column?, Json.isNull, Metrics.toJson]

/-! ## Rows of one kind -/

theorem rowsOf_entryRows (kind : String) (e : Entry) :
    rowsOf kind (entryRows ctx root e) =
      (if kind = "issue" then e.messages.map (issueRow (ctx.filePath e.file) root) else []) ++
        if kind = "file" then [fileRow ctx (ctx.filePath e.file) root e] else [] := by
  have hissues : rowsOf kind (e.messages.map (issueRow (ctx.filePath e.file) root)) =
      if kind = "issue" then e.messages.map (issueRow (ctx.filePath e.file) root) else [] := by
    rw [rowsOf, List.filter_map]
    split
    · rename_i hkind
      rw [List.filter_eq_self.mpr fun m _ => ?_]
      rw [Function.comp_apply, kindOf?_issueRow, hkind, beq_self_eq_true]
    · rename_i hkind
      rw [List.filter_eq_nil_iff.mpr fun m _ => ?_, List.map_nil]
      rw [Function.comp_apply, kindOf?_issueRow]
      simpa using Ne.symm hkind
  have hfile : rowsOf kind [fileRow ctx (ctx.filePath e.file) root e] =
      if kind = "file" then [fileRow ctx (ctx.filePath e.file) root e] else [] := by
    rw [rowsOf, List.filter_singleton, kindOf?_fileRow]
    by_cases hkind : kind = "file"
    · rw [if_pos hkind, hkind, beq_self_eq_true]
      rfl
    · rw [if_neg hkind, beq_eq_false_iff_ne.mpr fun h => hkind (Option.some.inj h).symm]
      rfl
  rw [entryRows, rowsOf, List.filter_append]
  exact congrArg₂ _ hissues hfile

theorem rowsOf_flatMap (kind : String) (entries : List Entry) :
    rowsOf kind (entries.flatMap (entryRows ctx root)) =
      entries.flatMap fun e => rowsOf kind (entryRows ctx root e) := List.filter_flatMap

/-- Every entry has the row of its file. -/
theorem rowsOf_file (entries : List Entry) :
    rowsOf "file" (entries.flatMap (entryRows ctx root)) =
      entries.map fun e => fileRow ctx (ctx.filePath e.file) root e := by
  simp only [rowsOf_flatMap, rowsOf_entryRows]
  exact List.flatMap_pure_eq_map _ entries

/-- What the issues of the entries are told by is what their messages are told by. -/
theorem filterMap_rowsOf_issue {key? : Finding → Option String} {read? : Json → Option String}
    (h : ∀ file message, key? (issueRow file root message) = read? message)
    (entries : List Entry) :
    (rowsOf "issue" (entries.flatMap (entryRows ctx root))).filterMap key? =
      (entries.flatMap Entry.messages).filterMap read? := by
  have hissues (e : Entry) : rowsOf "issue" (entryRows ctx root e) =
      e.messages.map (issueRow (ctx.filePath e.file) root) := by
    rw [rowsOf_entryRows]
    exact List.append_nil _
  rw [rowsOf_flatMap, List.filterMap_flatMap, List.filterMap_flatMap]
  refine List.flatMap_congr fun e _ => ?_
  rw [hissues, List.filterMap_map]
  exact List.filterMap_congr fun message _ => h _ message

/-! ## Metrics -/

/-- Counts of what rows are told by tell of them. -/
theorem tells_countOf (key? : Finding → Option String) (rows : List Finding) :
    Tells key? rows ((Radon.countOf (rows.filterMap key?)).mapValues Json.ofNat) where
  ascending := Assoc.ascending_mapValues (Radon.ascending_countOf _) _
  find? key := by
    have hfind := Assoc.find?_map (fun _ => Json.ofNat) (Radon.countOf (rows.filterMap key?)) key
    rw [Radon.find?_countOf] at hfind
    refine hfind.trans ?_
    split <;> rfl

/-- How often a key occurs, whether or not it occurs. -/
theorem Tells.getD_find? {key? : Finding → Option String} {rows : List Finding} {m : Assoc Json}
    (h : Tells key? rows m) (key : String) :
    (Assoc.find? key m).getD (Json.ofNat 0) = Json.ofNat ((rows.filterMap key?).count key) := by
  rw [h.find?]
  split
  · rename_i hzero
    rw [hzero]
    rfl
  · rfl

/-- How often a rule was broken. -/
theorem length_filter_rule? (rule : String) (messages : List Json) :
    (messages.filter fun m => rule? m == some rule).length =
      (messages.filterMap rule?).count rule := by
  rw [List.count_filterMap, List.countP_eq_length_filter]

/-- **The metrics of a scan measure the rows of its entries.** -/
theorem measures_metricsOf (entries : List Entry) :
    Measures (entries.flatMap (entryRows ctx root)) (metricsOf entries).toJson := by
  have hrules := filterMap_rowsOf_issue ctx root (ruleOf?_issueRow root) entries
  have hgrades := filterMap_rowsOf_issue ctx root (gradeOf?_issueRow root) entries
  have hfiles := rowsOf_file ctx root entries
  generalize entries.flatMap (entryRows ctx root) = rows at hrules hgrades hfiles ⊢
  have hbyRule : (metricsOf entries).byRule =
      Radon.countOf ((rowsOf "issue" rows).filterMap ruleOf?) := by
    rw [hrules]
    rfl
  have hbySeverity : (metricsOf entries).bySeverity =
      Radon.countOf ((rowsOf "issue" rows).filterMap gradeOf?) := by
    rw [hgrades, ← List.map_filterMap, ← List.filter_filterMap]
    rfl
  have htold := tells_countOf ruleOf? (rowsOf "issue" rows)
  rw [← hbyRule] at htold
  have hcount (rule : String) :
      Json.ofNat ((entries.flatMap Entry.messages).filter fun m => rule? m == some rule).length =
        (Assoc.find? rule ((metricsOf entries).byRule.mapValues Json.ofNat)).getD
          (Json.ofNat 0) := by
    rw [htold.getD_find?, hrules, length_filter_rule?]
  refine ⟨?_, ⟨_, rfl, ?_⟩, ⟨_, rfl, htold, ?_, congrArg some (hcount _)⟩⟩
  · rw [hfiles, List.length_map]
    rfl
  · rw [hbySeverity]
    exact tells_countOf ..
  · simp only [thresholds, List.forall_mem_cons, List.not_mem_nil, false_imp_iff, implies_true,
      and_true]
    exact ⟨congrArg some (hcount _), congrArg some (hcount _), congrArg some (hcount _),
      congrArg some (hcount _)⟩

/-! ## Reports -/

/-- **The row of a scan sums up the rows of its entries**, if the sums fit in 64 bits. -/
theorem sumsUp {entries : List Entry}
    (h : ∀ c ∈ countColumns,
      Text.fitsInt64 (entries.map fun e => stated c.member e.json).sum = true) :
    SumsUp (entries.flatMap (entryRows ctx root)) (scanRow ctx root entries) where
  kind := kindOf?_scanRow ctx root entries
  counts := by
    intro c hc
    have hcounts (e : Entry) : countIn c.column (fileRow ctx (ctx.filePath e.file) root e) =
        stated c.member e.json := by
      have hfits : (Json.ofInt (stated c.member e.json)).int64? = some (stated c.member e.json) :=
        if_pos (Json.fitsInt64_getD_asInt? _)
      rw [countIn, counts_fileRow ctx root hc, Option.bind_some, hfits, Option.getD_some]
    rw [counts_scanRow ctx root hc, pick_totals hc, wrap_of_fitsInt64 (h c hc), rowsOf_file,
      List.map_map]
    exact congrArg (fun counts : List Int => some (Json.ofInt counts.sum))
      (List.map_congr_left fun e _ => (hcounts e).symm)
  metrics := ⟨_, metrics_scanRow ctx root entries, measures_metricsOf ctx root entries⟩

end Rows

/-- The entries that count, with their files. -/
theorem forall₂_entriesOf (report : Json) :
    List.Forall₂ (fun entry e => e.json = entry ∧ entry.textAt? "filePath" = some e.file)
      (accepted report) (entriesOf report) := by
  refine forall₂_filterMap (fun entry => ?_) (fun entry e he => ?_) _
  · cases hfile : entry.textAt? "filePath" with
    | none => rfl
    | some file => cases hsource : isSource file <;> simp [Option.filter, hsource]
  · obtain ⟨file, hfile, rfl⟩ := Option.map_eq_some_iff.mp he
    exact ⟨rfl, (Option.filter_eq_some_iff.mp hfile).1⟩

/-- The entries that count and their files, each on its own. -/
theorem map_entriesOf (report : Json) :
    (entriesOf report).map (·.json) = accepted report ∧
      (entriesOf report).map (·.file) =
        (accepted report).filterMap fun entry => entry.textAt? "filePath" := by
  have hentries := forall₂_entriesOf report
  generalize accepted report = entries, entriesOf report = es at hentries
  induction hentries with
  | nil => exact ⟨rfl, rfl⟩
  | cons h _ ih =>
    obtain ⟨hjson, hfile⟩ := h
    rw [List.map_cons, List.map_cons, List.filterMap_cons_some hfile, hjson, ih.1, ih.2]
    exact ⟨rfl, rfl⟩

theorem block_entryRows (ctx : PathContext) (root : String) {entry : Json} {e : Entry}
    (hjson : e.json = entry) (hfile : entry.textAt? "filePath" = some e.file) :
    Block ctx root entry (entryRows ctx root e) := by
  refine .mk ?_ ?_
  · subst hjson
    rw [List.forall₂_map_right_iff, Entry.messages, List.forall₂_same]
    exact fun message _ => ⟨kindOf?_issueRow root _ message, ⟨_, hfile, by simp [issueRow]⟩,
      by simp [issueRow], rule_issueRow root _ message, severity_issueRow root _ message⟩
  · subst hjson
    exact ⟨kindOf?_fileRow ctx root e, ⟨_, hfile, (isFileRow ctx root e).file⟩,
      by simp [fileRow, withCounts], fun c hc => counts_fileRow ctx root hc e⟩

/-- Among the rows of entries and the row of a scan the latter is the only one for a scan. -/
theorem rowsOf_scan (ctx : PathContext) (root : String) (entries : List Entry) :
    rowsOf "scan" (entries.flatMap (entryRows ctx root) ++ [scanRow ctx root entries]) =
      [scanRow ctx root entries] := by
  have hrows : rowsOf "scan" (entries.flatMap (entryRows ctx root)) = [] := by
    rw [rowsOf_flatMap, List.flatMap_eq_nil_iff]
    intro e _
    rw [rowsOf_entryRows]
    rfl
  have hscan : rowsOf "scan" [scanRow ctx root entries] = [scanRow ctx root entries] := by
    rw [rowsOf, List.filter_singleton, kindOf?_scanRow]
    rfl
  rw [rowsOf, List.filter_append]
  exact congrArg₂ _ hrows hscan

/-- **The rows of a report**: for each entry that counts one for each of its messages and one for
its file, and behind them one for the scan, which sums them up if the sums fit in 64 bits. -/
theorem read_of_report {run : RunRecord}
    (h : ∀ c ∈ countColumns,
      Text.fitsInt64 ((accepted run.document).map (stated c.member)).sum = true)
    (ctx : PathContext) :
    ∃ blocks scan, analyzer.read run ctx = .ok (blocks.flatten ++ [scan]) ∧
      List.Forall₂
        (Block ctx (ctx.root ((accepted run.document).filterMap fun entry =>
          entry.textAt? "filePath")))
        (accepted run.document) blocks ∧
      rowsOf "scan" (blocks.flatten ++ [scan]) = [scan] ∧ SumsUp blocks.flatten scan := by
  obtain ⟨hjson, hfile⟩ := map_entriesOf run.document
  rw [← hjson] at h
  simp only [List.map_map] at h
  rw [← hfile]
  refine ⟨(entriesOf run.document).map (entryRows ctx _), scanRow ctx _ (entriesOf run.document),
    rfl, ?_, rowsOf_scan .., sumsUp ctx _ h⟩
  rw [List.forall₂_map_right_iff]
  exact (forall₂_entriesOf run.document).imp fun entry e he => block_entryRows ctx _ he.1 he.2

/-! ## A report with a file that is no source -/

namespace Linted

/-- A message for a rule. -/
def message (rule : String) (severity : Int) : Json :=
  .obj [("ruleId", .str rule), ("severity", .num (.int severity))]

/-- An entry with an error, a warning that can be mended, and some messages. -/
def entry (file : String) (messages : List Json) : Json :=
  .obj [("errorCount", .num (.int 1)), ("filePath", .str file), ("fixableWarningCount", .str "1"),
    ("messages", .arr messages), ("warningCount", .num (.int 1))]

/-- A run over two sources and a style sheet. -/
def run : RunRecord where
  tool := "eslint"
  cmd := []
  cwd := "/ws/ui"
  exitCode := 1
  duration := 0
  stdout := ""
  stderr := ""
  payload? := some (.arr [
    entry "src/app.tsx" [message "complexity" 2, message "prefer-const" 1],
    entry "styles/main.css" [message "complexity" 2], entry "bin/start" []])

end Linted

open Linted in
/-- Two messages and two files are summed up. -/
theorem read_of_two_sources :
    (∀ c ∈ countColumns,
        Text.fitsInt64 ((accepted run.document).map (stated c.member)).sum = true) ∧
      ∃ i j f g scan, analyzer.read run ⟨some "/ws/ui", none, none⟩ = .ok [i, j, f, g, scan] ∧
        i.column? "rule_id" = some (.str "complexity") ∧
        f.column? "fixable_warning_count" = some (Json.ofInt 1) ∧ SumsUp [i, j, f, g] scan := by
  have hfits : ∀ c ∈ countColumns,
      Text.fitsInt64 ((accepted run.document).map (stated c.member)).sum = true := by decide
  obtain ⟨blocks, scan, hread, hblocks, -, hsum⟩ :=
    read_of_report hfits ⟨some "/ws/ui", none, none⟩
  change List.Forall₂ _ [_, _] blocks at hblocks
  obtain _ | ⟨⟨hissues, hfile⟩, _ | ⟨⟨hissues', hfile'⟩, _ | _⟩⟩ := hblocks
  change List.Forall₂ _ [_, _] _ at hissues
  change List.Forall₂ _ [] _ at hissues'
  obtain _ | ⟨hi, _ | ⟨hj, _ | _⟩⟩ := hissues
  obtain _ | _ := hissues'
  have hcount := hfile.counts
    ⟨"fixable_warning_count", "fixableWarningCount", Counts.fixableWarnings⟩
    (by simp [countColumns])
  exact ⟨hfits, _, _, _, _, scan, hread, hi.rule, hcount, hsum⟩

end LintLedger.Eslint
