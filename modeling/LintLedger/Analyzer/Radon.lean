import LintLedger.Analyzer.Basic

/-!
# Radon

Complexity metrics of Python sources.  The document of an audit has one section per metric,
each keyed by file: cyclomatic complexity, maintainability index, raw counts and Halstead
measures.

## Main Definitions

* `Radon.Complexity`, `Radon.complexityOf` -- the summary of the blocks of a file
* `Radon.maintainability?` -- the index reported for a file, by absolute path
* `Radon.analyzer` -- the analyzer
-/

namespace LintLedger.Radon

/-- The metrics, in the order in which the tool is asked for them. -/
def metrics : List String := ["cc", "mi", "raw", "hal"]

/-- The extra arguments of a metric. -/
def flagsOf (metric : String) : List String :=
  if metric = "cc" ∨ metric = "mi" then ["-s"] else []

/-- The command line for one metric. -/
def metricCommand (metric target : String) : List String :=
  ["radon", metric] ++ flagsOf metric ++ ["-j", target]

/-- The command line by which the tool is known. -/
def command (target : String) : List String := metricCommand "cc" target

/-! ## Cyclomatic complexity -/

/-- The ranks from best to worst. -/
def ranks : List String := ["A", "B", "C", "D", "E", "F"]

/-- Summary of the blocks of a file. -/
structure Complexity where
  blocks : Nat
  total : Float
  max : Float
  average : Float
  worstRank : String
  rankCounts : Assoc Nat

/-- The complexity of a block, zero if it is missing. -/
def blockComplexity (block : Json) : Float := (Json.asFloat? (block.get? "complexity")).getD 0.0

/-- The rank of a block, the best if it is missing. -/
def blockRank (block : Json) : String := (Json.asText? (block.get? "rank")).getD "A"

/-- The greater of two floats; not-a-number gives way to the other. -/
def greater (a b : Float) : Float :=
  if b.isNaN then a else if a.isNaN then b else if a < b then b else a

/-- How often each text occurs. -/
def countOf (names : List String) : Assoc Nat :=
  names.foldl (fun m name => m.modify name fun n => n.getD 0 + 1) []

/-- The rank furthest along the scale that occurs at all, the best if none occurs. -/
def worstRank (counts : Assoc Nat) : String :=
  (ranks.reverse.find? fun r => decide (0 < (counts.find? r).getD 0)).getD "A"

/-- The summary of the blocks of a file. -/
def complexityOf (blocks : List Json) : Complexity :=
  let values := blocks.map blockComplexity
  let total := values.foldl (· + ·) 0.0
  let counts := countOf (blocks.map blockRank)
  { blocks := blocks.length
    total := total
    max := values.foldl greater 0.0
    average := total / (max blocks.length 1).toFloat
    worstRank := worstRank counts
    rankCounts := counts }

/-! ## Sections of the document -/

/-- The entries of a section with their files, none if the section is missing. -/
def entriesOf (bundle : Json) (metric : String) : List (String × Json) :=
  ((bundle.get? metric).bind Json.obj?).getD []

/-- The rank in an entry of the maintainability section. -/
def indexRank? (entry : Json) : Option String :=
  (Json.asText? (entry.get? "rank")).or (Json.asText? (entry.get? "mi_rank"))

/-- The members that hold the Halstead measures of a file: the entry itself where its keys say
so, else its total. -/
def halsteadTotals? (entry : Json) : Option Json :=
  entry.obj?.bind fun members =>
    if members.any (fun m => "halstead_".isPrefixOf m.1) then some entry
    else (entry.get? "total").filter Json.isObject

/-- A Halstead measure, under its own name or with a word in front. -/
def halstead? (totals : Json) (measure : String) : Option Float :=
  (Json.asFloat? (totals.get? measure)).or (Json.asFloat? (totals.get? ("halstead_" ++ measure)))

/-- The maintainability index and rank of a file, found by absolute path. -/
def maintainability? (bundle : Json) (file : String) (cwd : Option String) :
    Option (Float × Option String) :=
  let wanted := Path.ensureAbsolute file cwd
  ((entriesOf bundle "mi").find? fun e => Path.ensureAbsolute e.1 cwd == wanted).bind fun e =>
    (Json.asFloat? (e.2.get? "mi")).map fun mi => (mi, indexRank? e.2)

/-! ## Findings -/

/-- The document of a run: its payload, else what standard output shows. -/
def bundleOf (run : RunRecord) : Json :=
  (run.payload?.or (detectPayload run.stdout)).getD .null

/-- The finding of a metric of a file, still without measures. -/
def row (ctx : PathContext) (root file metric : String) : Finding :=
  (Finding.blank .radon (ctx.filePath file) root).text "metric_type" (some metric)

/-- The finding of an entry of the complexity section. -/
def complexityRow? (ctx : PathContext) (root : String) (entry : String × Json) : Option Finding :=
  entry.2.arr?.map fun blocks =>
    let c := complexityOf blocks
    (row ctx root entry.1 "cc").int "cc_blocks" (some c.blocks)
      |>.real "cc_total" (some c.total)
      |>.real "cc_max" (some c.max)
      |>.real "cc_avg" (some c.average)
      |>.text "cc_worst_rank" (some c.worstRank)
      |>.json "cc_rank_counts" (some (Json.ofAssoc Json.ofNat c.rankCounts))

/-- The finding of an entry of the maintainability section. -/
def indexRow? (ctx : PathContext) (root : String) (entry : String × Json) : Option Finding :=
  (Json.asFloat? (entry.2.get? "mi")).map fun mi =>
    (row ctx root entry.1 "mi").real "mi" (some mi) |>.text "mi_rank" (indexRank? entry.2)

/-- The raw counts. -/
def rawCounts : List String :=
  ["loc", "sloc", "lloc", "comments", "multi", "blank", "single_comments"]

/-- The finding of an entry of the section of raw counts. -/
def rawRow? (ctx : PathContext) (root : String) (entry : String × Json) : Option Finding :=
  (entry.2.get? "loc").map fun _ =>
    rawCounts.foldl (fun f key => f.int ("raw_" ++ key) (Json.asInt? (entry.2.get? key)))
      (row ctx root entry.1 "raw")

/-- The Halstead measures. -/
def halsteadMeasures : List String := ["volume", "difficulty", "effort", "time", "bugs"]

/-- The finding of an entry of the Halstead section. -/
def halsteadRow? (ctx : PathContext) (root : String) (entry : String × Json) : Option Finding :=
  (halsteadTotals? entry.2).map fun totals =>
    halsteadMeasures.foldl (fun f key => f.real ("hal_" ++ key) (halstead? totals key))
      (row ctx root entry.1 "hal")

/-- The findings of a run, section by section. -/
def findings (run : RunRecord) (ctx : PathContext) : List Finding :=
  let bundle := bundleOf run
  let root := ctx.root (metrics.flatMap fun m => (entriesOf bundle m).map (·.1))
  (entriesOf bundle "cc").filterMap (complexityRow? ctx root)
    ++ (entriesOf bundle "mi").filterMap (indexRow? ctx root)
    ++ (entriesOf bundle "raw").filterMap (rawRow? ctx root)
    ++ (entriesOf bundle "hal").filterMap (halsteadRow? ctx root)

/-- The analyzer; it ran well only if it ended with zero. -/
def analyzer : Analyzer :=
  { Analyzer.plain .radon command findings with
    accepts := fun code => code == 0
    providesComplexity := true }

end LintLedger.Radon
