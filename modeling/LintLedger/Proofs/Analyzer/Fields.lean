import LintLedger.Analyzer.Registry
import LintLedger.Proofs.Analyzer.Clones
import LintLedger.Proofs.Finding.Columns
import LintLedger.Proofs.Json.Parts
import LintLedger.Schema.Tables

/-!
# The fields of findings and the columns of tables

Twelve readers of reports name the fields of their findings, and twelve tables name their columns.
Every field has a column of its own kind, apart from one: the rows of Qlty are made like those of
Snyk, with the help text of their rules, which has a column in the table of Snyk only.

## Main Definitions

* `Schema.ColumnKind.Takes` -- the values that a column of a kind can hold
* `Finding.Fits` -- the fields of a finding have columns of their kinds
* `RunRecord.Sound` -- the documents that a run can have

## Main Statements

* `fits_of_mem_read` -- the fields of the findings of every tool
-/

namespace LintLedger

/-- The values that a column of a kind holds as they are. -/
def Schema.ColumnKind.Takes : Schema.ColumnKind → Json → Prop
  | .text, v => ∃ s, v = .str s
  | .integer, v => ∃ i, v = .num (.int i) ∧ Text.fitsInt64 i = true
  | .real, v => ∃ x, v = .num (.real x) ∧ x.isFinite = true
  | .bool, v => ∃ b, v = .bool b
  | .json, v => v ≠ .null ∧ v.Readable Json.maxDepth

/-- The fields of a finding have columns of their kinds. -/
structure Finding.Fits (cols : List Schema.Column) (f : Finding) : Prop where
  ascending : Assoc.Ascending f.fields
  takes : ∀ p ∈ f.fields, ∃ kind : Schema.ColumnKind, ⟨p.1, kind⟩ ∈ cols ∧ kind.Takes p.2

namespace Finding

variable {cols : List Schema.Column} {f : Finding} {key : String}

/-- A finding without fields fits every table. -/
theorem fits_of_fields_eq_nil (h : f.fields = []) : Fits cols f :=
  ⟨h ▸ Assoc.ascending_nil, by simp [h]⟩

theorem fits_blank {tool : Tool} {file root : String} : Fits cols (blank tool file root) :=
  fits_of_fields_eq_nil rfl

/-- Lines and columns are no fields: every table has columns for them. -/
theorem Fits.lines (h : Fits cols f) (first last : Option Int) : Fits cols (f.lines first last) :=
  ⟨h.ascending, h.takes⟩

theorem Fits.columns (h : Fits cols f) (first last : Option Int) :
    Fits cols (f.columns first last) := ⟨h.ascending, h.takes⟩

/-- A field may be set to what its column takes. -/
theorem Fits.set (h : Fits cols f) {kind : Schema.ColumnKind} (hcolumn : ⟨key, kind⟩ ∈ cols)
    {v? : Option Json} (hv : ∀ v, v? = some v → v ≠ .null → kind.Takes v) :
    Fits cols (f.json key v?) := by
  unfold Finding.json
  split
  · exact h
  · exact h
  · rename_i v hnull
    refine ⟨Assoc.ascending_insert h.ascending, fun p hp => ?_⟩
    rcases Assoc.mem_insert hp with rfl | hp
    · exact ⟨kind, hcolumn, hv v rfl fun heq => hnull (by rw [heq])⟩
    · exact h.takes p hp

/-- A text fits in a column of texts. -/
theorem Fits.text (h : Fits cols f) (hcolumn : ⟨key, .text⟩ ∈ cols) (s? : Option String) :
    Fits cols (f.text key s?) := by
  refine h.set hcolumn fun v hv _ => ?_
  obtain ⟨s, -, rfl⟩ := Option.map_eq_some_iff.mp hv
  exact ⟨s, rfl⟩

/-- An integer fits in a column of integers if it has 64 bits, which is to be shown where it is
read. -/
theorem Fits.int (h : Fits cols f) (hcolumn : ⟨key, .integer⟩ ∈ cols) {i? : Option Int}
    (hi : ∀ i, i? = some i → Text.fitsInt64 i = true) : Fits cols (f.int key i?) := by
  refine h.set hcolumn fun v hv _ => ?_
  obtain ⟨i, hsome, rfl⟩ := Option.map_eq_some_iff.mp hv
  exact ⟨i, rfl, hi i hsome⟩

/-- A float is finite where it is not null, and null is not kept. -/
theorem Fits.real (h : Fits cols f) (hcolumn : ⟨key, .real⟩ ∈ cols) (x? : Option Float) :
    Fits cols (f.real key x?) := by
  refine h.set hcolumn fun v hv hnull => ?_
  obtain ⟨x, -, rfl⟩ := Option.map_eq_some_iff.mp hv
  unfold Json.ofFloat at hnull ⊢
  split at hnull
  · rename_i hfinite
    rw [if_pos hfinite]
    exact ⟨x, rfl, hfinite⟩
  · exact absurd rfl hnull

/-- A truth value fits in its column. -/
theorem Fits.flag (h : Fits cols f) (hcolumn : ⟨key, .bool⟩ ∈ cols) (b? : Option Bool) :
    Fits cols (f.flag key b?) := by
  refine h.set hcolumn fun v hv _ => ?_
  obtain ⟨b, -, rfl⟩ := Option.map_eq_some_iff.mp hv
  exact ⟨b, rfl⟩

/-- A document fits in a column of documents if it can be read back from its text. -/
theorem Fits.json (h : Fits cols f) (hcolumn : ⟨key, .json⟩ ∈ cols) {v? : Option Json}
    (hv : ∀ v, v? = some v → v.Readable Json.maxDepth) : Fits cols (f.json key v?) :=
  h.set hcolumn fun v hsome hnull => ⟨hnull, hv v hsome⟩

end Finding

/-! ## The documents of a run -/

/-- The documents that a run can have.  A payload was read from text, or put together of a few
documents that were, and no document has more values than can be counted. -/
structure RunRecord.Sound (run : RunRecord) : Prop where
  payload : ∀ v, run.payload? = some v → v.Readable (Json.maxDepth + 1)
  size : ∀ v, run.payload? = some v ∨ Json.parse? (Text.trim run.stdout) = some v →
    (v.size : Int) ≤ Text.int64Max

namespace RunRecord.Sound

variable {run : RunRecord} (h : run.Sound)

include h

/-- The report of a run is a payload or was read from the output. -/
theorem document : run.document.Readable (Json.maxDepth + 1) := by
  unfold RunRecord.document RunRecord.report?
  split
  · rename_i v hpayload
    exact h.payload v hpayload
  · cases hparse : Json.parse? (Text.trim run.stdout) with
    | none => exact Json.readable_null
    | some v => exact (Json.readable_of_parse? hparse).mono (Nat.le_succ _)

/-- It has no more values than can be counted, … -/
theorem size_document : (run.document.size : Int) ≤ Text.int64Max := by
  unfold RunRecord.document RunRecord.report?
  split
  · rename_i v hpayload
    exact h.size v (.inl hpayload)
  · cases hparse : Json.parse? (Text.trim run.stdout) with
    | none => simp [Json.size, Text.int64Max]
    | some v => exact h.size v (.inr hparse)

/-- … and neither has the complexity document. -/
theorem size_bundle : ((Radon.bundleOf run).size : Int) ≤ Text.int64Max := by
  unfold Radon.bundleOf
  cases hpayload : run.payload? with
  | some v => exact h.size v (.inl hpayload)
  | none =>
    cases hdetect : detectPayload run.stdout with
    | none => simp [Json.size, Text.int64Max]
    | some v =>
      refine h.size v (.inr ?_)
      unfold detectPayload at hdetect
      dsimp only at hdetect
      split at hdetect
      · exact hdetect
      · exact hdetect
      · cases hdetect

end RunRecord.Sound

/-! ## Fields of findings -/

section Fields

variable {run : RunRecord} {ctx : PathContext} {f : Finding}

open Finding Json Schema

/-- Bandit: texts, and a document with more about the weakness, which lies inside of the report. -/
theorem Bandit.fits_of_mem (hdocument : run.document.Readable (maxDepth + 1))
    (h : f ∈ Bandit.findings run ctx) : f.Fits (ownColumns .bandit) := by
  obtain ⟨result, hresult, hissue⟩ := List.mem_filterMap.mp h
  obtain ⟨file, -, rfl⟩ := Option.map_eq_some_iff.mp hissue
  have hresult := (held_get?_of_succ hdocument "results").of_mem_itemsOf hresult
  exact fits_blank.lines _ _
    |>.columns _ _
    |>.text (by decide) _
    |>.text (by decide) _
    |>.text (by decide) _
    |>.text (by decide) _
    |>.text (by decide) _
    |>.text (by decide) _
    |>.json (by decide) (held_nonEmpty? (held_get? hresult _))

/-- Mypy has nothing but texts. -/
theorem Mypy.fits_of_mem (h : f ∈ Mypy.findings run ctx) : f.Fits (ownColumns .mypy) := by
  obtain ⟨entry, -, hissue⟩ := List.mem_filterMap.mp h
  obtain ⟨file, -, rfl⟩ := Option.map_eq_some_iff.mp hissue
  exact fits_blank.lines _ _
    |>.columns _ _
    |>.text (by decide) _
    |>.text (by decide) _
    |>.text (by decide) _
    |>.text (by decide) _

/-- The confidence in a line of Vulture was read as a number of 64 bits. -/
theorem Vulture.fitsInt64_of_entryOfLine? {line : String} {e : Vulture.Entry}
    (h : Vulture.entryOfLine? line = some e) {i : Int} (hi : e.confidence? = some i) :
    Text.fitsInt64 i = true := by
  obtain ⟨⟨file, digits, rest⟩, -, hnumber⟩ := Option.bind_eq_some_iff.mp h
  obtain ⟨number, -, rfl⟩ := Option.map_eq_some_iff.mp hnumber
  obtain ⟨ds, -, hread⟩ := Option.bind_eq_some_iff.mp hi
  exact fitsInt64_of_int64Of? hread

/-- Vulture: what is unused and how sure that is. -/
theorem Vulture.fits_of_mem {settings : VultureSettings}
    (h : f ∈ Vulture.findings settings run ctx) : f.Fits (ownColumns .vulture) := by
  obtain ⟨entry, hentry, rfl⟩ := List.mem_map.mp h
  obtain ⟨line, -, hline⟩ := List.mem_filterMap.mp (List.mem_of_mem_filter hentry)
  exact fits_blank.lines _ _
    |>.text (by decide) _
    |>.int (by decide) (fun _ => Vulture.fitsInt64_of_entryOfLine? hline)
    |>.text (by decide) _

/-- Semgrep: what is said about a rule lies in the metadata of a result, two objects down. -/
theorem Semgrep.fits_of_mem (hdocument : run.document.Readable (maxDepth + 1))
    (h : f ∈ Semgrep.findings run ctx) : f.Fits (ownColumns .semgrep) := by
  obtain ⟨result, hresult, hissue⟩ := List.mem_filterMap.mp h
  obtain ⟨file, -, rfl⟩ := Option.map_eq_some_iff.mp hissue
  have hresult := (held_get?_of_succ hdocument "results").of_mem_itemsOf hresult
  have hextra := (held_get? hresult "extra").getD_null
  have habout := (held_get? hextra "metadata").getD_null
  exact fits_blank.lines _ _
    |>.columns _ _
    |>.text (by decide) _
    |>.text (by decide) _
    |>.text (by decide) _
    |>.text (by decide) _
    |>.text (by decide) _
    |>.text (by decide) _
    |>.text (by decide) _
    |>.text (by decide) _
    |>.text (by decide) _
    |>.json (by decide) (held_nonEmpty? (held_get? habout _))
    |>.json (by decide) (held_nonEmpty? (held_get? habout _))
    |>.json (by decide) (held_nonEmpty? (held_get? habout _))
    |>.json (by decide) (held_nonEmpty? (held_get? habout _))
    |>.text (by decide) _
    |>.json (by decide) (held_nonEmpty? (held_some habout))

/-- The reported leaks lie inside of the document. -/
theorem Gitleaks.readable_of_mem_leaksOf {depth : Nat} {report leak : Json}
    (h : report.Readable (depth + 1)) (hleak : leak ∈ Gitleaks.leaksOf report) :
    leak.Readable depth := by
  cases report with
  | arr items => exact readable_arr.mp h leak hleak
  | obj members =>
    simp only [Gitleaks.leaksOf] at hleak
    obtain ⟨items, hitems, hmem⟩ : ∃ items ∈ ["results", "leaks", "findings"].map fun key =>
        Json.itemsOf (Assoc.find? key members), leak ∈ items := by
      cases hfind : (["results", "leaks", "findings"].map fun key =>
          Json.itemsOf (Assoc.find? key members)).find? fun items => !items.isEmpty with
      | none =>
        rw [hfind] at hleak
        cases hleak
      | some items =>
        rw [hfind] at hleak
        exact ⟨items, List.mem_of_find?_eq_some hfind, hleak⟩
    obtain ⟨key, -, rfl⟩ := List.mem_map.mp hitems
    exact (held_get?_of_succ h key).of_mem_itemsOf hmem
  | _ => cases hleak

/-- Gitleaks: a leak, with the entropy of its secret. -/
theorem Gitleaks.fits_of_mem {settings : GitleaksSettings}
    (hdocument : run.document.Readable (maxDepth + 1))
    (h : f ∈ Gitleaks.findings settings run ctx) : f.Fits (ownColumns .gitleaks) := by
  obtain ⟨leak, hleak, hissue⟩ := List.mem_filterMap.mp h
  obtain ⟨file, -, rfl⟩ := Option.map_eq_some_iff.mp hissue
  have hleak := Gitleaks.readable_of_mem_leaksOf hdocument hleak
  exact fits_blank.lines _ _
    |>.columns _ _
    |>.text (by decide) _
    |>.text (by decide) _
    |>.text (by decide) _
    |>.text (by decide) _
    |>.text (by decide) _
    |>.text (by decide) _
    |>.real (by decide) _
    |>.text (by decide) _
    |>.text (by decide) _
    |>.text (by decide) _
    |>.text (by decide) _
    |>.json (by decide) (held_nonEmpty? (held_get? hleak _))

/-- Biome: the numbers are the ends of a span of bytes. -/
theorem Biome.fits_of_mem (hdocument : run.document.Readable (maxDepth + 1))
    (h : f ∈ Biome.findings run ctx) : f.Fits (ownColumns .biome) := by
  obtain ⟨diagnostic, hdiagnostic, hissue⟩ := List.mem_filterMap.mp h
  obtain ⟨file, -, rfl⟩ := Option.map_eq_some_iff.mp hissue
  have hdiagnostic := (held_get?_of_succ hdocument "diagnostics").of_mem_itemsOf hdiagnostic
  exact fits_blank.lines _ _
    |>.text (by decide) _
    |>.text (by decide) _
    |>.text (by decide) _
    |>.int (by decide) (fun _ => fitsInt64_of_asInt?)
    |>.int (by decide) (fun _ => fitsInt64_of_asInt?)
    |>.json (by decide) (held_nonEmpty? (held_get? hdiagnostic _))
    |>.json (by decide) ((held_nonEmpty? (held_get? hdiagnostic _)).filter _)

/-- Bearer has a list for each severity. -/
theorem Bearer.fits_of_mem (hdocument : run.document.Readable (maxDepth + 1))
    (h : f ∈ Bearer.findings run ctx) : f.Fits (ownColumns .bearer) := by
  obtain ⟨⟨severity, item⟩, hentry, hissue⟩ := List.mem_filterMap.mp h
  obtain ⟨file, -, rfl⟩ := Option.map_eq_some_iff.mp hissue
  obtain ⟨level, -, hlevel⟩ := List.mem_flatMap.mp hentry
  obtain ⟨reported, hreported, heq⟩ := List.mem_map.mp hlevel
  cases heq
  have hitem := (held_get?_of_succ hdocument severity).of_mem_itemsOf hreported
  exact fits_blank.lines _ _
    |>.columns _ _
    |>.text (by decide) _
    |>.text (by decide) _
    |>.text (by decide) _
    |>.text (by decide) _
    |>.text (by decide) _
    |>.json (by decide) (held_nonEmpty? (held_get? hitem _))
    |>.json (by decide) (held_nonEmpty? (held_get? hitem _))
    |>.text (by decide) _
    |>.text (by decide) _

/-! ### Hits -/

/-- The rule of a result is one of the rules. -/
theorem Sarif.held_ruleFor? {depth : Nat} {rules : List Json}
    (h : ∀ rule ∈ rules, rule.Readable depth) (result : Json) :
    Held depth (Sarif.ruleFor? result rules) := by
  intro rule hrule
  refine h rule ?_
  rcases Option.or_eq_some_iff.mp hrule with hnamed | ⟨-, hindexed⟩
  · obtain ⟨id, -, hfind⟩ := Option.bind_eq_some_iff.mp hnamed
    exact List.mem_of_find?_eq_some hfind
  · obtain ⟨index, -, hget⟩ := Option.bind_eq_some_iff.mp hindexed
    split at hget
    · cases hget
    · exact List.mem_of_getElem? hget

/-- The nested parts of a hit lie inside of the report. -/
theorem Sarif.held_of_mem_hits {depth : Nat} {report : Json} (h : report.Readable (depth + 1))
    {hit : Sarif.Hit} (hhit : hit ∈ Sarif.hits report) :
    Held depth hit.tags? ∧ Held depth hit.properties? := by
  obtain ⟨run, hrun, hhit⟩ := List.mem_flatMap.mp hhit
  obtain ⟨result, hresult, hhit⟩ := List.mem_flatMap.mp hhit
  obtain ⟨location, -, hhit⟩ := List.mem_filterMap.mp hhit
  obtain ⟨uri, -, rfl⟩ := Option.map_eq_some_iff.mp hhit
  have hrun := (held_get?_of_succ h "runs").of_mem_itemsOf hrun
  have hresult := (held_get? hrun "results").of_mem_itemsOf hresult
  have hdriver := (held_dig? hrun ["tool", "driver"]).getD_null
  have hrule := (Sarif.held_ruleFor?
    (fun _ => (held_get? hdriver "rules").of_mem_itemsOf) result).getD_null
  exact ⟨held_nonEmpty? (held_dig? hrule _), held_nonEmpty? (held_get? hresult _)⟩

/-- The columns of a hit. -/
def Sarif.hitColumns : List Column :=
  [⟨"rule_id", .text⟩, ⟨"rule_name", .text⟩, ⟨"level", .text⟩, ⟨"message", .text⟩,
   ⟨"fingerprint", .text⟩, ⟨"help_text", .text⟩, ⟨"tags", .json⟩, ⟨"properties", .json⟩]

/-- A hit fits in every table that has the columns of hits. -/
theorem Sarif.fits_row {cols : List Column} (hcols : Sarif.hitColumns ⊆ cols) {tool : Tool}
    {root : String} {hit : Sarif.Hit} (htags : Held maxDepth hit.tags?)
    (hproperties : Held maxDepth hit.properties?) : (Sarif.row tool ctx root hit).Fits cols := by
  have hplace : Fits cols
      { Finding.blank tool (ctx.filePath hit.uri) root with region := hit.region } :=
    fits_of_fields_eq_nil rfl
  exact hplace.text (hcols (by decide)) _
    |>.text (hcols (by decide)) _
    |>.text (hcols (by decide)) _
    |>.text (hcols (by decide)) _
    |>.text (hcols (by decide)) _
    |>.text (hcols (by decide)) _
    |>.json (hcols (by decide)) htags
    |>.json (hcols (by decide)) hproperties

/-- The table of Snyk has all of them. -/
theorem Snyk.fits_of_mem (hdocument : run.document.Readable (maxDepth + 1))
    (h : f ∈ Sarif.findings .snyk false run ctx) : f.Fits (ownColumns .snyk) := by
  obtain ⟨hit, hhit, rfl⟩ := List.mem_map.mp h
  obtain ⟨htags, hproperties⟩ := Sarif.held_of_mem_hits hdocument hhit
  exact Sarif.fits_row (by decide) htags hproperties

/-- The rows of Qlty fit its table if that had a column for the help text. -/
theorem Qlty.fits_of_mem (hdocument : run.document.Readable (maxDepth + 1))
    (h : f ∈ Sarif.findings .qlty true run ctx) :
    f.Fits (⟨"help_text", .text⟩ :: ownColumns .qlty) := by
  obtain ⟨hit, hhit, rfl⟩ := List.mem_map.mp h
  obtain ⟨htags, hproperties⟩ := Sarif.held_of_mem_hits hdocument hhit
  exact (Sarif.fits_row (by decide) htags hproperties).text (by decide) _

/-! ### Clones -/

/-- A side whose numbers fit in 64 bits. -/
structure Jscpd.Side.Fits (s : Jscpd.Side) : Prop where
  first : Text.fitsInt64 s.first = true
  last : Text.fitsInt64 s.last = true
  firstColumn : ∀ i, s.firstColumn? = some i → Text.fitsInt64 i = true
  lastColumn : ∀ i, s.lastColumn? = some i → Text.fitsInt64 i = true

theorem Jscpd.fits_ofInstance? {place : Json} {s : Jscpd.Side}
    (h : Jscpd.Side.ofInstance? ctx place = some s) : s.Fits := by
  have hline (a b : Option Json) :
      Text.fitsInt64 (((Json.asInt? a).or (Json.asInt? b)).getD 0) = true := by
    cases ha : Json.asInt? a with
    | some i => exact fitsInt64_of_asInt? ha
    | none =>
      cases hb : Json.asInt? b with
      | some i => exact fitsInt64_of_asInt? hb
      | none => decide
  obtain ⟨name, -, rfl⟩ := Option.map_eq_some_iff.mp h
  exact ⟨hline _ _, hline _ _, fun _ => fitsInt64_of_asInt?, fun _ => fitsInt64_of_asInt?⟩

/-- The other side of a clone as a document. -/
theorem Jscpd.readable_toJson {s : Jscpd.Side} (h : s.Fits) : (s.toJson ctx).Readable maxDepth := by
  have hnumber {i : Int} (hi : Text.fitsInt64 i = true) : (Json.ofInt i).Readable 126 :=
    readable_num.mpr (inRange_of_fitsInt64 hi)
  have hoption {i? : Option Int} (hi : ∀ i, i? = some i → Text.fitsInt64 i = true) :
      (Json.ofOption Json.ofInt i?).Readable 126 := by
    cases i? with
    | none => exact readable_null
    | some i => exact hnumber (hi i rfl)
  refine readable_obj.mpr ⟨Assoc.ascending_of_keys ?_, ?_⟩
  · have hkeys : ["end_col", "end_line", "file", "start_col", "start_line"].Pairwise (· < ·) := by
      decide
    exact hkeys
  · simp only [List.forall_mem_cons, List.not_mem_nil, false_imp_iff, implies_true, and_true]
    exact ⟨hoption h.lastColumn, hnumber h.last, readable_str _, hoption h.firstColumn,
      hnumber h.first⟩

/-- A listed clone whose numbers fit in 64 bits. -/
structure Jscpd.Clone.Fits (c : Jscpd.Clone) : Prop where
  primary : c.primary.Fits
  other : c.other.Fits
  lines : ∀ i, c.lines? = some i → Text.fitsInt64 i = true
  tokens : ∀ i, c.tokens? = some i → Text.fitsInt64 i = true

theorem Jscpd.fits_clone? {settings : JscpdSettings} {listed : Json} {c : Jscpd.Clone}
    (h : Jscpd.clone? settings ctx listed = some c) : c.Fits := by
  obtain ⟨⟨x, y⟩, -, h⟩ := Option.bind_eq_some_iff.mp h
  obtain ⟨a, ha, h⟩ := Option.bind_eq_some_iff.mp h
  obtain ⟨b, hb, h⟩ := Option.bind_eq_some_iff.mp h
  have hsides : (a.sorted b).1.Fits ∧ (a.sorted b).2.Fits := by
    unfold Jscpd.Side.sorted
    split
    · exact ⟨fits_ofInstance? hb, fits_ofInstance? ha⟩
    · exact ⟨fits_ofInstance? ha, fits_ofInstance? hb⟩
  split at h
  · cases h
  · cases h
    exact ⟨hsides.1, hsides.2, fun _ => fitsInt64_of_asInt?, fun _ => fitsInt64_of_asInt?⟩

theorem Jscpd.fits_sideRow {root : String} {c : Jscpd.Clone} (hc : c.Fits)
    {side counterpart : Jscpd.Side} (hcounterpart : counterpart.Fits) :
    (Jscpd.sideRow ctx root c side counterpart).Fits (ownColumns .jscpd) :=
  fits_blank.lines _ _
    |>.columns _ _
    |>.text (by decide) _
    |>.text (by decide) _
    |>.text (by decide) _
    |>.text (by decide) _
    |>.text (by decide) _
    |>.int (by decide) hc.lines
    |>.int (by decide) hc.tokens
    |>.json (by decide) (held_some (Jscpd.readable_toJson hcounterpart))

theorem Jscpd.fits_fileRow {root format : String} {source : String × Json} :
    (Jscpd.fileRow ctx root format source).Fits (ownColumns .jscpd) :=
  fits_blank.text (by decide) _
    |>.text (by decide) _
    |>.int (by decide) (fun _ => fitsInt64_of_asInt?)
    |>.int (by decide) (fun _ => fitsInt64_of_asInt?)
    |>.int (by decide) (fun _ => fitsInt64_of_asInt?)
    |>.int (by decide) (fun _ => fitsInt64_of_asInt?)
    |>.real (by decide) _

theorem Jscpd.fits_of_mem {settings : JscpdSettings} (h : f ∈ Jscpd.findings settings run ctx) :
    f.Fits (ownColumns .jscpd) := by
  rcases List.mem_append.mp h with hissue | hfile
  · obtain ⟨listed, -, c, hclone, hrow⟩ := Jscpd.exists_clone?_of_mem_issueRows hissue
    have hc := Jscpd.fits_clone? hclone
    obtain rfl | rfl := Jscpd.eq_sideRow_of_mem_cloneRows hrow
    · exact Jscpd.fits_sideRow hc hc.other
    · exact Jscpd.fits_sideRow hc hc.primary
  · obtain ⟨format, -, hfile⟩ := List.mem_flatMap.mp hfile
    obtain ⟨source, -, rfl⟩ := List.mem_map.mp hfile
    exact Jscpd.fits_fileRow

/-! ### Complexity -/

/-- Counts are in the order of what is counted. -/
theorem Radon.ascending_countOf (names : List String) : Assoc.Ascending (Radon.countOf names) :=
  List.foldlRecOn (motive := Assoc.Ascending) names _ Assoc.ascending_nil
    fun _ h _ _ => Assoc.ascending_modify h

/-- One more text is counted with those before it. -/
theorem Radon.countOf_concat (names : List String) (last : String) :
    Radon.countOf (names ++ [last]) =
      (Radon.countOf names).modify last fun n => n.getD 0 + 1 := List.foldl_concat ..

/-- **A count is how often the text occurs**; texts that do not occur have none. -/
theorem Radon.find?_countOf (names : List String) (name : String) :
    (Radon.countOf names).find? name =
      if names.count name = 0 then none else some (names.count name) := by
  induction names using List.reverseRecOn with
  | nil => rfl
  | append_singleton names last ih =>
    rw [Radon.countOf_concat, Assoc.modify, List.count_append]
    by_cases heq : name = last
    · subst heq
      rw [Assoc.find?_insert_self, ih, List.count_singleton_self, if_neg (Nat.succ_ne_zero _)]
      split
      · rename_i hzero
        rw [hzero]
        rfl
      · rfl
    -- a text that is not the last one is counted as before
    · have hlast : List.count name [last] = 0 := List.count_eq_zero.mpr (by simpa using heq)
      rw [Assoc.find?_insert_of_ne heq, ih, hlast, Nat.add_zero]

/-- Nothing occurs more often than there are texts. -/
theorem Radon.le_length_of_mem_countOf {names : List String} {p : String × Nat}
    (h : p ∈ Radon.countOf names) : p.2 ≤ names.length := by
  have hfind := (Assoc.find?_eq_some_iff (Radon.ascending_countOf names)).mpr h
  rw [Radon.find?_countOf] at hfind
  split at hfind
  · cases hfind
  · rw [← Option.some.inj hfind]
    exact List.count_le_length

/-- Counts as a document. -/
theorem Radon.readable_countOf {names : List String} (h : names.length ≤ maxWord) :
    (Json.ofAssoc Json.ofNat (Radon.countOf names)).Readable 1 := by
  refine readable_obj.mpr ⟨Assoc.ascending_mapValues (Radon.ascending_countOf names) _, ?_⟩
  intro p hp
  obtain ⟨q, hq, rfl⟩ := List.mem_map.mp hp
  exact readable_ofNat (Nat.le_trans (Radon.le_length_of_mem_countOf hq) h)

/-- What one file has of a metric lies inside of the complexity document. -/
theorem Radon.size_le_of_mem_entriesOf {bundle : Json} {metric : String} {entry : String × Json}
    (h : entry ∈ Radon.entriesOf bundle metric) : entry.2.size ≤ bundle.size := by
  unfold Radon.entriesOf at h
  cases hget : bundle.get? metric with
  | none => simp [hget] at h
  | some section? =>
    have hle := size_le_of_get? hget
    cases section? with
    | obj members =>
      have hmember : entry.2.size ≤ sizeOfMembers members :=
        size_le_sizeOfMembers (by simpa [hget, Json.obj?] using h)
      simp only [size] at hle
      omega
    | _ => simp [hget, Json.obj?] at h

/-- Every row of Radon tells its metric. -/
theorem Radon.fits_row {root file metric : String} :
    (Radon.row ctx root file metric).Fits (ownColumns .radon) := fits_blank.text (by decide) _

/-- The number of blocks and the counts of ranks are bounded by the size of the entry. -/
theorem Radon.fits_complexityRow? {root : String} {entry : String × Json}
    (hsize : (entry.2.size : Int) ≤ Text.int64Max)
    (h : Radon.complexityRow? ctx root entry = some f) : f.Fits (ownColumns .radon) := by
  obtain ⟨blocks, hblocks, rfl⟩ := Option.map_eq_some_iff.mp h
  have hlength : Text.fitsInt64 (blocks.length : Int) = true :=
    fitsInt64_natCast (length_le_of_arr? hblocks) hsize
  have hcounts : (Json.ofAssoc Json.ofNat (Radon.complexityOf blocks).rankCounts).Readable 1 :=
    Radon.readable_countOf (by
      rw [List.length_map]
      exact Int.ofNat_le.mp (inRange_of_fitsInt64 hlength).2)
  exact Radon.fits_row.int (by decide) (by rintro i ⟨⟩; exact hlength)
    |>.real (by decide) _
    |>.real (by decide) _
    |>.real (by decide) _
    |>.text (by decide) _
    |>.json (by decide) (held_some (hcounts.mono (by decide)))

theorem Radon.fits_indexRow? {root : String} {entry : String × Json}
    (h : Radon.indexRow? ctx root entry = some f) : f.Fits (ownColumns .radon) := by
  obtain ⟨mi, -, rfl⟩ := Option.map_eq_some_iff.mp h
  exact Radon.fits_row.real (by decide) _
    |>.text (by decide) _

/-- The row sets one column for each count, and the table has all of them. -/
theorem Radon.fits_rawRow? {root : String} {entry : String × Json}
    (h : Radon.rawRow? ctx root entry = some f) : f.Fits (ownColumns .radon) := by
  obtain ⟨loc, -, rfl⟩ := Option.map_eq_some_iff.mp h
  have hcolumns : ∀ key ∈ Radon.rawCounts, ⟨"raw_" ++ key, .integer⟩ ∈ ownColumns .radon := by
    decide
  exact List.foldlRecOn (motive := Finding.Fits (ownColumns .radon)) _ _ Radon.fits_row
    fun _ hrow key hkey => hrow.int (hcolumns key hkey) fun _ => fitsInt64_of_asInt?

/-- The same of measures, which are floats. -/
theorem Radon.fits_halsteadRow? {root : String} {entry : String × Json}
    (h : Radon.halsteadRow? ctx root entry = some f) : f.Fits (ownColumns .radon) := by
  obtain ⟨totals, -, rfl⟩ := Option.map_eq_some_iff.mp h
  have hcolumns : ∀ key ∈ Radon.halsteadMeasures, ⟨"hal_" ++ key, .real⟩ ∈ ownColumns .radon := by
    decide
  exact List.foldlRecOn (motive := Finding.Fits (ownColumns .radon)) _ _ Radon.fits_row
    fun _ hrow key hkey => hrow.real (hcolumns key hkey) _

/-- Radon: each of its four metrics has rows of its own shape. -/
theorem Radon.fits_of_mem (hsize : ((Radon.bundleOf run).size : Int) ≤ Text.int64Max)
    (h : f ∈ Radon.findings run ctx) : f.Fits (ownColumns .radon) := by
  simp only [Radon.findings, List.mem_append, List.mem_filterMap] at h
  rcases h with ((⟨entry, hentry, hrow⟩ | ⟨entry, -, hrow⟩) | ⟨entry, -, hrow⟩) | ⟨entry, -, hrow⟩
  · refine Radon.fits_complexityRow? (le_trans ?_ hsize) hrow
    exact_mod_cast Radon.size_le_of_mem_entriesOf hentry
  · exact Radon.fits_indexRow? hrow
  · exact Radon.fits_rawRow? hrow
  · exact Radon.fits_halsteadRow? hrow

/-! ### Messages, files and scans -/

/-- Counts that fit in 64 bits. -/
structure Eslint.Counts.Fits (c : Eslint.Counts) : Prop where
  errors : Text.fitsInt64 c.errors = true
  warnings : Text.fitsInt64 c.warnings = true
  fixableErrors : Text.fitsInt64 c.fixableErrors = true
  fixableWarnings : Text.fitsInt64 c.fixableWarnings = true

/-- Sums wrap around at 64 bits, as those of the machine do, so that they always fit. -/
theorem Eslint.fitsInt64_wrap (i : Int) : Text.fitsInt64 (Eslint.wrap i) = true := by
  have hpos : 0 < Nat.pow 2 64 := by decide
  have hlow := @Int.le_bmod i _ hpos
  have hhigh := @Int.bmod_lt i _ hpos
  rw [fitsInt64_iff, Eslint.wrap]
  simp only [show Nat.pow 2 64 = 18446744073709551616 from rfl] at hlow hhigh ⊢
  omega

/-- The counts of one file are read leniently. -/
theorem Eslint.fits_counts (e : Eslint.Entry) : e.counts.Fits :=
  ⟨fitsInt64_getD_asInt? _, fitsInt64_getD_asInt? _, fitsInt64_getD_asInt? _,
    fitsInt64_getD_asInt? _⟩

/-- The counts of all files are added up. -/
theorem Eslint.fits_totals (entries : List Eslint.Entry) : (Eslint.totals entries).Fits :=
  List.foldlRecOn (motive := Eslint.Counts.Fits) _ _ ⟨by decide, by decide, by decide, by decide⟩
    fun _ _ _ _ => ⟨fitsInt64_wrap _, fitsInt64_wrap _, fitsInt64_wrap _, fitsInt64_wrap _⟩

/-- Counts have columns of integers. -/
theorem Eslint.fits_withCounts (h : f.Fits (ownColumns .eslint)) {c : Eslint.Counts}
    (hc : c.Fits) : (Eslint.withCounts f c).Fits (ownColumns .eslint) := by
  have hsome {i : Int} (hi : Text.fitsInt64 i = true) :
      ∀ j, some i = some j → Text.fitsInt64 j = true := by
    rintro j ⟨⟩
    exact hi
  exact h.int (by decide) (hsome hc.errors)
    |>.int (by decide) (hsome hc.warnings)
    |>.int (by decide) (hsome hc.fixableErrors)
    |>.int (by decide) (hsome hc.fixableWarnings)

/-- The entries of a report have no more messages than the report has values. -/
theorem Eslint.length_messages_le (report : Json) :
    ((Eslint.entriesOf report).flatMap Eslint.Entry.messages).length ≤ report.size := by
  -- messages are counted item by item, and an item that is no entry has none that count
  let entry? (v : Json) : Option Eslint.Entry :=
    ((v.textAt? "filePath").filter Eslint.isSource).map fun file => ⟨file, v⟩
  have hitems (items : List Json) :
      ((items.filterMap entry?).flatMap Eslint.Entry.messages).length ≤ sizeOfItems items := by
    induction items with
    | nil => exact Nat.zero_le _
    | cons v rest ih =>
      simp only [sizeOfItems]
      cases hentry : entry? v with
      | none =>
        rw [List.filterMap_cons_none hentry]
        omega
      | some e =>
        obtain ⟨file, -, rfl⟩ := Option.map_eq_some_iff.mp hentry
        have hmessages := length_itemsOf_get?_le v "messages"
        rw [List.filterMap_cons_some hentry, List.flatMap_cons, List.length_append]
        exact Nat.add_le_add hmessages ih
  cases report with
  | arr items =>
    have hle := hitems items
    simp only [size]
    exact Nat.le_trans hle (Nat.le_add_left _ _)
  | _ => exact Nat.zero_le _

/-- A tally as a document. -/
theorem Eslint.readable_tally {t : Eslint.Tally} (h : t.count ≤ maxWord) :
    t.toJson.Readable 1 := by
  refine readable_obj.mpr ⟨Assoc.ascending_of_keys ?_, ?_⟩
  · have hkeys : ["count", "max"].Pairwise (· < ·) := by decide
    exact hkeys
  · simp only [List.forall_mem_cons, List.not_mem_nil, false_imp_iff, implies_true, and_true]
    exact ⟨readable_ofNat h, readable_ofFloat _⟩

/-- The metrics of a scan as a document. -/
theorem Eslint.readable_metricsOf {entries : List Eslint.Entry} (hfiles : entries.length ≤ maxWord)
    (hmessages : (entries.flatMap Eslint.Entry.messages).length ≤ maxWord) :
    (Eslint.metricsOf entries).toJson.Readable 2 := by
  let messages := entries.flatMap Eslint.Entry.messages
  have hhits (p : Json → Bool) : (messages.filter p).length ≤ maxWord :=
    Nat.le_trans (List.length_filter_le p messages) hmessages
  have hrules : (messages.filterMap Eslint.rule?).length ≤ maxWord :=
    Nat.le_trans (List.length_filterMap_le _ _) hmessages
  have hseverities : (((messages.filterMap Eslint.severity?).filter Eslint.isGraded).map
      fun i => toString i).length ≤ maxWord := by
    rw [List.length_map]
    exact Nat.le_trans (List.length_filter_le _ _)
      (Nat.le_trans (List.length_filterMap_le _ _) hmessages)
  refine readable_obj.mpr ⟨Assoc.ascending_of_keys ?_, ?_⟩
  · have hkeys : ["by_rule", "by_severity", "complexity", "files", "import_cycles", "max_depth",
        "max_lines_per_function", "max_params"].Pairwise (· < ·) := by
      decide
    exact hkeys
  · simp only [List.forall_mem_cons, List.not_mem_nil, false_imp_iff, implies_true, and_true]
    exact ⟨Radon.readable_countOf hrules, Radon.readable_countOf hseverities,
      Eslint.readable_tally (hhits _), readable_ofNat hfiles, readable_ofNat (hhits _),
      Eslint.readable_tally (hhits _), Eslint.readable_tally (hhits _),
      Eslint.readable_tally (hhits _)⟩

/-- A message, with the number of its suggestions. -/
theorem Eslint.fits_issueRow {file root : String} {message : Json}
    (hmessage : message.Readable maxDepth) (hsize : (message.size : Int) ≤ Text.int64Max) :
    (Eslint.issueRow file root message).Fits (ownColumns .eslint) := by
  have hcount : ∀ i, ((message.get? "suggestions").bind Json.arr?).map
      (fun items => (items.length : Int)) = some i → Text.fitsInt64 i = true := by
    intro i hi
    obtain ⟨items, hitems, rfl⟩ := Option.map_eq_some_iff.mp hi
    obtain ⟨v, hv, harr⟩ := Option.bind_eq_some_iff.mp hitems
    exact fitsInt64_natCast (Nat.le_trans (length_le_of_arr? harr) (size_le_of_get? hv)) hsize
  have hsuggestions : Held maxDepth (((message.get? "suggestions").bind Json.arr?).map .arr) := by
    intro w hw
    obtain ⟨items, hitems, rfl⟩ := Option.map_eq_some_iff.mp hw
    obtain ⟨v, hv, harr⟩ := Option.bind_eq_some_iff.mp hitems
    cases v with
    | arr items =>
      cases harr
      exact held_get? hmessage "suggestions" _ hv
    | _ => cases harr
  have hrange : Held maxDepth (((message.get? "fix").filter Json.isObject).bind
      fun fix => Json.nonEmpty? (fix.get? "range")) := by
    intro w hw
    obtain ⟨fix, hfix, hrange⟩ := Option.bind_eq_some_iff.mp hw
    exact held_nonEmpty? (held_get? ((held_get? hmessage "fix").filter _ fix hfix) _) w hrange
  exact fits_blank.lines _ _
    |>.columns _ _
    |>.text (by decide) _
    |>.text (by decide) _
    |>.int (by decide) (fun _ => fitsInt64_of_asInt?)
    |>.text (by decide) _
    |>.flag (by decide) _
    |>.flag (by decide) _
    |>.text (by decide) _
    |>.text (by decide) _
    |>.int (by decide) hcount
    |>.json (by decide) hsuggestions
    |>.text (by decide) _
    |>.json (by decide) hrange

/-- ESLint has rows for messages, for files and for the scan, and one table for all three. -/
theorem Eslint.fits_of_mem (hdocument : run.document.Readable (maxDepth + 1))
    (hsize : (run.document.size : Int) ≤ Text.int64Max) (h : f ∈ Eslint.findings run ctx) :
    f.Fits (ownColumns .eslint) := by
  simp only [Eslint.findings, Eslint.entryRows, List.mem_append, List.mem_flatMap, List.mem_map,
    List.mem_singleton] at h
  rcases h with ⟨e, he, ⟨message, hmessage, rfl⟩ | rfl⟩ | rfl
  · obtain ⟨v, hv, hentry⟩ := List.mem_filterMap.mp he
    obtain ⟨file, -, rfl⟩ := Option.map_eq_some_iff.mp hentry
    have hreadable := (held_some hdocument).of_mem_itemsOf_of_succ hv
    have hle := Nat.le_trans (size_le_of_mem_itemsOf_get? hmessage) (size_le_of_mem_itemsOf hv)
    exact Eslint.fits_issueRow ((held_get? hreadable "messages").of_mem_itemsOf hmessage)
      (Int.le_trans (Int.ofNat_le.mpr hle) hsize)
  · exact Eslint.fits_withCounts (fits_blank.text (by decide) _) (Eslint.fits_counts e)
      |>.real (by decide) _
      |>.text (by decide) _
  -- everything that is counted lies in the document, whose size fits in a word
  · have hword : run.document.size ≤ maxWord := by
      simp only [Text.int64Max, maxWord] at hsize ⊢
      omega
    have hfiles : (Eslint.entriesOf run.document).length ≤ run.document.size :=
      Nat.le_trans (List.length_filterMap_le _ _) (length_itemsOf_le _)
    have hmetrics := Eslint.readable_metricsOf (Nat.le_trans hfiles hword)
      (Nat.le_trans (Eslint.length_messages_le run.document) hword)
    exact Eslint.fits_withCounts (fits_blank.text (by decide) _) (Eslint.fits_totals _)
      |>.json (by decide) (held_some (hmetrics.mono (by decide)))

end Fields

/-- The columns that the rows of a tool are made for: those of its table, and for Qlty the help
text, which its table does not have. -/
def Schema.rowColumns : Tool → List Schema.Column
  | .qlty => ⟨"help_text", .text⟩ :: Schema.ownColumns .qlty
  | t => Schema.ownColumns t

/-- **The fields of the findings of every tool fit the columns that they are made for.** -/
theorem fits_of_mem_read {settings : ToolSettings} {t : Tool} {run : RunRecord}
    {ctx : PathContext} {findings : List Finding}
    (h : (analyzerOf settings t).read run ctx = .ok findings) (hrun : run.Sound) :
    ∀ f ∈ findings, f.Fits (Schema.rowColumns t) := by
  intro f hf
  have hdocument := hrun.document
  cases t <;> cases h
  case bandit => exact Bandit.fits_of_mem hdocument hf
  case mypy => exact Mypy.fits_of_mem hf
  case radon => exact Radon.fits_of_mem hrun.size_bundle hf
  case vulture => exact Vulture.fits_of_mem hf
  case semgrep => exact Semgrep.fits_of_mem hdocument hf
  case eslint => exact Eslint.fits_of_mem hdocument hrun.size_document hf
  case gitleaks => exact Gitleaks.fits_of_mem hdocument hf
  case biome => exact Biome.fits_of_mem hdocument hf
  case snyk => exact Snyk.fits_of_mem hdocument hf
  case bearer => exact Bearer.fits_of_mem hdocument hf
  case qlty => exact Qlty.fits_of_mem hdocument hf
  case jscpd => exact Jscpd.fits_of_mem hf

end LintLedger
