import LintLedger.Analyzer.Bandit
import LintLedger.Analyzer.Bearer
import LintLedger.Analyzer.Biome
import LintLedger.Analyzer.Eslint
import LintLedger.Analyzer.Gitleaks
import LintLedger.Analyzer.Mypy
import LintLedger.Analyzer.Sarif
import LintLedger.Analyzer.Semgrep
import LintLedger.Proofs.Data.Digits
import LintLedger.Proofs.Finding.Columns
import LintLedger.Proofs.Store.Persist

/-!
# Rules in the identity of issues

Every tool names the rule that an issue breaks, and every reader keeps the name in a column of its
own choice.  Only two of these columns are identity fields.  Two issues in one place with one
message are therefore told apart by their rules where the tool is Semgrep, Bearer, Gitleaks, ESLint
or one that reports in the common results format, and they are one issue where it is Bandit, Mypy or
Biome.

## Main Definitions

* `Region.told` -- what the identity tells of a region
* `IgnoresKeys` -- what an issue holds under some keys does not take part in its identity
* `TellsRule` -- the rule of an issue takes part in its identity
* `KeysDiffer` -- two issues are read and have two keys

## Main Statements

* `Finding.SameIdentity.told_eq` -- findings that agree are in one region, as far as it is told
* `Bandit.ignoresKeys`, `Mypy.ignoresKeys`, `Biome.ignoresKeys` -- rules that are not told
* `Semgrep.tellsRule`, `Bearer.tellsRule`, … -- rules that are told
* `rules_and_places_in_identity` -- what takes part for which tool
* `TwoIssues.keysDiffer_of_rules_and_lines` -- issues that are told apart
* `one_of_two_rules_stored` -- a report of which an issue is lost
-/

namespace LintLedger

/-! ## Places -/

/-- What the identity tells of a region: a zero passes for nothing. -/
def Region.told (r : Region) : Region where
  line? := r.line?.filter (· ≠ 0)
  endLine? := r.endLine?.filter (· ≠ 0)
  column? := r.column?.filter (· ≠ 0)
  endColumn? := r.endColumn?.filter (· ≠ 0)

namespace Finding

variable {f g : Finding}

theorem fieldText?_of_column?_eq {name : String} {i? : Option Int}
    (h : f.column? name = i?.map .ofInt) :
    f.fieldText? name = (i?.filter (· ≠ 0)).map toString := by
  rw [fieldText?, h]
  cases i? with
  | none => rfl
  | some i =>
    by_cases hi : i = 0 <;>
      simp [Option.filter, Json.isTruthy, Number.isNonzero, Json.ofInt, Json.plain, Json.render,
        Number.render, hi]

/-- Findings that agree are in one region, as far as it is told. -/
theorem SameIdentity.told_eq (same : SameIdentity f g) : f.region.told = g.region.told := by
  have htold : ∀ name ∈ placeFields, ∀ i? j? : Option Int, f.column? name = i?.map .ofInt →
      g.column? name = j?.map .ofInt → i?.filter (· ≠ 0) = j?.filter (· ≠ 0) := by
    intro name hname i? j? hf hg
    have hsame := same.fields name (mem_identityFields.mpr (.inr hname))
    rw [fieldText?_of_column?_eq hf, fieldText?_of_column?_eq hg] at hsame
    exact Option.map_injective (fun _ _ => Digits.toString_int_inj) hsame
  simp only [Region.told, Region.mk.injEq]
  exact ⟨htold "line_number" (by decide) _ _ rfl rfl,
    htold "end_line_number" (by decide) _ _ rfl rfl, htold "col_offset" (by decide) _ _ rfl rfl,
    htold "end_col_offset" (by decide) _ _ rfl rfl⟩

end Finding

/-! ## Rules -/

/-- Issues that differ in nothing but what they hold under some keys have one identity. -/
def IgnoresKeys (issue? : Json → Option Finding) (keys : List String) : Prop :=
  ∀ r r' f f', (∀ key, key ∉ keys → r.get? key = r'.get? key) →
    issue? r = some f → issue? r' = some f' → f.key = f'.key

/-- Issues with the same identity fields, and without bars outside their messages, have different
identities if their rules differ. -/
def TellsRule {Raw : Type} (issue? : Raw → Option Finding) (rule? : Raw → Option String) : Prop :=
  ∀ r r' f f', issue? r = some f → issue? r' = some f' → f.BarFree → f'.BarFree →
    f.SameFields f' → f.TellsApart f' → rule? r ≠ rule? r' → f.key ≠ f'.key

/-- The text of a value that is a rule. -/
def ruleText? (v? : Option Json) : Option String := (Json.asText? v?).filter (· ≠ "")

namespace Finding

variable {f g : Finding}

/-- Findings that agree and whose identities are computed have one key. -/
theorem SameIdentity.key_eq (same : SameIdentity f g) (hf : f.pk? = none) (hg : g.pk? = none) :
    f.key = g.key := by
  rw [key, key, pk, pk, hf, hg, same.table, Option.getD_none, Option.getD_none, same.contentKey_eq]

/-- Findings with one key whose identities are computed agree, if they can be told apart. -/
theorem sameIdentity_of_key_eq (hf : BarFree f) (hg : BarFree g) (hsame : SameFields f g)
    (hdigest : TellsApart f g) (hpk : f.pk? = none) (hpk' : g.pk? = none) (h : f.key = g.key) :
    SameIdentity f g := by
  have hkey : f.pk = g.pk := congrArg Prod.snd h
  rw [pk, pk, hpk, hpk'] at hkey
  exact sameIdentity_of_identityText_eq hf hg hsame (hdigest hkey)

end Finding

variable (ctx : PathContext) (root : String)

/-! ## Rules that are not told -/

/-- Bandit names a rule by an identifier and a name, kept in the column `rule`. -/
theorem Bandit.ignoresKeys : IgnoresKeys (Bandit.issue? ctx root) ["test_id", "test_name"] := by
  intro r r' f f' hagree hf hf'
  obtain ⟨file, hfile, rfl⟩ := Option.map_eq_some_iff.mp hf
  obtain ⟨file', hfile', rfl⟩ := Option.map_eq_some_iff.mp hf'
  have hname : r.get? "filename" = r'.get? "filename" := hagree _ (by decide)
  have hline : r.get? "line_number" = r'.get? "line_number" := hagree _ (by decide)
  have hrange : r.get? "line_range" = r'.get? "line_range" := hagree _ (by decide)
  have hfirst : r.get? "col_offset" = r'.get? "col_offset" := hagree _ (by decide)
  have hlast : r.get? "end_col_offset" = r'.get? "end_col_offset" := hagree _ (by decide)
  have hmessage : r.get? "issue_text" = r'.get? "issue_text" := hagree _ (by decide)
  have hfiles : file = file' := by
    rw [file?, Json.textAt?, hname] at hfile
    rw [file?, Json.textAt?, hfile] at hfile'
    exact Option.some.inj hfile'
  refine (Finding.sameIdentity_of_find?_eq ?_ ?_ ?_ ?_ ?_).key_eq (by simp) (by simp)
  · simp
  · simp [hfiles]
  · simp
  · simp [lastLine?, hline, hrange, hfirst, hlast]
  · simp [Finding.valueFields, Finding.namingFields, hmessage]

/-- Mypy names a rule by a code, kept in the column `code`. -/
theorem Mypy.ignoresKeys : IgnoresKeys (Mypy.issue? ctx root) ["code"] := by
  intro r r' f f' hagree hf hf'
  obtain ⟨file, hfile, rfl⟩ := Option.map_eq_some_iff.mp hf
  obtain ⟨file', hfile', rfl⟩ := Option.map_eq_some_iff.mp hf'
  have hname : r.get? "file" = r'.get? "file" := hagree _ (by decide)
  have hline : r.get? "line" = r'.get? "line" := hagree _ (by decide)
  have hend : r.get? "end_line" = r'.get? "end_line" := hagree _ (by decide)
  have hfirst : r.get? "column" = r'.get? "column" := hagree _ (by decide)
  have hlast : r.get? "end_column" = r'.get? "end_column" := hagree _ (by decide)
  have hmessage : r.get? "message" = r'.get? "message" := hagree _ (by decide)
  have hfiles : file = file' := by
    rw [file?, Json.textAt?, hname] at hfile
    rw [file?, Json.textAt?, hfile] at hfile'
    exact Option.some.inj hfile'
  refine (Finding.sameIdentity_of_find?_eq ?_ ?_ ?_ ?_ ?_).key_eq (by simp) (by simp)
  · simp
  · simp [hfiles]
  · simp
  · simp [hline, hend, hfirst, hlast]
  · simp [Finding.valueFields, Finding.namingFields, hmessage]

/-- What Biome holds under other keys than the category and the location, the file and the lines
make up the identity: neither the category nor the span of bytes takes part. -/
theorem Biome.key_eq_of_region_eq {r r' : Json} {f f' : Finding}
    (hagree : ∀ key, key ∉ ["category", "location"] → r.get? key = r'.get? key)
    (hfile : file? r = file? r') (hf : issue? ctx root r = some f)
    (hf' : issue? ctx root r' = some f') (hregion : f.region = f'.region) : f.key = f'.key := by
  obtain ⟨file, hname, rfl⟩ := Option.map_eq_some_iff.mp hf
  obtain ⟨file', hname', rfl⟩ := Option.map_eq_some_iff.mp hf'
  have hmessage : r.get? "message" = r'.get? "message" := hagree _ (by decide)
  have hdescription : r.get? "description" = r'.get? "description" := hagree _ (by decide)
  have hfiles : file = file' := by
    rw [hfile, hname'] at hname
    exact (Option.some.inj hname).symm
  refine (Finding.sameIdentity_of_find?_eq ?_ ?_ ?_ hregion ?_).key_eq (by simp) (by simp)
  · simp
  · simp [hfiles]
  · simp
  · simp [Finding.valueFields, Finding.namingFields, hmessage, hdescription]

/-- Biome names a rule by a category. -/
theorem Biome.ignoresKeys : IgnoresKeys (Biome.issue? ctx root) ["category"] := by
  intro r r' f f' hagree hf hf'
  have hlocation : r.get? "location" = r'.get? "location" := hagree _ (by decide)
  have hfile : file? r = file? r' := by
    simp only [file?, Json.dig?, hlocation]
  refine Biome.key_eq_of_region_eq ctx root (fun key hkey => hagree key ?_) hfile hf hf' ?_
  · exact fun hmem => hkey (List.mem_append_left ["location"] hmem)
  · obtain ⟨file, -, rfl⟩ := Option.map_eq_some_iff.mp hf
    obtain ⟨file', -, rfl⟩ := Option.map_eq_some_iff.mp hf'
    simp [hlocation]

/-! ## Rules that are told -/

/-- Rules are told where they are kept under an identity field. -/
theorem tellsRule_of_find?_eq {Raw : Type} {issue? : Raw → Option Finding}
    {rule? : Raw → Option String} {name : String} (hname : name ∈ Finding.valueFields)
    (hrow : ∀ r f, issue? r = some f →
      f.pk? = none ∧ f.fields.find? name = (rule? r).map Json.str) :
    TellsRule issue? fun r => (rule? r).filter (· ≠ "") := by
  intro r r' f f' hf hf' hfree hfree' hsame hdigest hne hkey
  obtain ⟨hpk, htext⟩ := hrow r f hf
  obtain ⟨hpk', htext'⟩ := hrow r' f' hf'
  have same := Finding.sameIdentity_of_key_eq hfree hfree' hsame hdigest hpk hpk' hkey
  exact hne (same.find?_text_eq hname htext htext')

theorem Semgrep.tellsRule :
    TellsRule (Semgrep.issue? ctx root) fun r => ruleText? (r.get? "check_id") := by
  refine tellsRule_of_find?_eq (show "check_id" ∈ _ by decide) fun r f hf => ?_
  obtain ⟨file, -, rfl⟩ := Option.map_eq_some_iff.mp hf
  simp

theorem Bearer.tellsRule :
    TellsRule (Bearer.issue? ctx root) fun entry => ruleText? (entry.2.get? "id") := by
  refine tellsRule_of_find?_eq (show "rule_id" ∈ _ by decide) fun entry f hf => ?_
  obtain ⟨file, -, rfl⟩ := Option.map_eq_some_iff.mp hf
  simp

theorem Gitleaks.tellsRule (settings : GitleaksSettings) :
    TellsRule (Gitleaks.issue? settings ctx root) fun leak => ruleText? (leak.get? "RuleID") := by
  refine tellsRule_of_find?_eq (show "rule_id" ∈ _ by decide) fun leak f hf => ?_
  obtain ⟨file, -, rfl⟩ := Option.map_eq_some_iff.mp hf
  simp

theorem Eslint.tellsRule (file : String) :
    TellsRule (fun message => some (Eslint.issueRow file root message))
      fun message => ruleText? (message.get? "ruleId") := by
  refine tellsRule_of_find?_eq (show "rule_id" ∈ _ by decide) fun message f hf => ?_
  obtain rfl := Option.some.inj hf
  simp [issueRow, rule?]

theorem Sarif.tellsRule (tool : Tool) :
    TellsRule (fun hit => some (Sarif.row tool ctx root hit)) fun hit =>
      hit.ruleId?.filter (· ≠ "") := by
  refine tellsRule_of_find?_eq (show "rule_id" ∈ _ by decide) fun hit f hf => ?_
  obtain rfl := Option.some.inj hf
  simp [row]

/-! ## Rules and places -/

/-- **What of the rule and the place of an issue takes part in its identity.**  For Bandit, Mypy and
Biome the rule does not, and for Biome neither does the span of bytes, as long as it is on the same
lines: issues that differ in nothing else have one key, so that the store keeps one of them.  For
the other tools the rule does, and for all tools so do the lines and columns, where the issues have
the same identity fields, no bars outside their messages and texts that the digest tells apart. -/
theorem rules_and_places_in_identity (file : String) (gitleaks : GitleaksSettings) (tool : Tool) :
    (IgnoresKeys (Bandit.issue? ctx root) ["test_id", "test_name"] ∧
      IgnoresKeys (Mypy.issue? ctx root) ["code"] ∧
      IgnoresKeys (Biome.issue? ctx root) ["category"] ∧
      ∀ r r' f f', (∀ key, key ∉ ["category", "location"] → r.get? key = r'.get? key) →
        Biome.file? r = Biome.file? r' → Biome.issue? ctx root r = some f →
        Biome.issue? ctx root r' = some f' → f.region = f'.region → f.key = f'.key) ∧
    (TellsRule (Semgrep.issue? ctx root) (fun r => ruleText? (r.get? "check_id")) ∧
      TellsRule (Bearer.issue? ctx root) (fun entry => ruleText? (entry.2.get? "id")) ∧
      TellsRule (Gitleaks.issue? gitleaks ctx root) (fun leak => ruleText? (leak.get? "RuleID")) ∧
      TellsRule (fun message => some (Eslint.issueRow file root message))
        (fun message => ruleText? (message.get? "ruleId")) ∧
      TellsRule (fun hit => some (Sarif.row tool ctx root hit))
        (fun hit => hit.ruleId?.filter (· ≠ ""))) ∧
    ∀ f g : Finding, f.BarFree → g.BarFree → f.SameFields g → f.TellsApart g → f.pk? = none →
      g.pk? = none → f.region.told ≠ g.region.told → f.key ≠ g.key :=
  ⟨⟨Bandit.ignoresKeys ctx root, Mypy.ignoresKeys ctx root, Biome.ignoresKeys ctx root,
      fun _ _ _ _ => Biome.key_eq_of_region_eq ctx root⟩,
    ⟨Semgrep.tellsRule ctx root, Bearer.tellsRule ctx root, Gitleaks.tellsRule ctx root gitleaks,
      Eslint.tellsRule root file, Sarif.tellsRule ctx root tool⟩,
    fun _ _ hf hg hsame hdigest hpk hpk' hne hkey => hne
      (Finding.sameIdentity_of_key_eq hf hg hsame hdigest hpk hpk' hkey).told_eq⟩

/-- The keys of the two issues that are read differ. -/
def KeysDiffer {Raw : Type} (issue? : Raw → Option Finding) (r r' : Raw) : Prop :=
  ∃ f f', issue? r = some f ∧ issue? r' = some f' ∧ f.key ≠ f'.key

namespace TwoIssues

/-- Two issues are read, and they satisfy what is asked of issues that are to be told apart. -/
def Comparable {Raw : Type} (issue? : Raw → Option Finding) (r r' : Raw) : Prop :=
  ∃ f ∈ issue? r, ∃ f' ∈ issue? r', f.BarFree ∧ f'.BarFree ∧ f.SameFields f' ∧
    Sha256.hexNat f.identityChars ≠ Sha256.hexNat f'.identityChars

instance {Raw : Type} (issue? : Raw → Option Finding) (r r' : Raw) :
    Decidable (Comparable issue? r r') :=
  inferInstanceAs (Decidable (∃ f ∈ _, ∃ f' ∈ _, _ ∧ _ ∧ _ ∧ _))

theorem keysDiffer_of_tellsRule {Raw : Type} {issue? : Raw → Option Finding}
    {rule? : Raw → Option String} (h : TellsRule issue? rule?) {r r' : Raw}
    (hpair : Comparable issue? r r') (hne : rule? r ≠ rule? r') : KeysDiffer issue? r r' := by
  obtain ⟨f, hf, f', hf', hfree, hfree', hsame, hdigest⟩ := hpair
  exact ⟨f, f', hf, hf',
    h r r' f f' hf hf' hfree hfree' hsame (Finding.tellsApart_of_hexNat_ne hdigest) hne⟩

/-- The context of a run in a project. -/
def site : PathContext := ⟨some "/w/proj", some "/w/proj", none⟩

/-- A line that breaks a rule, as Semgrep reports it, … -/
def semgrep (rule : String) : Json :=
  .obj [("path", .str "a.py"), ("check_id", .str rule), ("start", .obj [("line", .num (.int 3))])]

/-- … as Bearer does, … -/
def bearer (rule : String) : String × Json :=
  ("high", .obj [("id", .str rule), ("filename", .str "a.py"), ("line_number", .num (.int 3))])

/-- … as Gitleaks does, … -/
def gitleaks (rule : String) : Json :=
  .obj [("RuleID", .str rule), ("File", .str "a.py"), ("StartLine", .num (.int 3))]

/-- … as ESLint does, … -/
def eslint (rule : String) : Json :=
  .obj [("ruleId", .str rule), ("message", .str "eval"), ("line", .num (.int 3))]

/-- … and as tools do that report in the common results format. -/
def hit (rule : String) : Sarif.Hit where
  uri := "a.py"
  region := ⟨some 3, none, none, none⟩
  ruleId? := some rule
  ruleName? := none
  level? := none
  message? := none
  fingerprint? := none
  help? := none
  tags? := none
  properties? := none
  driver? := none

/-- A complaint of Mypy about a line. -/
def mypy (line : Int) : Json :=
  .obj [("file", .str "a.py"), ("line", .num (.int line)), ("message", .str "eval")]

theorem line?_told_of_mypy {line : Int} {f : Finding}
    (h : f ∈ Mypy.issue? site "/w/proj" (mypy line)) :
    f.pk? = none ∧
      f.region.told.line? = (Json.asInt? (some (.num (.int line)))).filter (· ≠ 0) := by
  obtain ⟨file, -, rfl⟩ := Option.map_eq_some_iff.mp h
  exact ⟨rfl, rfl⟩

/-- **Rules and lines that are told.**  Two issues that differ in the rule alone have two keys where
the tool tells rules, and so have two complaints of Mypy that differ in the line alone. -/
theorem keysDiffer_of_rules_and_lines :
    KeysDiffer (Semgrep.issue? site "/w/proj") (semgrep "x") (semgrep "y") ∧
    KeysDiffer (Bearer.issue? site "/w/proj") (bearer "x") (bearer "y") ∧
    KeysDiffer (Gitleaks.issue? {} site "/w/proj") (gitleaks "x") (gitleaks "y") ∧
    KeysDiffer (fun message => some (Eslint.issueRow "/w/proj/a.ts" "/w/proj" message))
      (eslint "x") (eslint "y") ∧
    KeysDiffer (fun hit => some (Sarif.row .snyk site "/w/proj" hit)) (hit "x") (hit "y") ∧
    KeysDiffer (Mypy.issue? site "/w/proj") (mypy 3) (mypy 4) := by
  obtain ⟨-, ⟨hsemgrep, hbearer, hgitleaks, heslint, hsarif⟩, hplaces⟩ :=
    rules_and_places_in_identity site "/w/proj" "/w/proj/a.ts" {} .snyk
  have hlines : KeysDiffer (Mypy.issue? site "/w/proj") (mypy 3) (mypy 4) := by
    have hpair : Comparable (Mypy.issue? site "/w/proj") (mypy 3) (mypy 4) := by decide +kernel
    obtain ⟨f, hf, f', hf', hfree, hfree', hsame, hdigest⟩ := hpair
    obtain ⟨hpk, hline⟩ := line?_told_of_mypy hf
    obtain ⟨hpk', hline'⟩ := line?_told_of_mypy hf'
    have htold : f.region.told ≠ f'.region.told := by
      intro hsame
      have hlines := congrArg Region.line? hsame
      rw [hline, hline'] at hlines
      exact absurd hlines (by decide)
    exact ⟨f, f', hf, hf', hplaces f f' hfree hfree' hsame
      (Finding.tellsApart_of_hexNat_ne hdigest) hpk hpk' htold⟩
  exact ⟨keysDiffer_of_tellsRule hsemgrep (by decide +kernel) (by decide),
    keysDiffer_of_tellsRule hbearer (by decide +kernel) (by decide),
    keysDiffer_of_tellsRule hgitleaks (by decide +kernel) (by decide),
    keysDiffer_of_tellsRule heslint (by decide +kernel) (by decide),
    keysDiffer_of_tellsRule hsarif (by decide +kernel) (by decide), hlines⟩

end TwoIssues

/-- **One of two issues is lost.**  Bandit reports two rules that are broken by one call, in the
same words, and the store keeps the first. -/
theorem one_of_two_rules_stored :
    let result : String → Json := fun rule =>
      .obj [("col_offset", .num (.int 4)), ("end_col_offset", .num (.int 9)),
        ("filename", .str "/w/proj/a.py"), ("issue_text", .str "Possible injection"),
        ("line_number", .num (.int 3)), ("test_id", .str rule)]
    let run : RunRecord :=
      { tool := "bandit", cmd := ["bandit"], cwd := "/w/proj", exitCode := 1, duration := 0.5
        stdout := "", stderr := ""
        payload? := some (.obj [("results", .arr [result "B602", result "B604"])]) }
    let ctx := PathContext.ofRun run (some "/w/proj") none
    let findings := Bandit.findings run ctx
    let rules := findings.map fun f => (f.fields.find? "rule").bind Json.str?
    Bandit.analyzer.read run ctx = .ok findings ∧ rules = [some "B602", some "B604"] ∧
      (Store.empty.seed.persist .bulk ⟨"2026-01-01T00:00:00Z", some "bandit", some "/w/proj"⟩
        findings).2 = .ok (1, 1) := by
  intro result run ctx findings rules
  obtain ⟨f, hf⟩ : ∃ f, Bandit.issue? ctx "/w/proj" (result "B602") = some f := ⟨_, rfl⟩
  obtain ⟨g, hg⟩ : ∃ g, Bandit.issue? ctx "/w/proj" (result "B604") = some g := ⟨_, rfl⟩
  have hfindings : findings = [f, g] := by
    change [result "B602", result "B604"].filterMap (Bandit.issue? ctx "/w/proj") = [f, g]
    simp only [List.filterMap_cons, List.filterMap_nil, hf, hg]
  have hkey : f.key = g.key := by
    refine Bandit.ignoresKeys ctx "/w/proj" (result "B602") (result "B604") f g ?_ hf hg
    intro key hkey
    simp only [List.mem_cons, List.not_mem_nil, or_false, not_or] at hkey
    simp [result, Json.get?, Assoc.find?, hkey.1]
  have hwritable : Store.empty.seed.Writable findings := ⟨rfl, by decide⟩
  refine ⟨rfl, by decide, ?_⟩
  rw [hfindings] at hwritable ⊢
  rw [Store.persist_pair hwritable _ _ List.not_mem_nil List.not_mem_nil, if_pos hkey]
  rfl

end LintLedger
