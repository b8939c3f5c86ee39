import LintLedger.Proofs.Analyzer.Clones
import LintLedger.Proofs.Analyzer.Report
import LintLedger.Proofs.Path.Spelling

/-!
# The files that reports are about

Every tool has its own place in a report for the name of a file and its own manner to spell it.  A
file below the working directory gets the same place and the same root in the rows of all of them.

## Main Definitions

* `RowFor` -- the rows of a report, each with the name of a file as the report has it
* `Names` -- the names by which a tool can mean a file
* `Brings` -- the rows that the report of a tool brings for a file

## Main Statements

* `exists_rowFor` -- every row of a report is about a file that it names, but ESLint's for a
  whole scan
* `root_of_mem_read` -- the rows of a report have the anchor for their root
* `Brings.file_and_root` -- the rows of any two tools for one file agree on where it is
-/

namespace LintLedger

namespace Text

/-- Nothing in front of an element that stays is dropped. -/
theorem dropTail_append_cons {α : Type} {p : α → Bool} {c : α} (hc : p c = false)
    (front back : List α) : dropTail p (front ++ c :: back) = front ++ c :: dropTail p back := by
  rw [dropTail, dropTail, List.reverse_append, List.reverse_cons, List.append_assoc,
    List.dropWhile_append]
  split
  · rename_i hempty
    rw [List.isEmpty_iff.mp hempty, List.singleton_append, List.dropWhile_cons, hc]
    simp
  · simp

theorem dropTail_prefix {α : Type} (p : α → Bool) (cs : List α) : dropTail p cs <+: cs := by
  rw [← List.reverse_suffix, dropTail, List.reverse_reverse]
  exact List.dropWhile_suffix p

theorem afterFront?_eq_some_iff {front cs rest : List Char} :
    afterFront? front cs = some rest ↔ cs = front ++ rest := by
  induction front generalizing cs with
  | nil => rw [afterFront?, Option.some.injEq, List.nil_append]
  | cons f front ih =>
    cases cs with
    | nil => simp [afterFront?]
    | cons c cs =>
      rw [afterFront?, List.cons_append, List.cons.injEq]
      split
      · rename_i heq
        rw [ih, heq, eq_self, true_and]
      · rename_i hne
        simp [Ne.symm hne]

end Text

/-! ## Lines of text -/

namespace Vulture

open LintLedger.Text

theorem isDecimalDigit_colon : isDecimalDigit ':' = false := by decide

theorem lineMark?_eq_some_iff {cs digits more : List Char} :
    lineMark? cs = some (digits, more) ↔
      cs = digits ++ ':' :: more ∧ digits ≠ [] ∧ ∀ c ∈ digits, isDecimalDigit c = true := by
  constructor
  · intro h
    rw [lineMark?] at h
    split at h
    · rename_i rest hrest
      dsimp only at h
      split at h
      · cases h
      · rename_i hempty
        cases h
        refine ⟨?_, fun hnil => hempty (List.isEmpty_iff.mpr hnil),
          List.all_eq_true.mp List.all_takeWhile⟩
        rw [← hrest, List.takeWhile_append_dropWhile]
    · cases h
  · rintro ⟨rfl, hne, hdigits⟩
    have htake := Joined.takeWhile_append_cons hdigits isDecimalDigit_colon more
    have hdrop := Joined.dropWhile_append_cons hdigits isDecimalDigit_colon more
    rw [lineMark?, hdrop, htake]
    exact if_neg (by simpa using hne)

/-- A name ends at the first colon behind which digits and a colon stand. -/
theorem splitFile?_append_of_unmarked {passed name cs digits more : List Char}
    (hname : ∀ front back, name = front ++ ':' :: back → lineMark? (back ++ ':' :: cs) = none)
    (hne : passed ++ name ≠ []) (hmark : lineMark? cs = some (digits, more)) :
    splitFile? passed (name ++ ':' :: cs) = some (passed.reverse ++ name, digits, more) := by
  -- what was passed grows while the name is read, so it is generalised
  induction name generalizing passed with
  | nil =>
    rw [List.append_nil] at hne ⊢
    rw [List.nil_append, splitFile?, if_pos ⟨rfl, by simpa using hne⟩, hmark]
  | cons c name ih =>
    have hc : (if c = ':' ∧ ¬ passed.isEmpty then lineMark? (name ++ ':' :: cs) else none) =
        none := by
      split
      · rename_i hcolon
        exact hname [] name (by rw [hcolon.1, List.nil_append])
      · rfl
    have hrest := @ih (c :: passed)
      (fun front back heq => hname (c :: front) back (by rw [heq, List.cons_append])) (by simp)
    rw [List.cons_append, splitFile?, hc, hrest, List.reverse_cons, List.append_assoc]
    rfl

/-- A name without colons ends at the first colon. -/
theorem splitFile?_append {passed name cs digits more : List Char} (hcolon : ':' ∉ name)
    (hne : passed ++ name ≠ []) (hmark : lineMark? cs = some (digits, more)) :
    splitFile? passed (name ++ ':' :: cs) = some (passed.reverse ++ name, digits, more) :=
  splitFile?_append_of_unmarked
    (fun front back heq => absurd (heq ▸ by simp : ':' ∈ name) hcolon) hne hmark

/-- Behind the name that is found stand a colon, digits and a colon. -/
theorem exists_of_splitFile?_eq_some {passed cs name digits more : List Char}
    (h : splitFile? passed cs = some (name, digits, more)) :
    ∃ own rest, name = passed.reverse ++ own ∧ cs = own ++ ':' :: rest ∧
      lineMark? rest = some (digits, more) := by
  induction cs generalizing passed with
  | nil => cases h
  | cons c cs ih =>
    rw [splitFile?] at h
    split at h
    · rename_i digits' more' hmark
      cases h
      split at hmark
      · rename_i hcolon
        obtain ⟨rfl, -⟩ := hcolon
        exact ⟨[], cs, (List.append_nil _).symm, rfl, hmark⟩
      · cases hmark
    · obtain ⟨own, rest, rfl, rfl, hmark⟩ := ih h
      exact ⟨c :: own, rest, by simp, rfl, hmark⟩

/-- A name that a line shows as it is: it has no colon and does not begin with a blank. -/
structure IsPlain (name : String) : Prop where
  ne_empty : name ≠ ""
  colon : ':' ∉ name.toList
  blank : ∀ c ∈ name.toList.head?, isBlank c = false

/-- A line that begins with a name and the number of a line. -/
structure Marked (line name : String) (digits more : List Char) : Prop where
  line : line.toList = name.toList ++ ':' :: (digits ++ ':' :: more)
  ne_nil : digits ≠ []
  digits : ∀ c ∈ digits, isDecimalDigit c = true

/-- **The entry of a line is about the file that the line begins with.** -/
theorem file_of_marked {line name : String} {digits more : List Char} {e : Entry}
    (hline : Marked line name digits more) (hname : IsPlain name)
    (he : entryOfLine? line = some e) : e.file = name := by
  obtain ⟨c, rest, hchars⟩ : ∃ c rest, name.toList = c :: rest :=
    List.exists_cons_of_ne_nil fun hnil => hname.ne_empty (String.toList_inj.mp hnil)
  have hstart : line.toList.dropWhile isBlank = line.toList := by
    rw [hline.line, hchars, List.cons_append, List.dropWhile_cons,
      hname.blank c (by rw [hchars]; rfl)]
    simp
  have htrim : trimChars line.toList =
      name.toList ++ ':' :: (digits ++ ':' :: dropTail isBlank more) := by
    have hcolon : isBlank ':' = false := by decide
    rw [trimChars, hstart, hline.line, dropTail_append_cons hcolon, dropTail_append_cons hcolon]
  have hmark : lineMark? (digits ++ ':' :: dropTail isBlank more) =
      some (digits, dropTail isBlank more) :=
    lineMark?_eq_some_iff.mpr ⟨rfl, hline.ne_nil, hline.digits⟩
  have hsplit := @splitFile?_append [] name.toList _ _ _ hname.colon (by simp [hchars]) hmark
  rw [entryOfLine?, htrim, hsplit] at he
  obtain ⟨-, -, rfl⟩ := Option.map_eq_some_iff.mp he
  simp

/-- Every line with an entry begins with a name and the number of a line. -/
theorem exists_marked {line : String} {e : Entry} (he : entryOfLine? line = some e) :
    ∃ name digits more, Marked line name digits more := by
  obtain ⟨⟨file, digits, more⟩, hsplit, -⟩ := Option.bind_eq_some_iff.mp he
  obtain ⟨own, rest, -, htrim, hmark⟩ := exists_of_splitFile?_eq_some hsplit
  obtain ⟨rfl, hne, hdigits⟩ := lineMark?_eq_some_iff.mp hmark
  obtain ⟨tail, htail⟩ := dropTail_prefix isBlank (line.toList.dropWhile isBlank)
  -- the blanks that were trimmed in front belong to the name, those at the end to the rest
  refine ⟨String.ofList (line.toList.takeWhile isBlank ++ own), digits, more ++ tail, ?_, hne,
    hdigits⟩
  rw [trimChars] at htrim
  rw [htrim] at htail
  rw [String.toList_ofList, List.append_assoc]
  calc line.toList
      = line.toList.takeWhile isBlank ++ line.toList.dropWhile isBlank :=
        List.takeWhile_append_dropWhile.symm
    _ = _ := by rw [← htail]; simp

end Vulture

/-! ## Results in the common format -/

namespace Sarif

/-- Only the scheme of local files is taken off. -/
theorem withoutScheme_append (name : String) : withoutScheme ("file://" ++ name) = name := by
  have hrest : Text.afterFront? "file://".toList ("file://" ++ name).toList = some name.toList :=
    Text.afterFront?_eq_some_iff.mpr (String.toList_append ..)
  rw [withoutScheme, hrest, Option.map_some, Option.getD_some, String.ofList_toList]

/-- A spelling of a file has no scheme, for no segment of it is empty. -/
theorem withoutScheme_of_spelling {dir file name : String} (hdir : Path.isAbsolute dir = true)
    (hfile : Path.FileBelow dir file) (h : Path.Spelling dir file name) :
    withoutScheme name = name := by
  cases hfront : Text.afterFront? "file://".toList name.toList with
  | none =>
    rw [withoutScheme, hfront]
    rfl
  | some rest =>
    -- between the two slashes of a scheme there would be an empty segment
    have hname : name = "file:" ++ "/" ++ ("" ++ "/" ++ String.ofList rest) := by
      rw [← String.toList_inj, Text.afterFront?_eq_some_iff.mp hfront]
      simp [String.toList_append]
    have hrelative : Path.isAbsolute name = false := by
      rw [Path.isAbsolute, Text.afterFront?_eq_some_iff.mp hfront]
      rfl
    have hempty : "" ∈ Path.segments name := by
      rw [hname, FileTree.segments_append_slash, FileTree.segments_append_slash]
      exact List.mem_append_right _ (List.mem_append_left _ (by decide))
    exact absurd rfl (h.forall_mem_segments hdir hfile hrelative "" hempty).ne_empty

/-- A hit of a report at a location with one name. -/
def HitNamed (report : Json) (name : String) (hit : Hit) : Prop :=
  ∃ run ∈ Json.itemsOf (report.get? "runs"), ∃ result ∈ Json.itemsOf (run.get? "results"),
    ∃ location ∈ Json.itemsOf (result.get? "locations"), ∃ driver? rules,
      Json.asText? (((location.get? "physicalLocation").getD .null).dig?
        ["artifactLocation", "uri"]) = some name ∧
      hitAt? driver? rules result location = some hit

end Sarif

/-! ## Rows and the names they are for -/

section Rows

variable {settings : ToolSettings} {run : RunRecord} {ctx : PathContext} {root : String}
  {t : Tool} {name : String} {f : Finding}

/-- The rows of a report, each with the name that the report has for the file. -/
inductive RowFor (settings : ToolSettings) (run : RunRecord) (ctx : PathContext) (root : String) :
    Tool → String → Finding → Prop
  | bandit {result : Json} {name : String} {f : Finding}
      (hmem : result ∈ Json.itemsOf (run.document.get? "results"))
      (hname : Bandit.file? result = some name)
      (hrow : Bandit.issue? ctx root result = some f) : RowFor settings run ctx root .bandit name f
  | mypy {entry : Json} {name : String} {f : Finding} (hmem : entry ∈ Mypy.entries run)
      (hname : Mypy.file? entry = some name) (hrow : Mypy.issue? ctx root entry = some f) :
      RowFor settings run ctx root .mypy name f
  | complexity {entry : String × Json} {f : Finding}
      (hmem : entry ∈ Radon.entriesOf (Radon.bundleOf run) "cc")
      (hrow : Radon.complexityRow? ctx root entry = some f) :
      RowFor settings run ctx root .radon entry.1 f
  | index {entry : String × Json} {f : Finding}
      (hmem : entry ∈ Radon.entriesOf (Radon.bundleOf run) "mi")
      (hrow : Radon.indexRow? ctx root entry = some f) :
      RowFor settings run ctx root .radon entry.1 f
  | raw {entry : String × Json} {f : Finding}
      (hmem : entry ∈ Radon.entriesOf (Radon.bundleOf run) "raw")
      (hrow : Radon.rawRow? ctx root entry = some f) :
      RowFor settings run ctx root .radon entry.1 f
  | halstead {entry : String × Json} {f : Finding}
      (hmem : entry ∈ Radon.entriesOf (Radon.bundleOf run) "hal")
      (hrow : Radon.halsteadRow? ctx root entry = some f) :
      RowFor settings run ctx root .radon entry.1 f
  | vulture {line name : String} {digits more : List Char} {e : Vulture.Entry}
      (hmem : line ∈ Text.lines run.stdout) (hname : Vulture.Marked line name digits more)
      (hentry : Vulture.entryOfLine? line = some e) :
      RowFor settings run ctx root .vulture name (Vulture.row ctx root e)
  | semgrep {result : Json} {name : String} {f : Finding}
      (hmem : result ∈ Json.itemsOf (run.document.get? "results"))
      (hname : Semgrep.file? result = some name)
      (hrow : Semgrep.issue? ctx root result = some f) :
      RowFor settings run ctx root .semgrep name f
  | eslint {entry : Json} {name : String} {f : Finding}
      (hmem : entry ∈ Json.itemsOf (some run.document))
      (hname : entry.textAt? "filePath" = some name)
      (hrow : f ∈ Eslint.entryRows ctx root ⟨name, entry⟩) :
      RowFor settings run ctx root .eslint name f
  | gitleaks {leak : Json} {name : String} {f : Finding}
      (hmem : leak ∈ Gitleaks.leaksOf run.document) (hname : Gitleaks.file? leak = some name)
      (hrow : Gitleaks.issue? settings.gitleaks ctx root leak = some f) :
      RowFor settings run ctx root .gitleaks name f
  | biome {diagnostic : Json} {name : String} {f : Finding}
      (hmem : diagnostic ∈ Json.itemsOf (run.document.get? "diagnostics"))
      (hname : Biome.file? diagnostic = some name)
      (hrow : Biome.issue? ctx root diagnostic = some f) :
      RowFor settings run ctx root .biome name f
  | snyk {name : String} {hit : Sarif.Hit} (hname : Sarif.HitNamed run.document name hit) :
      RowFor settings run ctx root .snyk name (Sarif.row .snyk ctx root hit)
  | bearer {entry : String × Json} {name : String} {f : Finding}
      (hmem : entry ∈ Bearer.itemsOf run.document) (hname : Bearer.file? entry.2 = some name)
      (hrow : Bearer.issue? ctx root entry = some f) : RowFor settings run ctx root .bearer name f
  | qlty {name : String} {hit : Sarif.Hit} (hname : Sarif.HitNamed run.document name hit) :
      RowFor settings run ctx root .qlty name
        ((Sarif.row .qlty ctx root hit).text "tool_name" hit.driver?)
  | clone {listed here there : Json} {name : String} {side counterpart : Jscpd.Side}
      {c : Jscpd.Clone} (hmem : listed ∈ Jscpd.listedClones run.document)
      (hplaces : Jscpd.places listed = some (here, there) ∨
        Jscpd.places listed = some (there, here))
      (hname : (Json.asText? (here.get? "name")).or (Json.asText? (here.get? "file")) = some name)
      (hside : Jscpd.Side.ofInstance? ctx here = some side) :
      RowFor settings run ctx root .jscpd name (Jscpd.sideRow ctx root c side counterpart)
  | source {format source : String × Json}
      (hformat : format ∈
        ((run.document.dig? ["statistics", "formats"]).bind Json.obj?).getD [])
      (hsource : source ∈ ((format.2.get? "sources").bind Json.obj?).getD []) :
      RowFor settings run ctx root .jscpd source.1 (Jscpd.fileRow ctx root format.1 source)

/-! ### The place of a row -/

/-- A row of a file by one name, with a given root. -/
structure IsAt (ctx : PathContext) (root name : String) (f : Finding) : Prop where
  file : f.file = ctx.filePath name
  root : f.root = root

/-- The row of an item is about the file of the item. -/
theorem isAt_of_map {file? : Option String} {row : String → Finding} (hname : file? = some name)
    (hrow : file?.map row = some f) (hat : IsAt ctx root name (row name)) :
    IsAt ctx root name f := by
  rw [hname, Option.map_some, Option.some.injEq] at hrow
  exact hrow ▸ hat

theorem Radon.isAt_row (ctx : PathContext) (root file metric : String) :
    IsAt ctx root file (Radon.row ctx root file metric) :=
  ⟨by simp [Radon.row], by simp [Radon.row]⟩

/-- Setting fields one after the other leaves a row where it is. -/
theorem IsAt.foldl {α : Type} {set : Finding → α → Finding}
    (hset : ∀ f a, (set f a).file = f.file ∧ (set f a).root = f.root)
    (h : IsAt ctx root name f) (xs : List α) : IsAt ctx root name (xs.foldl set f) := by
  induction xs generalizing f with
  | nil => exact h
  | cons x rest ih => exact ih ⟨(hset f x).1.trans h.file, (hset f x).2.trans h.root⟩

theorem Radon.isAt_complexityRow? {entry : String × Json}
    (hrow : Radon.complexityRow? ctx root entry = some f) : IsAt ctx root entry.1 f := by
  obtain ⟨blocks, -, rfl⟩ := Option.map_eq_some_iff.mp hrow
  exact ⟨by simp [Radon.row], by simp [Radon.row]⟩

theorem Radon.isAt_indexRow? {entry : String × Json}
    (hrow : Radon.indexRow? ctx root entry = some f) : IsAt ctx root entry.1 f := by
  obtain ⟨mi, -, rfl⟩ := Option.map_eq_some_iff.mp hrow
  exact ⟨by simp [Radon.row], by simp [Radon.row]⟩

theorem Radon.isAt_rawRow? {entry : String × Json}
    (hrow : Radon.rawRow? ctx root entry = some f) : IsAt ctx root entry.1 f := by
  obtain ⟨loc, -, rfl⟩ := Option.map_eq_some_iff.mp hrow
  exact (Radon.isAt_row ctx root entry.1 "raw").foldl (fun _ _ => by simp) _

theorem Radon.isAt_halsteadRow? {entry : String × Json}
    (hrow : Radon.halsteadRow? ctx root entry = some f) : IsAt ctx root entry.1 f := by
  obtain ⟨totals, -, rfl⟩ := Option.map_eq_some_iff.mp hrow
  exact (Radon.isAt_row ctx root entry.1 "hal").foldl (fun _ _ => by simp) _

theorem Eslint.isAt_entryRows {e : Eslint.Entry} (hf : f ∈ Eslint.entryRows ctx root e) :
    IsAt ctx root e.file f := by
  rcases List.mem_append.mp hf with hf | hf
  · obtain ⟨message, -, rfl⟩ := List.mem_map.mp hf
    exact ⟨by simp [Eslint.issueRow], by simp [Eslint.issueRow]⟩
  · obtain rfl := List.mem_singleton.mp hf
    exact ⟨by simp [Eslint.fileRow, Eslint.withCounts], by simp [Eslint.fileRow, Eslint.withCounts]⟩

theorem Sarif.isAt_row (tool : Tool) (hit : Sarif.Hit) :
    IsAt ctx root hit.uri (Sarif.row tool ctx root hit) :=
  ⟨by simp [Sarif.row], by simp [Sarif.row]⟩

theorem Sarif.HitNamed.uri_eq {report : Json} {hit : Sarif.Hit}
    (h : Sarif.HitNamed report name hit) : hit.uri = Sarif.withoutScheme name := by
  obtain ⟨_, -, _, -, _, -, _, _, hname, hhit⟩ := h
  obtain ⟨uri, huri, rfl⟩ := Option.map_eq_some_iff.mp hhit
  rw [Option.some.inj (hname.symm.trans huri)]

/-- A side has the file that its place names. -/
theorem Jscpd.name_of_ofInstance? {place : Json} {side : Jscpd.Side}
    (h : Jscpd.Side.ofInstance? ctx place = some side) :
    (Json.asText? (place.get? "name")).or (Json.asText? (place.get? "file")) =
      some side.reportedFile := by
  obtain ⟨name, hname, rfl⟩ := Option.map_eq_some_iff.mp h
  exact hname

/-- A name as the reader of the report takes it. -/
def bareName (t : Tool) (name : String) : String :=
  match t with
  | .snyk | .qlty => Sarif.withoutScheme name
  | _ => name

/-- A row is about the file whose name its reader takes, which is the name that the report has for
it if a line shows that name as it is. -/
theorem RowFor.exists_isAt (h : RowFor settings run ctx root t name f) :
    ∃ taken, IsAt ctx root taken f ∧
      ((t = .vulture → Vulture.IsPlain name) → taken = bareName t name) := by
  cases h with
  | bandit _ hname hrow => exact ⟨name, isAt_of_map hname hrow ⟨by simp, by simp⟩, fun _ => rfl⟩
  | mypy _ hname hrow => exact ⟨name, isAt_of_map hname hrow ⟨by simp, by simp⟩, fun _ => rfl⟩
  | complexity _ hrow => exact ⟨_, Radon.isAt_complexityRow? hrow, fun _ => rfl⟩
  | index _ hrow => exact ⟨_, Radon.isAt_indexRow? hrow, fun _ => rfl⟩
  | raw _ hrow => exact ⟨_, Radon.isAt_rawRow? hrow, fun _ => rfl⟩
  | halstead _ hrow => exact ⟨_, Radon.isAt_halsteadRow? hrow, fun _ => rfl⟩
  | @vulture _ _ _ _ e _ hname hentry =>
    refine ⟨e.file, ⟨by simp [Vulture.row], by simp [Vulture.row]⟩, fun hplain => ?_⟩
    exact Vulture.file_of_marked hname (hplain rfl) hentry
  | semgrep _ hname hrow => exact ⟨name, isAt_of_map hname hrow ⟨by simp, by simp⟩, fun _ => rfl⟩
  | eslint _ _ hrow => exact ⟨name, Eslint.isAt_entryRows hrow, fun _ => rfl⟩
  | gitleaks _ hname hrow => exact ⟨name, isAt_of_map hname hrow ⟨by simp, by simp⟩, fun _ => rfl⟩
  | biome _ hname hrow => exact ⟨name, isAt_of_map hname hrow ⟨by simp, by simp⟩, fun _ => rfl⟩
  | snyk hname => exact ⟨_, Sarif.isAt_row .snyk _, fun _ => hname.uri_eq⟩
  | bearer _ hname hrow => exact ⟨name, isAt_of_map hname hrow ⟨by simp, by simp⟩, fun _ => rfl⟩
  | @qlty _ hit hname =>
    have hat : IsAt ctx root hit.uri (Sarif.row .qlty ctx root hit) := Sarif.isAt_row .qlty hit
    exact ⟨_, ⟨by simp [hat.file], by simp [hat.root]⟩, fun _ => hname.uri_eq⟩
  | @clone _ _ _ _ side _ _ _ _ hname hside =>
    refine ⟨side.reportedFile, ⟨by simp [Jscpd.sideRow], by simp [Jscpd.sideRow]⟩, fun _ => ?_⟩
    exact Option.some.inj ((Jscpd.name_of_ofInstance? hside).symm.trans hname)
  | @source _ source =>
    exact ⟨source.1, ⟨by simp [Jscpd.fileRow], by simp [Jscpd.fileRow]⟩, fun _ => rfl⟩

/-! ### All rows have names -/

theorem Sarif.exists_hitNamed {report : Json} {hit : Sarif.Hit} (h : hit ∈ Sarif.hits report) :
    ∃ name, Sarif.HitNamed report name hit := by
  obtain ⟨run, hrun, h⟩ := List.mem_flatMap.mp h
  obtain ⟨result, hresult, h⟩ := List.mem_flatMap.mp h
  obtain ⟨location, hlocation, hhit⟩ := List.mem_filterMap.mp h
  obtain ⟨uri, huri, -⟩ := Option.map_eq_some_iff.mp hhit
  exact ⟨uri, run, hrun, result, hresult, location, hlocation, _, _, huri, hhit⟩

theorem Radon.exists_rowFor (hf : f ∈ Radon.findings run ctx) :
    ∃ raws name, RowFor settings run ctx (ctx.root raws) .radon name f := by
  simp only [Radon.findings, List.mem_append, List.mem_filterMap] at hf
  rcases hf with ((⟨entry, hmem, hrow⟩ | ⟨entry, hmem, hrow⟩) | ⟨entry, hmem, hrow⟩) |
    ⟨entry, hmem, hrow⟩
  · exact ⟨_, _, .complexity hmem hrow⟩
  · exact ⟨_, _, .index hmem hrow⟩
  · exact ⟨_, _, .raw hmem hrow⟩
  · exact ⟨_, _, .halstead hmem hrow⟩

theorem Vulture.exists_rowFor (hf : f ∈ Vulture.findings settings.vulture run ctx) :
    ∃ raws name, RowFor settings run ctx (ctx.root raws) .vulture name f := by
  obtain ⟨e, he, rfl⟩ := List.mem_map.mp hf
  obtain ⟨line, hmem, hentry⟩ := List.mem_filterMap.mp (List.mem_of_mem_filter he)
  obtain ⟨name, digits, more, hname⟩ := Vulture.exists_marked hentry
  exact ⟨_, name, .vulture hmem hname hentry⟩

/-- A clone that is kept has a side at either of its places. -/
theorem Jscpd.exists_sides_of_clone? {listed : Json} {c : Jscpd.Clone}
    (h : Jscpd.clone? settings.jscpd ctx listed = some c) :
    ∃ here there a b, Jscpd.places listed = some (here, there) ∧
      Jscpd.Side.ofInstance? ctx here = some a ∧ Jscpd.Side.ofInstance? ctx there = some b ∧
      c = Jscpd.cloneOf settings.jscpd listed a b := by
  rw [Jscpd.clone?_eq] at h
  obtain ⟨sides, hsides, rfl⟩ := Option.map_eq_some_iff.mp h
  obtain ⟨⟨here, there⟩, hplaces, hsides⟩ :=
    Option.bind_eq_some_iff.mp (Option.filter_eq_some_iff.mp hsides).1
  obtain ⟨a, ha, hsides⟩ := Option.bind_eq_some_iff.mp hsides
  obtain ⟨b, hb, rfl⟩ := Option.map_eq_some_iff.mp hsides
  exact ⟨here, there, a, b, hplaces, ha, hb, rfl⟩

/-- The rows of a clone are on its sides. -/
theorem Jscpd.eq_sideRow_of_mem {listed : Json} {a b : Jscpd.Side}
    (hf : f ∈ Jscpd.cloneRows settings.jscpd ctx root (Jscpd.cloneOf settings.jscpd listed a b)) :
    f = Jscpd.sideRow ctx root (Jscpd.cloneOf settings.jscpd listed a b) a b ∨
      f = Jscpd.sideRow ctx root (Jscpd.cloneOf settings.jscpd listed a b) b a := by
  have hrows : f = Jscpd.sideRow ctx root (Jscpd.cloneOf settings.jscpd listed a b)
        (a.sorted b).1 (a.sorted b).2 ∨
      f = Jscpd.sideRow ctx root (Jscpd.cloneOf settings.jscpd listed a b)
        (a.sorted b).2 (a.sorted b).1 := Jscpd.eq_sideRow_of_mem_cloneRows hf
  rcases Jscpd.Side.sorted_eq_or a b with hsorted | hsorted
  · rwa [hsorted] at hrows
  · rw [hsorted] at hrows
    exact hrows.symm

theorem Jscpd.exists_rowFor (hf : f ∈ Jscpd.findings settings.jscpd run ctx) :
    ∃ raws name, RowFor settings run ctx (ctx.root raws) .jscpd name f := by
  rcases List.mem_append.mp hf with hf | hf
  · obtain ⟨listed, hmem, c, hclone, hf⟩ := Jscpd.exists_clone?_of_mem_issueRows hf
    obtain ⟨here, there, a, b, hplaces, ha, hb, rfl⟩ := Jscpd.exists_sides_of_clone? hclone
    rcases Jscpd.eq_sideRow_of_mem hf with rfl | rfl
    · exact ⟨_, _, .clone hmem (.inl hplaces) (Jscpd.name_of_ofInstance? ha) ha⟩
    · exact ⟨_, _, .clone hmem (.inr hplaces) (Jscpd.name_of_ofInstance? hb) hb⟩
  · obtain ⟨format, hformat, hf⟩ := List.mem_flatMap.mp hf
    obtain ⟨source, hsource, rfl⟩ := List.mem_map.mp hf
    exact ⟨_, _, .source hformat hsource⟩

/-- **Every row of a report is for a file that the report names**, but the row of ESLint for a
whole scan. -/
theorem exists_rowFor {rows : List Finding}
    (hread : (analyzerOf settings t).read run ctx = .ok rows) (hf : f ∈ rows) :
    (∃ raws name, RowFor settings run ctx (ctx.root raws) t name f) ∨
      t = .eslint ∧ ∃ raws entries, f = Eslint.scanRow ctx (ctx.root raws) entries := by
  cases t <;> cases hread
  case bandit =>
    obtain ⟨result, hmem, hrow⟩ := List.mem_filterMap.mp hf
    obtain ⟨name, hname, -⟩ := Option.map_eq_some_iff.mp hrow
    exact .inl ⟨_, name, .bandit hmem hname hrow⟩
  case mypy =>
    obtain ⟨entry, hmem, hrow⟩ := List.mem_filterMap.mp hf
    obtain ⟨name, hname, -⟩ := Option.map_eq_some_iff.mp hrow
    exact .inl ⟨_, name, .mypy hmem hname hrow⟩
  case radon => exact .inl (Radon.exists_rowFor hf)
  case vulture => exact .inl (Vulture.exists_rowFor hf)
  case semgrep =>
    obtain ⟨result, hmem, hrow⟩ := List.mem_filterMap.mp hf
    obtain ⟨name, hname, -⟩ := Option.map_eq_some_iff.mp hrow
    exact .inl ⟨_, name, .semgrep hmem hname hrow⟩
  case eslint =>
    -- the scan is the one row that is for no file
    rcases List.mem_append.mp hf with hf | hf
    · obtain ⟨e, he, hrow⟩ := List.mem_flatMap.mp hf
      obtain ⟨entry, hmem, hentry⟩ := List.mem_filterMap.mp he
      obtain ⟨name, hname, rfl⟩ := Option.map_eq_some_iff.mp hentry
      exact .inl ⟨_, name, .eslint hmem (Option.filter_eq_some_iff.mp hname).1 hrow⟩
    · exact .inr ⟨rfl, _, _, List.mem_singleton.mp hf⟩
  case gitleaks =>
    obtain ⟨leak, hmem, hrow⟩ := List.mem_filterMap.mp hf
    obtain ⟨name, hname, -⟩ := Option.map_eq_some_iff.mp hrow
    exact .inl ⟨_, name, .gitleaks hmem hname hrow⟩
  case biome =>
    obtain ⟨diagnostic, hmem, hrow⟩ := List.mem_filterMap.mp hf
    obtain ⟨name, hname, -⟩ := Option.map_eq_some_iff.mp hrow
    exact .inl ⟨_, name, .biome hmem hname hrow⟩
  case snyk =>
    obtain ⟨hit, hhit, rfl⟩ := List.mem_map.mp hf
    obtain ⟨name, hname⟩ := Sarif.exists_hitNamed hhit
    exact .inl ⟨_, name, .snyk hname⟩
  case bearer =>
    obtain ⟨entry, hmem, hrow⟩ := List.mem_filterMap.mp hf
    obtain ⟨name, hname, -⟩ := Option.map_eq_some_iff.mp hrow
    exact .inl ⟨_, name, .bearer hmem hname hrow⟩
  case qlty =>
    obtain ⟨hit, hhit, rfl⟩ := List.mem_map.mp hf
    obtain ⟨name, hname⟩ := Sarif.exists_hitNamed hhit
    exact .inl ⟨_, name, .qlty hname⟩
  case jscpd => exact .inl (Jscpd.exists_rowFor hf)

end Rows

/-! ## Rows for a file -/

/-- The names by which a tool can mean a file below its working directory: the spellings of the
file, in lines of text only those that a line shows as they are, and in the common format of
results also with the scheme of local files. -/
inductive Names (dir file : String) : Tool → String → Prop
  | spelled {t : Tool} {name : String} (ht : t ≠ .vulture) (h : Path.Spelling dir file name) :
      Names dir file t name
  | shown {name : String} (h : Path.Spelling dir file name) (hplain : Vulture.IsPlain name) :
      Names dir file .vulture name
  | uri {t : Tool} {name : String} (ht : t = .snyk ∨ t = .qlty)
      (h : Path.Spelling dir file name) : Names dir file t ("file://" ++ name)

section Files

variable {settings settings' : ToolSettings} {run run' : RunRecord} {ctx ctx' : PathContext}
  {anchor file : String} {t t' : Tool} {f f' : Finding}

/-- What the reader takes for the name of a file is a spelling of it. -/
theorem Names.spelling {dir name : String} (hdir : Path.isAbsolute dir = true)
    (hfile : Path.FileBelow dir file) (h : Names dir file t name) :
    Path.Spelling dir file (bareName t name) ∧ (t = .vulture → Vulture.IsPlain name) := by
  cases h with
  | spelled ht h =>
    refine ⟨?_, fun heq => absurd heq ht⟩
    unfold bareName
    split
    · rwa [Sarif.withoutScheme_of_spelling hdir hfile h]
    · rwa [Sarif.withoutScheme_of_spelling hdir hfile h]
    · exact h
  | shown h hplain => exact ⟨h, fun _ => hplain⟩
  | uri ht h =>
    rcases ht with rfl | rfl
    · exact ⟨by rwa [bareName, Sarif.withoutScheme_append], nofun⟩
    · exact ⟨by rwa [bareName, Sarif.withoutScheme_append], nofun⟩

/-- A row that the report of a tool brings for a file: it is among the rows that are read, and it
is for a name by which the tool can mean the file. -/
structure Brings (settings : ToolSettings) (run : RunRecord) (ctx : PathContext) (t : Tool)
    (file : String) (f : Finding) : Prop where
  read : ∃ rows, (analyzerOf settings t).read run ctx = .ok rows ∧ f ∈ rows
  named : ∃ root name, RowFor settings run ctx root t name f ∧ Names run.cwd file t name

/-- **The rows of a report have the anchor for their root.** -/
theorem root_of_mem_read (hanchor : ctx.anchor? = some anchor) {rows : List Finding}
    (hread : (analyzerOf settings t).read run ctx = .ok rows) (hf : f ∈ rows) :
    f.root = anchor := by
  have hroot : ∀ raws, ctx.root raws = anchor := by
    intro raws
    rw [PathContext.root, hanchor]
  rcases exists_rowFor hread hf with ⟨raws, name, hrow⟩ | ⟨-, raws, entries, rfl⟩
  · obtain ⟨taken, hat, -⟩ := hrow.exists_isAt
    rw [hat.root, hroot]
  · simp [Eslint.scanRow, Eslint.withCounts, hroot]

theorem PathContext.cwd?_ofRun (hdir : Path.isAbsolute run.cwd = true) (anchor? : Option String)
    (complexity? : Option Json) :
    (PathContext.ofRun run anchor? complexity?).cwd? = some run.cwd := by
  refine if_neg fun hempty => ?_
  rw [hempty] at hdir
  cases hdir

/-- A row for a file below the working directory has the stored path of the file. -/
theorem Brings.file_eq (h : Brings settings run ctx t file f) (hcwd : ctx.cwd? = some run.cwd)
    (hdir : Path.isAbsolute run.cwd = true) (hfile : Path.FileBelow run.cwd file) :
    f.file = ctx.filePath file := by
  obtain ⟨root, name, hrow, hname⟩ := h.named
  obtain ⟨hspelling, hplain⟩ := hname.spelling hdir hfile
  obtain ⟨taken, hat, htaken⟩ := hrow.exists_isAt
  rw [hat.file, htaken hplain, hspelling.filePath hcwd hdir hfile]

theorem Brings.root_eq (h : Brings settings run ctx t file f)
    (hanchor : ctx.anchor? = some anchor) : f.root = anchor := by
  obtain ⟨rows, hread, hmem⟩ := h.read
  exact root_of_mem_read hanchor hread hmem

/-- **The rows that any two tools bring for one file agree on its path and on the root**: on the
stored path of the file and on the anchor, whatever the tools are and however they spell the
file. -/
theorem Brings.file_and_root {complexity? complexity'? : Option Json}
    (hdir : Path.isAbsolute run.cwd = true) (hcwd : run'.cwd = run.cwd)
    (hfile : Path.FileBelow run.cwd file)
    (h : Brings settings run (.ofRun run (some anchor) complexity?) t file f)
    (h' : Brings settings' run' (.ofRun run' (some anchor) complexity'?) t' file f') :
    f.file = (PathContext.ofRun run (some anchor) complexity?).filePath file ∧ f.root = anchor ∧
      f'.file = f.file ∧ f'.root = f.root := by
  have hroot := h.root_eq rfl
  have heq := h.file_eq (PathContext.cwd?_ofRun hdir _ _) hdir hfile
  rw [← hcwd] at hdir hfile
  have heq' := h'.file_eq (PathContext.cwd?_ofRun hdir _ _) hdir hfile
  -- the stored path depends on the working directory and the anchor only
  have hsame : (PathContext.ofRun run' (some anchor) complexity'?).filePath file =
      (PathContext.ofRun run (some anchor) complexity?).filePath file := by
    rw [PathContext.filePath, PathContext.filePath, PathContext.ofRun, PathContext.ofRun, hcwd]
  exact ⟨heq, hroot, by rw [heq', hsame, heq], (h'.root_eq rfl).trans hroot.symm⟩

/-- Vulture names a file by a detour below the working directory. -/
def deadCode : RunRecord where
  tool := "vulture"
  cmd := ["vulture", "--min-confidence", "50", "."]
  cwd := "/w/p"
  exitCode := 3
  duration := 0.5
  stdout := "tools/../src/a.py:12: unused function 'f' (60% confidence)\n"
  stderr := ""
  payload? := none

/-- Qlty names the same file in full, with the scheme of local files. -/
def lint : RunRecord where
  tool := "qlty"
  cmd := ["qlty", "check", "."]
  cwd := "/w/p"
  exitCode := 1
  duration := 0.5
  stdout := ""
  stderr := ""
  payload? :=
    let uri : Json := .obj [("uri", .str "file:///w/p/./src/a.py")]
    let place : Json := .obj [("physicalLocation", .obj [("artifactLocation", uri)])]
    let result : Json := .obj [("locations", .arr [place]), ("ruleId", .str "E501")]
    some (.obj [("runs", .arr [.obj [("results", .arr [result])]])])

/-- The row of either tool is stored under the one path of the file. -/
theorem file_and_root_of_detours :
    let ctx := PathContext.ofRun deadCode (some "/w/p") none
    let ctx' := PathContext.ofRun lint (some "/w/p") none
    ∃ f f', Brings {} deadCode ctx .vulture "/w/p/src/a.py" f ∧
      Brings {} lint ctx' .qlty "/w/p/src/a.py" f' ∧
      ctx.filePath "/w/p/src/a.py" = "p/src/a.py" ∧
      f.file = "p/src/a.py" ∧ f.root = "/w/p" ∧ f'.file = "p/src/a.py" ∧ f'.root = "/w/p" := by
  intro ctx ctx'
  have hfile : Path.FileBelow "/w/p" "/w/p/src/a.py" :=
    ⟨by decide, by decide, by decide, .name "src", [.name "a.py"], by decide⟩
  have hisName : Path.IsName "tools" := ⟨by decide, by decide, by decide, by decide⟩
  have hrelative : Path.Spelling "/w/p" "/w/p/src/a.py" "tools/../src/a.py" :=
    @Path.Spelling.relative _ _ ["src", "a.py"] ["tools", "..", "src", "a.py"] (by decide)
      (@Path.Spells.detour _ [] _ _ hisName .names)
  have habsolute : Path.Spelling "/w/p" "/w/p/src/a.py" "/w/p/./src/a.py" :=
    @Path.Spelling.absolute _ _ ["w", "p", "src", "a.py"] ["w", "p", ".", "src", "a.py"]
      (by decide) (@Path.Spells.here _ ["w", "p"] _ .names)
  have hline : Vulture.Marked "tools/../src/a.py:12: unused function 'f' (60% confidence)"
      "tools/../src/a.py" ['1', '2'] " unused function 'f' (60% confidence)".toList :=
    ⟨by decide, by decide, List.all_eq_true.mp (by decide)⟩
  have hplain : Vulture.IsPlain "tools/../src/a.py" := by
    refine ⟨by decide, by decide, ?_⟩
    rintro c ⟨⟩
    decide
  obtain ⟨e, he, hcertain⟩ : ∃ e, Vulture.entryOfLine?
      "tools/../src/a.py:12: unused function 'f' (60% confidence)" = some e ∧
        Vulture.isCertain {} e = true := ⟨_, rfl, by decide⟩
  have hmem : "tools/../src/a.py:12: unused function 'f' (60% confidence)" ∈
      Text.lines deadCode.stdout := by decide
  have hvulture : Brings {} deadCode ctx .vulture "/w/p/src/a.py" (Vulture.row ctx "/w/p" e) := by
    have hentry := List.mem_filterMap.mpr ⟨_, hmem, he⟩
    refine ⟨⟨_, rfl, ?_⟩, "/w/p", _, .vulture hmem hline he, .shown hrelative hplain⟩
    exact List.mem_map.mpr ⟨e, List.mem_filter.mpr ⟨hentry, hcertain⟩, rfl⟩
  obtain ⟨hit, hnamed, hhit⟩ : ∃ hit, Sarif.HitNamed lint.document "file:///w/p/./src/a.py" hit ∧
      hit ∈ Sarif.hits lint.document :=
    ⟨_, ⟨_, List.mem_cons_self, _, List.mem_cons_self, _, List.mem_cons_self, none, [], rfl, rfl⟩,
      List.mem_cons_self⟩
  have hqlty : Brings {} lint ctx' .qlty "/w/p/src/a.py"
      ((Sarif.row .qlty ctx' "/w/p" hit).text "tool_name" hit.driver?) := by
    refine ⟨⟨_, rfl, List.mem_map.mpr ⟨hit, hhit, rfl⟩⟩, "/w/p", _, .qlty hnamed, ?_⟩
    exact .uri (.inr rfl) habsolute
  have hstored : ctx.filePath "/w/p/src/a.py" = "p/src/a.py" := by decide
  have hcwd : lint.cwd = deadCode.cwd := rfl
  obtain ⟨hpath, hroot, hpath', hroot'⟩ :=
    Brings.file_and_root (by decide) hcwd hfile hvulture hqlty
  rw [hpath, hstored] at hpath'
  exact ⟨_, _, hvulture, hqlty, hstored, hpath.trans hstored, hroot, hpath', hroot'.trans hroot⟩

end Files

end LintLedger
