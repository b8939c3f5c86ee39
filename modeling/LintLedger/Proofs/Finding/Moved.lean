import LintLedger.Proofs.Finding.Columns
import LintLedger.Proofs.Path.Stored
import LintLedger.Proofs.Store.Persist

/-!
# Findings in two files

Findings in two files are told apart as far as the stored paths of the files are: exactly where the
files differ behind their right-most segments with the name of the audited folder.

## Main Definitions

* `Finding.inFile` -- the same finding in another file

## Main Statements

* `Finding.pk_ne_of_filePath_ne` -- the identities of findings in two files
* `Finding.told_apart_by_files` -- which findings in two files are stored beside each other
* `Finding.one_of_two_files_stored` -- two files with one stored path
-/

namespace LintLedger.Finding

open LintLedger.Path

/-! ## The same finding in another file -/

/-- The same finding in another file. -/
def inFile (f : Finding) (file : String) : Finding := { f with file := file }

variable {f : Finding}

/-- The path is told from the digested text of a finding in one of two files. -/
theorem identityRelative_eq_of_identityText_eq {file file' : String}
    (h : (f.inFile file).identityText = (f.inFile file').identityText) :
    identityRelative file (toSlashes f.root) = identityRelative file' (toSlashes f.root) := by
  have hregion : (f.inFile file).region = (f.inFile file').region := rfl
  have hpath : (f.inFile file).identityPath = (f.inFile file').identityPath :=
    identityPath_eq_of_identityText_eq rfl rfl
      (fun _ => fieldText?_eq_of_region_eq hregion fun _ _ => rfl) h
  exact hpath

variable {dir a b : String} {ctx : PathContext}

/-- **Two findings in two files are told apart as their stored paths are.** -/
theorem pk_ne_of_filePath_ne (hdir : Path.isAbsolute dir = true) (hanchor : ctx.anchor? = some dir)
    (ha : FileBelow dir a) (hb : FileBelow dir b) (hpk : f.pk? = none)
    (hdigest : TellsApart (f.inFile (ctx.filePath a)) (f.inFile (ctx.filePath b)))
    (hne : ctx.filePath a ≠ ctx.filePath b) :
    (f.inFile (ctx.filePath a)).pk ≠ (f.inFile (ctx.filePath b)).pk := by
  have hcontent : ∀ file, (f.inFile file).pk = (f.inFile file).contentKey := fun file => by
    rw [pk, inFile, hpk, Option.getD_none]
  rw [hcontent, hcontent]
  exact fun heq => hne (identityRelative_filePath_injective hdir hanchor ha hb
    (identityRelative_eq_of_identityText_eq (hdigest heq)))

/-- **Which files below a project are told apart.**  Two files below a directory that is the anchor
have one stored path exactly if they agree behind their right-most segments below it that bear its
folder's name; they never have if no segment below it does.  Where they do not agree, the findings
that differ in nothing but which of the files was reported have different identities, as far as the
digest tells their texts apart, and a scan leaves a row for each. -/
theorem told_apart_by_files (hdir : Path.isAbsolute dir = true) (hanchor : ctx.anchor? = some dir)
    (ha : FileBelow dir a) (hb : FileBelow dir b) :
    (ctx.filePath a = ctx.filePath b ↔ ownPart dir a = ownPart dir b) ∧
    (a ≠ b → folder dir ∉ below dir a → folder dir ∉ below dir b →
      ownPart dir a ≠ ownPart dir b) ∧
    ∀ f : Finding, f.pk? = none → ownPart dir a ≠ ownPart dir b →
      TellsApart (f.inFile (ctx.filePath a)) (f.inFile (ctx.filePath b)) →
      (f.inFile (ctx.filePath a)).pk ≠ (f.inFile (ctx.filePath b)).pk ∧
      ∀ (s : Store) (mode : InsertMode) (info : ScanInfo) (findings : List Finding),
        s.Writable findings → f.inFile (ctx.filePath a) ∈ findings →
        f.inFile (ctx.filePath b) ∈ findings →
        ∃ r ∈ (s.persist mode info findings).1.rows, ∃ r' ∈ (s.persist mode info findings).1.rows,
          r.key = (f.inFile (ctx.filePath a)).key ∧ r'.key = (f.inFile (ctx.filePath b)).key ∧
          r ≠ r' := by
  have hstored := filePath_eq_iff hdir hanchor ha hb
  refine ⟨hstored, fun hne hfree hfree' hown => hne ?_, fun f hpk hown hdigest => ?_⟩
  · rw [ownPart, ownPart, behindLast_of_notMem hfree, behindLast_of_notMem hfree'] at hown
    rw [← ha.normal, ← hb.normal, ha.normalForm_eq, hb.normalForm_eq, hown]
  · have hpks := pk_ne_of_filePath_ne hdir hanchor ha hb hpk hdigest (mt hstored.mp hown)
    refine ⟨hpks, fun s mode info findings hwritable hmem hmem' => ?_⟩
    obtain ⟨r, hr, hkey⟩ := Store.exists_row_of_mem hwritable mode info hmem
    obtain ⟨r', hr', hkey'⟩ := Store.exists_row_of_mem hwritable mode info hmem'
    refine ⟨r, hr, r', hr', hkey, hkey', fun heq => hpks ?_⟩
    have hkeys : (f.inFile (ctx.filePath a)).key = (f.inFile (ctx.filePath b)).key := by
      rw [← hkey, ← hkey', heq]
    exact (Prod.ext_iff.mp hkeys).2

/-- Two files in one folder are told apart, and an issue in either of them is stored. -/
theorem told_apart_by_files_of_siblings :
    let ctx : PathContext := ⟨some "/w/proj", some "/w/proj", none⟩
    let f := ((blank .bandit "" "/w/proj").lines (some 3) (some 3)).text "message" (some "unused")
    let fa := f.inFile (ctx.filePath "/w/proj/a.py")
    let fb := f.inFile (ctx.filePath "/w/proj/b.py")
    FileBelow "/w/proj" "/w/proj/a.py" ∧ FileBelow "/w/proj" "/w/proj/b.py" ∧
      TellsApart fa fb ∧ ctx.filePath "/w/proj/a.py" ≠ ctx.filePath "/w/proj/b.py" ∧
      fa.pk ≠ fb.pk ∧
      ∃ r ∈ (Store.empty.seed.persist .bulk ⟨"2026-01-01T00:00:00Z", some "bandit", none⟩
          [fa, fb]).1.rows,
        ∃ r' ∈ (Store.empty.seed.persist .bulk ⟨"2026-01-01T00:00:00Z", some "bandit", none⟩
          [fa, fb]).1.rows,
        r.key = fa.key ∧ r'.key = fb.key ∧ r ≠ r' := by
  intro ctx f fa fb
  have ha : FileBelow "/w/proj" "/w/proj/a.py" :=
    ⟨by decide, by decide, by decide, .name "a.py", [], by decide⟩
  have hb : FileBelow "/w/proj" "/w/proj/b.py" :=
    ⟨by decide, by decide, by decide, .name "b.py", [], by decide⟩
  have hdigest : TellsApart fa fb := tellsApart_of_hexNat_ne (by decide +kernel)
  have hanchor : ctx.anchor? = some "/w/proj" := rfl
  obtain ⟨hstored, hfree, hboth⟩ := told_apart_by_files (by decide) hanchor ha hb
  have hown : ownPart "/w/proj" "/w/proj/a.py" ≠ ownPart "/w/proj" "/w/proj/b.py" :=
    hfree (by decide) (by decide) (by decide)
  obtain ⟨hpks, hrows⟩ := hboth f rfl hown hdigest
  exact ⟨ha, hb, hdigest, mt hstored.mp hown, hpks,
    hrows Store.empty.seed .bulk _ [fa, fb] ⟨rfl, by decide⟩ List.mem_cons_self
      (List.mem_cons_of_mem _ List.mem_cons_self)⟩

/-- **One of two files is lost.**  A file in a folder inside the project that has the project's own
name is stored like the file of the same name in the project itself, and so is an issue in it. -/
theorem one_of_two_files_stored :
    let ctx : PathContext := ⟨some "/w/proj", some "/w/proj", none⟩
    let f := ((blank .bandit "" "/w/proj").lines (some 3) (some 3)).text "message" (some "unused")
    let inner := f.inFile (ctx.filePath "/w/proj/proj/a.py")
    let outer := f.inFile (ctx.filePath "/w/proj/a.py")
    FileBelow "/w/proj" "/w/proj/proj/a.py" ∧ FileBelow "/w/proj" "/w/proj/a.py" ∧
      ctx.filePath "/w/proj/proj/a.py" = "proj/a.py" ∧ ctx.filePath "/w/proj/a.py" = "proj/a.py" ∧
      inner.pk = outer.pk ∧
      (Store.empty.seed.persist .bulk ⟨"2026-01-01T00:00:00Z", some "bandit", none⟩
        [inner, outer]).2 = .ok (1, 1) := by
  intro ctx f inner outer
  have hinner : ctx.filePath "/w/proj/proj/a.py" = "proj/a.py" := by decide
  have houter : ctx.filePath "/w/proj/a.py" = "proj/a.py" := by decide
  have hsame : inner = outer := by rw [show inner = f.inFile _ from rfl, hinner, ← houter]
  have hwritable : Store.empty.seed.Writable [inner, outer] := ⟨rfl, by decide⟩
  have hbelow : FileBelow "/w/proj" "/w/proj/proj/a.py" :=
    ⟨by decide, by decide, by decide, .name "proj", [.name "a.py"], by decide⟩
  have hbelow' : FileBelow "/w/proj" "/w/proj/a.py" :=
    ⟨by decide, by decide, by decide, .name "a.py", [], by decide⟩
  refine ⟨hbelow, hbelow', hinner, houter, congrArg pk hsame, ?_⟩
  rw [Store.persist_pair hwritable _ _ List.not_mem_nil List.not_mem_nil,
    if_pos (congrArg key hsame)]
  rfl

end LintLedger.Finding
