import LintLedger.Proofs.FileTree.Changed
import LintLedger.Proofs.Store.Extract
import LintLedger.Proofs.Store.Folders
import LintLedger.Store.Export

/-!
# What an export leaves on disk

An export writes one document for each stored root, and each to a path that is made of the folder
of the root.  The paths are pairwise distinct as the folders are.  Then, if there are no links
where the documents are written, no document is written over another one, so that all of them are
there in the end.

Whatever an export comes to, it writes nothing else: it makes folders with names below the output
directory and writes one file in each.

## Main Definitions

* `Export.path` -- the file of a folder below the output directory
* `Export.NoLinks` -- there were no links below a directory
* `Export.IsFolder`, `Export.IsFile` -- where an export may write

## Main Statements

* `Store.content_of_exportRoot_of_ne` -- an export leaves the documents in other folders as they are
* `Store.exportTo_all` -- what there is after an export of everything
* `Store.changed_exportTo` -- what an export may change
* `TwoFolders.exportTo_overwrites` -- two roots that are exported to one path
-/

namespace LintLedger

namespace Export

/-! ## The paths of an export -/

/-- The file of a folder below the output directory. -/
def path (outDir folder : String) : String := Path.join (Path.join outDir folder) exportFile

theorem isName_exportFile : Path.IsName exportFile := by decide

/-- The folder of a root is a name. -/
theorem isName_exportFolder (root : String) : Path.IsName (Path.exportFolder root) := by
  unfold Path.exportFolder
  cases hlast : Path.fileName? (Path.trimSeparators root) with
  | none => decide
  | some name =>
    obtain ⟨c, hc, hname⟩ := Option.bind_eq_some_iff.mp hlast
    have hmem := List.mem_of_getLast? hc
    cases c with
    | name s =>
      cases hname
      exact (Path.name_of_mem_components hmem).2
    | _ => cases hname

/-- A name with a number is a name. -/
theorem isName_numbered {folder : String} (h : Path.IsName folder) (n : Nat) :
    Path.IsName (numbered folder n) := by
  by_cases hn : n = 1
  · rw [hn, numbered_one]
    exact h
  · have hchars : (numbered folder n).toList = folder.toList ++ '-' :: Nat.toDigits 10 n := by
      rw [numbered_of_ne hn]
      simp [String.toList_append]
    have hhyphen : '-' ∈ (numbered folder n).toList := by rw [hchars]; simp
    have hne {other : String} (hother : '-' ∉ other.toList) : numbered folder n ≠ other := by
      rintro rfl
      exact hother hhyphen
    refine ⟨hne (by decide), hne (by decide), hne (by decide), ?_⟩
    rw [hchars, List.mem_append, List.mem_cons, not_or, not_or]
    exact ⟨h.notMem, by decide, Digits.notMem_toDigits rfl n⟩

theorem isName_of_mem_exportFolders {roots : List String} {folder : String}
    (h : folder ∈ exportFolders roots) : Path.IsName folder := by
  rw [exportFolders, exportFoldersAfter_eq] at h
  obtain ⟨⟨name, n⟩, hmem, rfl⟩ := List.mem_map.mp h
  obtain ⟨hone, hcount⟩ := mem_uses.mp hmem
  obtain ⟨root, -, rfl⟩ := List.mem_map.mp (List.count_pos_iff.mp (Nat.lt_of_lt_of_le hone hcount))
  dsimp only
  exact isName_numbered (isName_exportFolder root) n

/-- Two folders have one path only if they are the same. -/
theorem eq_of_path_eq {outDir folder folder' : String} (h : Path.IsName folder)
    (h' : Path.IsName folder') (hpath : path outDir folder = path outDir folder') :
    folder = folder' := by
  have hnames {name : String} (hname : Path.IsName name) :
      FileTree.names (path outDir name) = FileTree.names outDir ++ [name] ++ [exportFile] := by
    rw [path, FileTree.names_join, FileTree.names_join, FileTree.isAbsolute_of_isName hname,
      FileTree.isAbsolute_of_isName isName_exportFile, FileTree.names_of_isName hname,
      FileTree.names_of_isName isName_exportFile]
    rfl
  have hsame := congrArg FileTree.names hpath
  rw [hnames h, hnames h'] at hsame
  simpa using hsame

/-- There were no links below a directory, wherever it is in the end. -/
def NoLinks (dir : String) (t t' : FileTree) : Prop :=
  ∀ place, t'.locate dir = .ok place → t'.isDirAt place = true → t.PlainBelow place

variable {dir : String} {t t' t'' : FileTree}

theorem NoLinks.before (h : NoLinks dir t t'') (hcarries : Node.Carries Node.Alike t' t'') :
    NoLinks dir t t' := by
  intro place hlocate hdir
  refine h place (FileTree.locate_of_carries hcarries hlocate (.inl ?_))
    (FileTree.isDirAt_of_carries hcarries hdir)
  obtain ⟨entries, hentries⟩ := FileTree.isDirAt_iff.mp hdir
  rw [hentries]
  rfl

theorem NoLinks.after (h : NoLinks dir t t'') (hlinked : Node.Linked t' t) : NoLinks dir t' t'' :=
  fun place hlocate hdir below target hlink =>
    h place hlocate hdir below target (hlinked _ _ hlink)

end Export

namespace Store

variable {s : Store} {cwd outDir root folder : String} {t t' : FileTree} {e : Exported}
  {pairs : List (String × String)} {written : List Exported}

/-! ## One root -/

/-- What the export of one root does, if it succeeds. -/
theorem exportRoot_eq_ok (h : s.exportRoot cwd outDir root folder t = (t', .ok e)) :
    s.extract (some root) none = .ok e.document ∧ e.path = Export.path outDir folder ∧
      ∃ made, t.makeDirs (Path.join cwd (Path.join outDir folder)) = .ok made ∧
        made.putContent (Path.join cwd e.path)
          (.data (Text.encode e.document.toJson.renderIndented)) = .ok t' := by
  unfold exportRoot at h
  split at h
  · cases h
  · rename_i document hextract
    dsimp only at h
    split at h
    · cases h
    · rename_i made hmade
      split at h
      · cases h
      · rename_i tree hwritten
        cases h
        exact ⟨hextract, rfl, made, hmade, hwritten⟩

/-- An export of one root carries everything. -/
theorem carries_of_exportRoot (h : s.exportRoot cwd outDir root folder t = (t', .ok e)) :
    Node.Carries Node.Alike t t' := by
  obtain ⟨-, -, made, hmade, hput⟩ := exportRoot_eq_ok h
  exact (FileTree.carries_of_makeDirs hmade).trans .trans (FileTree.carries_of_putContent hput)

theorem linked_of_exportRoot (h : s.exportRoot cwd outDir root folder t = (t', .ok e)) :
    Node.Linked t' t := by
  obtain ⟨-, -, made, hmade, hput⟩ := exportRoot_eq_ok h
  exact (FileTree.linked_of_putContent hput).trans (FileTree.linked_of_makeDirsFrom hmade)

/-- The document of a root is in its file after the export. -/
theorem content_of_exportRoot (h : s.exportRoot cwd outDir root folder t = (t', .ok e)) :
    t'.content (Path.join cwd e.path) =
      .ok (.data (Text.encode e.document.toJson.renderIndented)) := by
  obtain ⟨-, -, made, -, hput⟩ := exportRoot_eq_ok h
  exact FileTree.content_of_putContent hput

/-- **The export of one root leaves the documents in other folders as they are**, if there are no
links below the output directory. -/
theorem content_of_exportRoot_of_ne (h : s.exportRoot cwd outDir root folder t = (t', .ok e))
    (hcwd : Path.isAbsolute cwd = true) (hlinks : Export.NoLinks (Path.join cwd outDir) t t')
    (hfolder : Path.IsName folder) {other : String} (hother : Path.IsName other)
    (hne : other ≠ folder) {content : FileContent}
    (hcontent : t.content (Path.join cwd (Export.path outDir other)) = .ok content) :
    t'.content (Path.join cwd (Export.path outDir other)) = .ok content := by
  obtain ⟨-, hpath, made, hmade, hput⟩ := exportRoot_eq_ok h
  have hkept := FileTree.content_of_makeDirs hmade hcontent
  have hlinks' : Export.NoLinks (Path.join cwd outDir) made made :=
    (hlinks.before (FileTree.carries_of_putContent hput)).after
      (FileTree.linked_of_makeDirsFrom hmade)
  have hdir : Path.join cwd outDir ≠ "" := FileTree.join_ne_empty_of_isAbsolute hcwd outDir
  -- both files are where their names lead to from the output directory
  have hwhere {name : String} (hname : Path.IsName name) {place : List String}
      (hlocate : made.locate (Path.join cwd (Export.path outDir name)) = .ok place) :
      ∃ dir, made.locate (Path.join cwd outDir) = .ok dir ∧ place = dir ++ [name, exportFile] := by
    rw [Export.path, FileTree.join_join _ _ Export.isName_exportFile,
      FileTree.join_join _ _ hname] at hlocate
    obtain ⟨dir, hdirAt, hisDir, hspelled⟩ :=
      FileTree.locate_join hdir hname Export.isName_exportFile hlocate
    exact ⟨dir, hdirAt, hspelled (hlinks' dir hdirAt hisDir)⟩
  refine FileTree.content_of_putContent_of_ne hput hkept fun hsame => hne ?_
  obtain ⟨place, executable, hlocate, -⟩ := FileTree.content_eq_ok_iff.mp hkept
  obtain ⟨dir, hdirAt, rfl⟩ := hwhere hother hlocate
  rw [hlocate, hpath] at hsame
  obtain ⟨dir', hdirAt', hplace⟩ := hwhere hfolder hsame.symm
  obtain rfl : dir = dir' := Except.ok.inj (hdirAt.symm.trans hdirAt')
  simpa using hplace

/-! ## All roots -/

/-- The export of some roots is the export of the first and then of the others. -/
theorem exportEach_cons_eq_ok
    (h : s.exportEach cwd outDir ((root, folder) :: pairs) t = (t', .ok written)) :
    ∃ first others t₁, written = first :: others ∧
      s.exportRoot cwd outDir root folder t = (t₁, .ok first) ∧
      s.exportEach cwd outDir pairs t₁ = (t', .ok others) := by
  unfold exportEach at h
  split at h
  · cases h
  · rename_i t₁ first hfirst
    split at h
    · cases h
    · rename_i t₂ others hothers
      cases h
      exact ⟨first, others, t₁, rfl, hfirst, hothers⟩

/-- What the export of some roots has written: one document for each, in their order. -/
theorem written_of_exportEach (h : s.exportEach cwd outDir pairs t = (t', .ok written)) :
    List.Forall₂ (fun pair e => s.extract (some pair.1) none = .ok e.document ∧
      e.path = Export.path outDir pair.2) pairs written := by
  induction pairs generalizing t written with
  | nil =>
    cases h
    exact .nil
  | cons pair rest ih =>
    obtain ⟨first, others, t₁, rfl, hfirst, hothers⟩ := exportEach_cons_eq_ok h
    obtain ⟨hextract, hpath, -⟩ := exportRoot_eq_ok hfirst
    exact .cons ⟨hextract, hpath⟩ (ih hothers)

theorem carries_of_exportEach (h : s.exportEach cwd outDir pairs t = (t', .ok written)) :
    Node.Carries Node.Alike t t' := by
  induction pairs generalizing t written with
  | nil =>
    cases h
    exact fun place n hn => ⟨n, hn, .refl n⟩
  | cons pair rest ih =>
    obtain ⟨first, others, t₁, rfl, hfirst, hothers⟩ := exportEach_cons_eq_ok h
    exact (carries_of_exportRoot hfirst).trans .trans (ih hothers)

/-- The export of some roots leaves the documents in other folders as they are. -/
theorem content_of_exportEach_of_notMem
    (h : s.exportEach cwd outDir pairs t = (t', .ok written))
    (hcwd : Path.isAbsolute cwd = true) (hlinks : Export.NoLinks (Path.join cwd outDir) t t')
    (hnames : ∀ name ∈ pairs.map Prod.snd, Path.IsName name) {other : String}
    (hother : Path.IsName other) (hnotMem : other ∉ pairs.map Prod.snd) {content : FileContent}
    (hcontent : t.content (Path.join cwd (Export.path outDir other)) = .ok content) :
    t'.content (Path.join cwd (Export.path outDir other)) = .ok content := by
  induction pairs generalizing t written with
  | nil =>
    cases h
    exact hcontent
  | cons pair rest ih =>
    obtain ⟨first, others, t₁, rfl, hfirst, hothers⟩ := exportEach_cons_eq_ok h
    rw [List.map_cons, List.mem_cons, not_or] at hnotMem
    have hkept := content_of_exportRoot_of_ne hfirst hcwd
      (hlinks.before (carries_of_exportEach hothers)) (hnames _ List.mem_cons_self) hother
      hnotMem.1 hcontent
    exact ih hothers (hlinks.after (linked_of_exportRoot hfirst))
      (fun name hname => hnames name (List.mem_cons_of_mem _ hname)) hnotMem.2 hkept

/-- **No document is written over another one** where the folders are pairwise distinct. -/
theorem content_of_exportEach (h : s.exportEach cwd outDir pairs t = (t', .ok written))
    (hcwd : Path.isAbsolute cwd = true) (hlinks : Export.NoLinks (Path.join cwd outDir) t t')
    (hnames : ∀ name ∈ pairs.map Prod.snd, Path.IsName name)
    (hnodup : (pairs.map Prod.snd).Nodup) :
    ∀ e ∈ written, t'.content (Path.join cwd e.path) =
      .ok (.data (Text.encode e.document.toJson.renderIndented)) := by
  induction pairs generalizing t written with
  | nil =>
    cases h
    simp
  | cons pair rest ih =>
    obtain ⟨first, others, t₁, rfl, hfirst, hothers⟩ := exportEach_cons_eq_ok h
    rw [List.map_cons, List.nodup_cons] at hnodup
    have hlater := hlinks.after (linked_of_exportRoot hfirst)
    have hnames' : ∀ name ∈ rest.map Prod.snd, Path.IsName name :=
      fun name hname => hnames name (List.mem_cons_of_mem _ hname)
    rw [List.forall_mem_cons]
    refine ⟨?_, ih hothers hlater hnames' hnodup.2⟩
    have hcontent := content_of_exportRoot hfirst
    rw [(exportRoot_eq_ok hfirst).2.1] at hcontent ⊢
    exact content_of_exportEach_of_notMem hothers hcwd hlater hnames'
      (hnames _ List.mem_cons_self) hnodup.1 hcontent

/-- **What there is after an export of everything.**  One document was written for each stored
root, in the order of the roots, and each has a path of its own unless a root has the name that
another one gets with its number.  Then all documents are on disk, if there were no links below the
output directory. -/
theorem exportTo_all (s : Store) {cwd outDir : String} {t t' : FileTree} {written : List Exported}
    (h : s.exportTo cwd outDir none t = (t', .ok written)) :
    ∃ roots, s.roots = .ok roots ∧ roots.Nodup ∧
      (∀ root, root ∈ roots ↔ ∃ r ∈ s.rows, r.root = root) ∧
      List.Forall₂ (fun root e => s.extract (some root) none = .ok e.document) roots written ∧
      ((written.map Exported.path).Nodup ↔ ¬Export.NumberTaken roots) ∧
      (¬Export.NumberTaken roots → Path.isAbsolute cwd = true →
        Export.NoLinks (Path.join cwd outDir) t t' →
        ∀ e ∈ written, t'.read (Path.join cwd e.path) =
          .ok (Text.encode e.document.toJson.renderIndented)) := by
  unfold exportTo at h
  split at h
  · cases h
  · rename_i roots hroots
    change s.exportEach cwd outDir (roots.zip (exportFolders roots)) t = (t', .ok written) at h
    have hlength : roots.length = (exportFolders roots).length :=
      (Export.length_exportFolders roots).symm
    have hfolders : (roots.zip (exportFolders roots)).map Prod.snd = exportFolders roots :=
      List.map_snd_zip hlength.ge
    have hfirsts : (roots.zip (exportFolders roots)).map Prod.fst = roots :=
      List.map_fst_zip hlength.le
    have hwritten := written_of_exportEach h
    -- the documents are written to the folders of the roots, one after the other
    have hpaths : written.map Exported.path =
        (exportFolders roots).map (Export.path outDir) := by
      rw [← hfolders, List.map_map, ← List.forall₂_eq_eq_eq, List.forall₂_map_left_iff,
        List.forall₂_map_right_iff]
      exact hwritten.flip.imp fun _ _ hpair => hpair.2
    have hdocuments : List.Forall₂ (fun root e => s.extract (some root) none = .ok e.document)
        roots written := by
      rw [← hfirsts, List.forall₂_map_left_iff]
      exact hwritten.imp fun _ _ hpair => hpair.1
    have hdistinct : (written.map Exported.path).Nodup ↔ (exportFolders roots).Nodup := by
      rw [hpaths]
      refine ⟨List.Nodup.of_map _, List.Nodup.map_on fun folder hmem folder' hmem' =>
        Export.eq_of_path_eq (Export.isName_of_mem_exportFolders hmem)
          (Export.isName_of_mem_exportFolders hmem')⟩
    refine ⟨roots, hroots, nodup_roots hroots, fun root => mem_roots hroots, hdocuments,
      hdistinct.trans (Export.nodup_exportFolders_iff roots), ?_⟩
    intro hfree hcwd hlinks e he
    have hcontent := content_of_exportEach h hcwd hlinks
      (by rw [hfolders]; exact fun name => Export.isName_of_mem_exportFolders)
      (by rw [hfolders]; exact (Export.nodup_exportFolders_iff roots).mpr hfree) e he
    exact FileTree.read_of_content hcontent

end Store

/-! ## Where an export writes -/

namespace Export

/-- A folder with a name below the output directory. -/
def IsFolder (cwd outDir path : String) : Prop :=
  ∃ name, Path.IsName name ∧ path = Path.join cwd (Path.join outDir name)

/-- The file in a folder with a name below the output directory. -/
def IsFile (cwd outDir file : String) : Prop :=
  ∃ name, Path.IsName name ∧ file = Path.join cwd (path outDir name)

theorem IsFolder.isBelow {cwd outDir path : String} (h : IsFolder cwd outDir path) :
    FileTree.IsBelow (Path.join cwd outDir) path := by
  obtain ⟨name, hname, rfl⟩ := h
  refine ⟨[name], List.cons_ne_nil _ _, List.forall_mem_singleton.mpr hname, ?_⟩
  rw [FileTree.join_join _ _ hname]
  rfl

theorem IsFile.isBelow {cwd outDir file : String} (h : IsFile cwd outDir file) :
    FileTree.IsBelow (Path.join cwd outDir) file := by
  obtain ⟨name, hname, rfl⟩ := h
  refine ⟨[name, exportFile], List.cons_ne_nil _ _, ?_, ?_⟩
  · simp [hname, isName_exportFile]
  · rw [path, FileTree.join_join _ _ isName_exportFile, FileTree.join_join _ _ hname]
    rfl

end Export

namespace Store

/-- The export of one root makes its folder and writes its file at most, whether or not it comes to
its end. -/
theorem changed_exportRoot (s : Store) (cwd outDir root : String) {folder : String}
    (hfolder : Path.IsName folder) (t : FileTree) :
    FileTree.Changed (Export.IsFolder cwd outDir) (Export.IsFile cwd outDir) t
      (s.exportRoot cwd outDir root folder t).1 := by
  unfold exportRoot
  split
  · exact .refl
  · dsimp only
    split
    · exact .refl
    · rename_i made hmade
      have hmaking : FileTree.Changed (Export.IsFolder cwd outDir) (Export.IsFile cwd outDir) t
          made := .made .refl ⟨folder, hfolder, rfl⟩ hmade
      split
      · exact hmaking
      · rename_i hwritten
        rw [FileTree.writeText, FileTree.write] at hwritten
        exact hmaking.written ⟨folder, hfolder, rfl⟩ hwritten

theorem changed_exportEach (s : Store) (cwd outDir : String) {pairs : List (String × String)}
    (hfolders : ∀ pair ∈ pairs, Path.IsName pair.2) (t : FileTree) :
    FileTree.Changed (Export.IsFolder cwd outDir) (Export.IsFile cwd outDir) t
      (s.exportEach cwd outDir pairs t).1 := by
  induction pairs generalizing t with
  | nil => exact .refl
  | cons pair rest ih =>
    obtain ⟨root, folder⟩ := pair
    obtain ⟨hfolder, hrest⟩ := List.forall_mem_cons.mp hfolders
    have hfirst := s.changed_exportRoot cwd outDir root hfolder t
    unfold exportEach
    split
    · rename_i t' e hfailed
      rw [hfailed] at hfirst
      exact hfirst
    · rename_i t' first hexported
      rw [hexported] at hfirst
      have hothers := ih hrest t'
      split
      all_goals
        rename_i hend
        rw [hend] at hothers
        exact hfirst.trans hothers

/-- **An export makes folders with names and writes a file in each**, and does nothing else,
whatever it comes to. -/
theorem changed_exportTo (s : Store) (cwd outDir : String) (folder? : Option String)
    (t : FileTree) :
    FileTree.Changed (Export.IsFolder cwd outDir) (Export.IsFile cwd outDir) t
      (s.exportTo cwd outDir folder? t).1 := by
  unfold exportTo
  split
  · exact .refl
  · split
    · exact .refl
    · refine s.changed_exportEach cwd outDir (fun pair hpair => ?_) t
      exact Export.isName_of_mem_exportFolders (List.of_mem_zip hpair).2

/-- What an export of some roots tells is the path of each folder. -/
theorem paths_of_exportEach {s : Store} {cwd outDir : String} {pairs : List (String × String)}
    {t t' : FileTree} {written : List Exported}
    (h : s.exportEach cwd outDir pairs t = (t', .ok written)) :
    written.map Exported.path = pairs.map fun pair => Export.path outDir pair.2 := by
  rw [← List.forall₂_eq_eq_eq, List.forall₂_map_left_iff, List.forall₂_map_right_iff]
  exact (written_of_exportEach h).flip.imp fun _ _ hpair => hpair.2

/-- The paths that an export tells are those of files in folders with names. -/
theorem isName_of_mem_exportTo {s : Store} {cwd outDir : String} {folder? : Option String}
    {t t' : FileTree} {written : List Exported}
    (h : s.exportTo cwd outDir folder? t = (t', .ok written)) :
    ∀ e ∈ written, ∃ name, Path.IsName name ∧ e.path = Export.path outDir name := by
  intro e he
  unfold exportTo at h
  split at h
  · cases h
  · split at h
    · cases h
    · have hmem := List.mem_map_of_mem (f := Exported.path) he
      rw [paths_of_exportEach h] at hmem
      obtain ⟨pair, hpair, hpath⟩ := List.mem_map.mp hmem
      exact ⟨pair.2, Export.isName_of_mem_exportFolders (List.of_mem_zip hpair).2, hpath.symm⟩

end Store

/-! ## Two folders -/

namespace TwoFolders

/-- The entries of a folder with a document or none. -/
def entriesOf (content? : Option FileContent) : List (String × Node) :=
  (content?.map fun content => (exportFile, .file content false)).toList

/-- A tree whose output directory has two folders, each with a document or none. -/
def tree (first second : Option FileContent) : FileTree :=
  .dir [("out", .dir [("api", .dir (entriesOf first)), ("api-2", .dir (entriesOf second))])]

/-- Paths in the tree and the places that they mean. -/
def places : List (String × List String) :=
  [("/", []), ("/out", ["out"]), ("/out/api", ["out", "api"]), ("/out/api-2", ["out", "api-2"]),
    ("/out/api/auditor-findings.json", ["out", "api", exportFile]),
    ("/out/api-2/auditor-findings.json", ["out", "api-2", exportFile])]

variable (first second : Option FileContent)

theorem locate_tree {path : String} {place : List String} (h : (path, place) ∈ places) :
    (tree first second).locate path = .ok place := by
  simp only [places, List.mem_cons, Prod.mk.injEq, List.not_mem_nil, or_false] at h
  rcases h with ⟨rfl, rfl⟩ | ⟨rfl, rfl⟩ | ⟨rfl, rfl⟩ | ⟨rfl, rfl⟩ | ⟨rfl, rfl⟩ | ⟨rfl, rfl⟩
  · exact FileTree.locate_of_here (by decide) (by decide) rfl
  · exact FileTree.locate_of_at? (by decide) (by decide) (by decide) rfl (by rintro target ⟨⟩)
  · exact FileTree.locate_of_at? (by decide) (by decide) (by decide) rfl (by rintro target ⟨⟩)
  · exact FileTree.locate_of_at? (by decide) (by decide) (by decide) rfl (by rintro target ⟨⟩)
  -- a document may be missing in its folder
  · exact FileTree.locate_of_parent (by decide) (show _ = ["out", "api"] ++ [exportFile] by decide)
      (by decide) rfl (by cases first <;> rintro target ⟨⟩)
  · exact FileTree.locate_of_parent (by decide)
      (show _ = ["out", "api-2"] ++ [exportFile] by decide) (by decide) rfl
      (by cases second <;> rintro target ⟨⟩)

/-- The folders are there already. -/
theorem makeDirs_tree {folder : String} (h : folder ∈ ["api", "api-2"]) :
    (tree first second).makeDirs (Path.join "/" (Path.join "out" folder)) =
      .ok (tree first second) := by
  have hroot := locate_tree first second (show ("/", []) ∈ places by decide)
  have hout : (tree first second).locate (Path.join "/" "out") = .ok ["out"] := by
    rw [show Path.join "/" "out" = "/out" by decide]
    exact locate_tree first second (by decide)
  simp only [List.mem_cons, List.not_mem_nil, or_false] at h
  rcases h with rfl | rfl
  · have hfolder : (tree first second).locate (Path.join (Path.join "/" "out") "api") =
        .ok ["out", "api"] := by
      rw [show Path.join (Path.join "/" "out") "api" = "/out/api" by decide]
      exact locate_tree first second (by decide)
    rw [FileTree.makeDirs,
      show Path.components _ = [.root, .name "out", .name "api"] by decide,
      FileTree.makeDirsFrom_root hroot rfl, FileTree.makeDirsFrom_name hout rfl,
      FileTree.makeDirsFrom_name hfolder rfl]
    rfl
  · have hfolder : (tree first second).locate (Path.join (Path.join "/" "out") "api-2") =
        .ok ["out", "api-2"] := by
      rw [show Path.join (Path.join "/" "out") "api-2" = "/out/api-2" by decide]
      exact locate_tree first second (by decide)
    rw [FileTree.makeDirs,
      show Path.components _ = [.root, .name "out", .name "api-2"] by decide,
      FileTree.makeDirsFrom_root hroot rfl, FileTree.makeDirsFrom_name hout rfl,
      FileTree.makeDirsFrom_name hfolder rfl]
    rfl

variable {s : Store} {root : String} {document : FindingsDocument}

/-- The document of a root that is exported to one of the folders. -/
def written (document : FindingsDocument) : Option FileContent :=
  some (.data (Text.encode document.toJson.renderIndented))

theorem exportRoot_first (h : s.extract (some root) none = .ok document) :
    s.exportRoot "/" "out" root "api" (tree first second) =
      (tree (written document) second, .ok ⟨Export.path "out" "api", document⟩) := by
  have hpath : Path.join "/" (Path.join (Path.join "out" "api") exportFile) =
      "/out/api/auditor-findings.json" := by decide
  have hplace := locate_tree first second
    (show ("/out/api/auditor-findings.json", ["out", "api", exportFile]) ∈ places by decide)
  unfold Store.exportRoot
  rw [h]
  dsimp only
  rw [makeDirs_tree first second (by decide)]
  dsimp only
  rw [hpath, FileTree.writeText, FileTree.write, FileTree.putContent, hplace]
  cases first <;> rfl

theorem exportRoot_second (h : s.extract (some root) none = .ok document) :
    s.exportRoot "/" "out" root "api-2" (tree first second) =
      (tree first (written document), .ok ⟨Export.path "out" "api-2", document⟩) := by
  have hpath : Path.join "/" (Path.join (Path.join "out" "api-2") exportFile) =
      "/out/api-2/auditor-findings.json" := by decide
  have hplace := locate_tree first second
    (show ("/out/api-2/auditor-findings.json", ["out", "api-2", exportFile]) ∈ places by decide)
  unfold Store.exportRoot
  rw [h]
  dsimp only
  rw [makeDirs_tree first second (by decide)]
  dsimp only
  rw [hpath, FileTree.writeText, FileTree.write, FileTree.putContent, hplace]
  cases second <;> rfl

/-- A store with a row for each of some roots. -/
def storeOf (roots : List String) : Store :=
  { Store.empty.seed with
    rows := roots.map fun root =>
      ⟨.bandit, root, 1, "app.py", root, ⟨none, none, none, none⟩, []⟩ }

/-- There are no links in the tree as it is at first. -/
theorem noLinks_tree (t' : FileTree) : Export.NoLinks (Path.join "/" "out") (tree none none) t' := by
  intro place _ _ below target hlink
  generalize place ++ below = names at hlink
  rcases names with _ | ⟨a, _ | ⟨b, rest⟩⟩
  · cases hlink
  · simp only [tree, Node.at?, Node.child?, Node.entries?, Assoc.find?, Option.bind_some] at hlink
    split at hlink <;> cases hlink
  · simp only [tree, Node.at?, Node.child?, Node.entries?, Assoc.find?, Option.bind_some,
      entriesOf, Option.map_none, Option.toList_none] at hlink
    split at hlink
    · simp only [Option.bind_some, Assoc.find?] at hlink
      split at hlink
      · exact Node.at?_empty_ne_link rest target hlink
      · split at hlink
        · exact Node.at?_empty_ne_link rest target hlink
        · cases hlink
    · cases hlink

/-- Each root has a document. -/
theorem exists_document (roots : List String) (root : String) : ∃ document,
    (storeOf roots).extract (some root) none = .ok document ∧ document.root? = some root := by
  have hmissing : (storeOf roots).missingOf? Schema.messageTables = none := by
    change Store.empty.seed.missingOf? Schema.messageTables = none
    decide
  unfold Store.extract
  rw [hmissing]
  exact ⟨_, rfl, rfl⟩

/-- Two roots with the same folder name are exported beside each other. -/
theorem exportTo_of_one_name :
    ∃ t' written,
      (storeOf ["/a/api", "/b/api"]).exportTo "/" "out" none (tree none none) =
        (t', .ok written) ∧
      ¬Export.NumberTaken ["/a/api", "/b/api"] ∧ Path.isAbsolute "/" = true ∧
      Export.NoLinks (Path.join "/" "out") (tree none none) t' ∧
      (written.map Exported.path).Nodup ∧ written.length = 2 ∧
      ∀ e ∈ written, t'.read (Path.join "/" e.path) =
        .ok (Text.encode e.document.toJson.renderIndented) := by
  have hroots : (storeOf ["/a/api", "/b/api"]).roots = .ok ["/a/api", "/b/api"] := by
    decide
  have hfolders : exportFolders ["/a/api", "/b/api"] = ["api", "api-2"] := by decide +kernel
  obtain ⟨t', written, hexport⟩ : ∃ t' written,
      (storeOf ["/a/api", "/b/api"]).exportTo "/" "out" none (tree none none) =
        (t', .ok written) := by
    unfold Store.exportTo
    simp only [hroots, exportRoots, hfolders, List.zip_cons_cons, List.zip_nil_right,
      Store.exportEach]
    obtain ⟨a, ha, -⟩ := exists_document ["/a/api", "/b/api"] "/a/api"
    obtain ⟨b, hb, -⟩ := exists_document ["/a/api", "/b/api"] "/b/api"
    rw [exportRoot_first _ _ ha]
    dsimp only
    rw [exportRoot_second _ _ hb]
    exact ⟨_, _, rfl⟩
  have hfree : ¬Export.NumberTaken ["/a/api", "/b/api"] := by
    rw [← Export.nodup_exportFolders_iff, hfolders]
    decide
  obtain ⟨roots, hroots', -, -, hdocuments, hdistinct, hkept⟩ := Store.exportTo_all _ hexport
  obtain rfl : ["/a/api", "/b/api"] = roots := Except.ok.inj (hroots.symm.trans hroots')
  exact ⟨t', written, hexport, hfree, by decide, noLinks_tree t', hdistinct.mpr hfree,
    hdocuments.length_eq.symm, hkept hfree (by decide) (noLinks_tree t')⟩

/-- **One root is exported over another one.**  A root whose own name is that of another one with
its number comes to the same path, and the document that was there is lost. -/
theorem exportTo_overwrites :
    ∃ t' first second third,
      (storeOf ["/a/api", "/b/api", "/c/api-2"]).roots = .ok ["/a/api", "/b/api", "/c/api-2"] ∧
      (storeOf ["/a/api", "/b/api", "/c/api-2"]).exportTo "/" "out" none (tree none none) =
        (t', .ok [first, second, third]) ∧
      second.document.root? = some "/b/api" ∧ third.document.root? = some "/c/api-2" ∧
      second.path = third.path ∧
      t'.read (Path.join "/" second.path) =
        .ok (Text.encode third.document.toJson.renderIndented) := by
  have hroots : (storeOf ["/a/api", "/b/api", "/c/api-2"]).roots =
      .ok ["/a/api", "/b/api", "/c/api-2"] := by decide
  have hfolders : exportFolders ["/a/api", "/b/api", "/c/api-2"] = ["api", "api-2", "api-2"] := by
    decide +kernel
  have hextract := exists_document ["/a/api", "/b/api", "/c/api-2"]
  obtain ⟨a, ha, -⟩ := hextract "/a/api"
  obtain ⟨b, hb, hbRoot⟩ := hextract "/b/api"
  obtain ⟨c, hc, hcRoot⟩ := hextract "/c/api-2"
  have hlast := exportRoot_second (written a) (written b) hc
  refine ⟨tree (written a) (written c), ⟨Export.path "out" "api", a⟩,
    ⟨Export.path "out" "api-2", b⟩, ⟨Export.path "out" "api-2", c⟩, hroots, ?_, hbRoot, hcRoot, rfl,
    ?_⟩
  · unfold Store.exportTo
    simp only [hroots, exportRoots, hfolders, List.zip_cons_cons, List.zip_nil_right,
      Store.exportEach, exportRoot_first _ _ ha, exportRoot_second _ _ hb, hlast]
  · have hcontent := Store.content_of_exportRoot hlast
    dsimp only at hcontent ⊢
    exact FileTree.read_of_content hcontent

end TwoFolders

end LintLedger
