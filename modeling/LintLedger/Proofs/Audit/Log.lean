import LintLedger.Audit.Log
import LintLedger.Proofs.Project.Discovery
import LintLedger.Proofs.Store.Export

/-!
# Whose folder a part of the log is

The folder of a project in the debug log is named by the slug of the project, which is made of its
last name alone.  Projects with different slugs have different folders, and what is noted about one
of them leaves the files of the other as they are.  Projects with one slug have one folder, and
everything in it is of both: what discovery finds at several levels may have the same last name,
and different last names may have one slug.

A note is written into the folder of its project and nowhere else, if the tool of a record that is
noted can give a file its name.

## Main Definitions

* `RunLog.pathOf`, `RunLog.IsIn`, `RunLog.Holds` -- the files in the folder of a project
* `RunLog.Spares` -- what is written leaves the files of a project as they are

## Main Statements

* `RunLog.folder_eq_iff` -- which projects have one folder
* `RunLog.changed_write` -- notes are written into the folders of their projects
* `RunLog.spares_notes` -- notes about other projects leave the files of a project as they are
* `RunLog.folders_of_projects` -- two discovered projects in one log
* `RunLog.one_folder_of_projects` -- two that have one folder
-/

namespace LintLedger

namespace RunLog

variable {log : RunLog} {anchor other : String} {t t' t'' : FileTree}

/-! ## Folders and files -/

/-- **Projects have one folder if they have one slug.** -/
theorem folder_eq_iff : log.folder anchor = log.folder other ↔
    Path.projectSlug anchor = Path.projectSlug other := by
  constructor
  · intro h
    have hnames (project : String) : FileTree.names (log.folder project) =
        FileTree.names log.dir ++ [Path.projectSlug project] := by
      have hslug := (Path.isSlug_projectSlug project).isName
      rw [folder, FileTree.names_join, FileTree.isAbsolute_of_isName hslug,
        FileTree.names_of_isName hslug]
      rfl
    have hsame := congrArg FileTree.names h
    rw [hnames, hnames] at hsame
    simpa using hsame
  · intro h
    rw [folder, folder, h]

/-- A file or folder in the folder of a project. -/
def pathOf (log : RunLog) (anchor : String) (names : List String) : String :=
  (Path.projectSlug anchor :: names).foldl Path.join (log.place log.dir)

/-- A path in the folder of a project. -/
def IsIn (log : RunLog) (anchor path : String) : Prop :=
  ∃ more, (∀ name ∈ more, Path.IsName name) ∧ path = log.pathOf anchor more

/-- A path in the folder of some project. -/
def Holds (log : RunLog) (path : String) : Prop := ∃ anchor, log.IsIn anchor path

/-- What is in the folder of a project is below the folder of the run. -/
theorem Holds.isBelow {path : String} (h : log.Holds path) :
    FileTree.IsBelow (log.place log.dir) path := by
  obtain ⟨anchor, more, hmore, rfl⟩ := h
  have hslug := (Path.isSlug_projectSlug anchor).isName
  exact ⟨_, List.cons_ne_nil _ _, List.forall_mem_cons.mpr ⟨hslug, hmore⟩, rfl⟩

theorem pathOf_nil (log : RunLog) (anchor : String) :
    log.pathOf anchor [] = log.place (log.folder anchor) := by
  have hslug := (Path.isSlug_projectSlug anchor).isName
  rw [place, folder, FileTree.join_join _ _ hslug, pathOf, List.foldl_cons, List.foldl_nil, place]

theorem pathOf_concat (log : RunLog) (anchor : String) (names : List String) (name : String) :
    log.pathOf anchor (names ++ [name]) = Path.join (log.pathOf anchor names) name := by
  rw [pathOf, ← List.cons_append, List.foldl_concat, pathOf]

theorem pathOf_file {name : String} (h : Path.IsName name) :
    log.pathOf anchor [name] = log.place (Path.join (log.folder anchor) name) := by
  rw [← List.nil_append [name], pathOf_concat, pathOf_nil, place, place, FileTree.join_join _ _ h]

theorem isName_artifacts : Path.IsName "artifacts" := by decide

theorem pathOf_artifact (log : RunLog) (anchor name : String) :
    log.pathOf anchor ["artifacts", name] = Path.join (log.place (log.artifacts anchor)) name := by
  rw [← List.singleton_append, pathOf_concat, pathOf_file isName_artifacts, artifacts]

/-! ## What writing leaves as it is -/

/-- What was written leaves the files of a project as they are, if there were no links below the
folder of the run; and nothing else is lost. -/
structure Spares (log : RunLog) (anchor : String) (t t' : FileTree) : Prop where
  carries : Node.Carries Node.Alike t t'
  linked : Node.Linked t' t
  content : Export.NoLinks (log.place log.dir) t t' →
    ∀ names, (∀ name ∈ names, Path.IsName name) → ∀ content,
      t.content (log.pathOf anchor names) = .ok content →
        t'.content (log.pathOf anchor names) = .ok content

theorem Spares.refl (log : RunLog) (anchor : String) (t : FileTree) : log.Spares anchor t t where
  carries _ n hn := ⟨n, hn, .refl n⟩
  linked := .refl t
  content _ _ _ _ h := h

theorem Spares.trans (first : log.Spares anchor t t') (second : log.Spares anchor t' t'') :
    log.Spares anchor t t'' where
  carries := first.carries.trans .trans second.carries
  linked := second.linked.trans first.linked
  content hlinks names hnames content h :=
    second.content (hlinks.after first.linked) names hnames content
      (first.content (hlinks.before second.carries) names hnames content h)

/-- Making directories leaves all files as they are. -/
theorem spares_makeDirs {path : String} (h : t.makeDirs path = .ok t') :
    log.Spares anchor t t' where
  carries := FileTree.carries_of_makeDirs h
  linked := FileTree.linked_of_makeDirsFrom h
  content _ _ _ _ hcontent := FileTree.content_of_makeDirs h hcontent

/-- A file in another folder is at another place. -/
theorem spares_putContent (hdir : log.dir ≠ "")
    (hne : Path.projectSlug other ≠ Path.projectSlug anchor) {more : List String}
    (hmore : ∀ name ∈ more, Path.IsName name) {content : FileContent}
    (h : t.putContent (log.pathOf other more) content = .ok t') : log.Spares anchor t t' where
  carries := FileTree.carries_of_putContent h
  linked := FileTree.linked_of_putContent h
  content hlinks names hnames content' hcontent := by
    refine FileTree.content_of_putContent_of_ne h hcontent fun hsame => hne ?_
    have hplain := hlinks.before (FileTree.carries_of_putContent h)
    have hplace : log.place log.dir ≠ "" := FileTree.join_ne_empty hdir log.base
    obtain ⟨found, -, hfound, -⟩ := FileTree.content_eq_ok_iff.mp hcontent
    have hwhere {project : String} {names : List String}
        (hnames : ∀ name ∈ names, Path.IsName name)
        (hlocate : t.locate (log.pathOf project names) = .ok found) :
        ∃ dir, t.locate (log.place log.dir) = .ok dir ∧
          found = dir ++ Path.projectSlug project :: names := by
      obtain ⟨dir, hat, hisDir, hspelled⟩ := FileTree.locate_foldl_join hplace
        (List.forall_mem_cons.mpr ⟨(Path.isSlug_projectSlug project).isName, hnames⟩)
        (List.cons_ne_nil _ _) hlocate
      exact ⟨dir, hat, hspelled (hplain dir hat hisDir)⟩
    obtain ⟨dir, hat, hspelled⟩ := hwhere hnames hfound
    obtain ⟨dir', hat', hspelled'⟩ := hwhere hmore (hsame.symm.trans hfound)
    obtain rfl : dir' = dir := Except.ok.inj (hat'.symm.trans hat)
    rw [hspelled, List.append_cancel_left_eq] at hspelled'
    exact (List.cons.inj hspelled').1.symm

/-- What is written into the folder of a project with another slug leaves the files of a project as
they are. -/
theorem spares_of_changed (hdir : log.dir ≠ "")
    (hne : Path.projectSlug other ≠ Path.projectSlug anchor) {Dir : String → Prop}
    (h : FileTree.Changed Dir (log.IsIn other) t t') : log.Spares anchor t t' := by
  induction h with
  | refl => exact .refl log anchor t
  | made _ _ h ih => exact ih.trans (spares_makeDirs h)
  | written _ hpath h ih =>
    obtain ⟨more, hmore, rfl⟩ := hpath
    exact ih.trans (spares_putContent hdir hne hmore h)

/-! ## Notes -/

theorem exists_putContent_of_append {path : String} {bytes : List UInt8}
    (h : t.append path bytes = .ok t') : ∃ content, t.putContent path content = .ok t' := by
  unfold FileTree.append at h
  split at h
  · exact ⟨_, h⟩
  · exact ⟨_, h⟩
  · cases h

/-- Whether the name of the tool can be that of a file, for a note about the run of one. -/
def Filed : Note → Prop
  | .artifact run => '/' ∉ run.tool.toList
  | _ => True

theorem isName_of_chars {s : String} {c : Char} (hslash : '/' ∉ s.toList) (hc : c ∈ s.toList)
    (hdot : c ≠ '.') : Path.IsName s := by
  have hne {other : String} (hother : c ∉ other.toList) : s ≠ other := by
    rintro rfl
    exact hother hc
  exact ⟨hne (by simp), hne (by simpa using hdot), hne (by simpa using hdot), hslash⟩

theorem isIn_join_folder (log : RunLog) (other : String) {name : String} (h : Path.IsName name) :
    log.IsIn other (log.place (Path.join (log.folder other) name)) := by
  refine ⟨[name], by simpa using h, ?_⟩
  rw [pathOf_file h]

theorem isIn_join_artifacts {name : String} (h : Path.IsName name) :
    log.IsIn other (Path.join (log.place (log.artifacts other)) name) := by
  refine ⟨["artifacts", name], by simpa [isName_artifacts] using h, ?_⟩
  rw [pathOf_artifact]

/-- The files about a run of a tool are in the folder of the project. -/
theorem isIn_artifactFiles {run : RunRecord} (h : '/' ∉ run.tool.toList) :
    ∀ file ∈ artifactFiles (log.place (log.artifacts other)) run, log.IsIn other file.1 := by
  have hname {ending : String} (hslash : '/' ∉ ending.toList) (ho : 'o' ∈ ending.toList) :
      Path.IsName (run.tool ++ ending) := by
    refine isName_of_chars (c := 'o') ?_ ?_ (by decide)
    · rw [String.toList_append, List.mem_append, not_or]
      exact ⟨h, hslash⟩
    · rw [String.toList_append]
      exact List.mem_append_right _ ho
  simp only [artifactFiles, List.forall_mem_cons]
  exact ⟨isIn_join_artifacts (hname (by decide) (by decide)),
    isIn_join_artifacts (hname (by decide) (by decide)),
    isIn_join_artifacts (hname (by decide) (by decide)), nofun⟩

theorem changed_writeTexts {Dir File : String → Prop} {files : List (String × String)}
    (hfiles : ∀ file ∈ files, File file.1) (t : FileTree) :
    FileTree.Changed Dir File t (writeTexts files t) := by
  induction files generalizing t with
  | nil => exact .refl
  | cons file rest ih =>
    obtain ⟨hfile, hrest⟩ := List.forall_mem_cons.mp hfiles
    rw [writeTexts]
    split
    · rename_i t' hwritten
      exact (FileTree.Changed.written .refl hfile hwritten).trans (ih hrest t')
    · exact .refl

/-- **A note is written into the folder of its project.** -/
theorem changed_writeNote {note : Note} (hfiled : Filed note) (w : Writer) :
    FileTree.Changed (log.IsIn other) (log.IsIn other) w.1 (log.writeNote w other note).1 := by
  unfold writeNote
  cases note with
  | opened =>
    dsimp only
    split
    · rename_i t' hmade
      exact .made .refl (isIn_join_folder log other isName_artifacts) hmade
    · exact .refl
  | event e =>
    dsimp only
    split
    · exact .refl
    · have hname : Path.IsName "events.jsonl" := by decide
      cases hadded : w.1.append (log.place (Path.join (log.folder other) "events.jsonl"))
          (Text.encode ((e.toJson log.timestamp).render ++ "\n")) with
      | error _ => exact .refl
      | ok t' =>
        obtain ⟨content, hput⟩ := exists_putContent_of_append hadded
        exact .written .refl (isIn_join_folder log other hname) hput
  | artifact run =>
    dsimp only
    split
    · exact .refl
    · exact changed_writeTexts (isIn_artifactFiles hfiled) w.1
  | closed s =>
    dsimp only
    split
    · exact .refl
    · have hname : Path.IsName "summary.json" := by decide
      apply changed_writeTexts
      rw [List.forall_mem_singleton]
      dsimp only
      exact isIn_join_folder log other hname

/-- **The notes of a run are written into the folders of their projects.** -/
theorem changed_write (log : RunLog) {notes : List (String × Note)}
    (hfiled : ∀ n ∈ notes, Filed n.2) (t : FileTree) :
    FileTree.Changed log.Holds log.Holds t (log.write notes t) := by
  have hnotes (w : Writer) : FileTree.Changed log.Holds log.Holds w.1
      (notes.foldl (fun w n => log.writeNote w n.1 n.2) w).1 := by
    induction notes generalizing w with
    | nil => exact .refl
    | cons n rest ih =>
      obtain ⟨hn, hrest⟩ := List.forall_mem_cons.mp hfiled
      have hfirst : FileTree.Changed log.Holds log.Holds w.1 (log.writeNote w n.1 n.2).1 :=
        (changed_writeNote hn w).mono (fun _ hpath => ⟨n.1, hpath⟩) (fun _ hpath => ⟨n.1, hpath⟩)
      exact hfirst.trans (ih hrest (log.writeNote w n.1 n.2))
  exact hnotes (t, [])

/-- **Notes about other projects leave the files of a project as they are**, if these projects have
other folders. -/
theorem spares_notes (hdir : log.dir ≠ "") {notes : List (String × Note)}
    (hothers : ∀ n ∈ notes, log.folder n.1 ≠ log.folder anchor) (hfiled : ∀ n ∈ notes, Filed n.2)
    (w : Writer) :
    log.Spares anchor w.1 (notes.foldl (fun w n => log.writeNote w n.1 n.2) w).1 := by
  induction notes generalizing w with
  | nil => exact .refl log anchor w.1
  | cons n rest ih =>
    obtain ⟨hother, hrest⟩ := List.forall_mem_cons.mp hothers
    obtain ⟨hn, hfiled⟩ := List.forall_mem_cons.mp hfiled
    have hslug : Path.projectSlug n.1 ≠ Path.projectSlug anchor := mt folder_eq_iff.mpr hother
    have hfirst := spares_of_changed hdir hslug (changed_writeNote hn w)
    exact hfirst.trans (ih hrest hfiled (log.writeNote w n.1 n.2))

/-! ## Discovered projects in a log -/

/-- Projects with last names that are slugs have one folder if they have one last name. -/
theorem folder_pathBelow_eq_iff {root last last' : String} {front front' : List String}
    (h : Path.IsSlug last) (h' : Path.IsSlug last') :
    log.folder (Project.pathBelow root (front ++ [last])) =
      log.folder (Project.pathBelow root (front' ++ [last'])) ↔ last = last' := by
  rw [folder_eq_iff, Project.pathBelow_concat, Project.pathBelow_concat, Path.projectSlug_join _ h,
    Path.projectSlug_join _ h']

/-- **Two discovered projects in one log.**  They have one folder if they have one slug, and for
last names that are slugs, if they have one last name; so those that are found on one level have
folders of their own.  If the folders are the same, so is every file in them.  If they are not, what
is noted about projects with other folders leaves the files in a folder as they are. -/
theorem folders_of_projects (log : RunLog) (hdir : log.dir ≠ "") {t : FileTree} {root : String}
    {recursive : Bool} {a b : String} (ha : a ∈ Project.discover t root recursive)
    (hb : b ∈ Project.discover t root recursive) (hne : a ≠ b) :
    (log.folder a = log.folder b ↔ Path.projectSlug a = Path.projectSlug b) ∧
    (∃ front last front' last', a = Project.pathBelow root (front ++ [last]) ∧
      b = Project.pathBelow root (front' ++ [last']) ∧
      (Path.IsSlug last → Path.IsSlug last' → (log.folder a = log.folder b ↔ last = last')) ∧
      (recursive = false → last ≠ last')) ∧
    (log.folder a = log.folder b → ∀ names, log.pathOf a names = log.pathOf b names) ∧
    ∀ notes : List (String × Note),
      (∀ n ∈ notes, log.folder n.1 ≠ log.folder a) → (∀ n ∈ notes, Filed n.2) →
      ∀ w : Writer, log.Spares a w.1 (notes.foldl (fun w n => log.writeNote w n.1 n.2) w).1 := by
  refine ⟨folder_eq_iff, ?_, ?_, fun notes hothers hfiled w => spares_notes hdir hothers hfiled w⟩
  · obtain ⟨front, last, front', last', rfl, rfl, hflat⟩ := Project.exists_of_mem_discover ha hb hne
    exact ⟨front, last, front', last', rfl, rfl, folder_pathBelow_eq_iff,
      fun hlevel => (hflat hlevel).2.2⟩
  · intro hsame names
    rw [pathOf, pathOf, folder_eq_iff.mp hsame]

namespace Namesakes

/-- A project with nothing else in it. -/
def project : Node := .dir [("setup.py", .file (.data []) false)]

/-- What is in the directory with the projects. -/
def entries : List (String × Node) :=
  [("a", .dir [("api", project)]), ("b", .dir [("api", project)]), ("my api", project),
    ("my-api", project)]

/-- What is in the directory with the log. -/
def logged : List (String × Node) :=
  [("run", .dir [("api", .dir [("summary.json", .file (.data [1]) false)])])]

/-- Two projects with one last name, and two with one slug; one has a file in the log. -/
def tree : FileTree := .dir [("logs", .dir logged), ("w", .dir entries)]

/-- A log outside of the projects. -/
def logs : RunLog := ⟨"/", "logs/run", "2026-01-01T00:00:00Z"⟩

/-- The names that lead to the projects. -/
def places : List (List String) := [["a", "api"], ["b", "api"], ["my api"], ["my-api"]]

/-- All names in the tree. -/
def names : List String :=
  ["w", "a", "b", "api", "my api", "my-api", "setup.py", "logs", "run", "summary.json"]

theorem isName {name : String} (h : name ∈ names) : Path.IsName name := by
  constructor <;> revert name <;> decide

theorem linkless_tree : tree.Linkless := by
  have hproject : project.Linkless := .dir (by simpa using .file _ _)
  have hentries : (Node.dir entries).Linkless := by
    have hone : (Node.dir [("api", project)]).Linkless := .dir (by simpa using hproject)
    exact .dir (by simp [entries, hproject, hone])
  have hlogged : (Node.dir logged).Linkless := by
    have hfolder : (Node.dir [("summary.json", .file (.data [1]) false)]).Linkless :=
      .dir (by simpa using .file _ _)
    have hrun : (Node.dir [("api", .dir [("summary.json", .file (.data [1]) false)])]).Linkless :=
      .dir (by simpa using hfolder)
    exact .dir (by simpa [logged] using hrun)
  exact .dir (by simp [hentries, hlogged])

theorem locate_of_steps {path : String} {place : List String} (hsteps : FileTree.steps path = place)
    (hplace : ∀ name ∈ place, Path.IsName name) (hne : place ≠ []) {n : Node}
    (hn : tree.at? place = some n) : tree.locate path = .ok place := by
  refine FileTree.locate_of_at? ?_ hsteps hplace hn ?_
  · rintro rfl
    exact hne hsteps.symm
  · rintro target rfl
    exact linkless_tree place target hn

theorem node?_root : tree.node? "/w" = some (.dir entries) := by
  rw [FileTree.node?_of_locate (locate_of_steps (by decide : _ = ["w"]) ?_ (by simp) rfl)]
  · rfl
  · exact fun name h => isName (by revert name; decide)

theorem node?_pathBelow {more : List String} (hmore : ∀ name ∈ more, Path.IsName name)
    (hne : more ≠ []) {n : Node} (hn : tree.at? ("w" :: more) = some n) :
    tree.node? (Project.pathBelow "/w" more) = some n := by
  have hsteps := FileTree.steps_foldl_join "/w" hmore hne
  rw [show FileTree.names "/w" = ["w"] by decide, List.singleton_append] at hsteps
  have hplace : ∀ name ∈ "w" :: more, Path.IsName name :=
    List.forall_mem_cons.mpr ⟨isName List.mem_cons_self, hmore⟩
  rw [← hn]
  exact FileTree.node?_of_locate (locate_of_steps hsteps hplace (List.cons_ne_nil _ _) hn)

theorem isProject {place : List String} (h : place ∈ places) :
    Project.isProject tree (Project.pathBelow "/w" place) = true := by
  have hnames : ∀ place ∈ places, ∀ name ∈ place ++ ["setup.py"], name ∈ names := by decide
  have hnode : tree.node? (Project.pathBelow "/w" (place ++ ["setup.py"])) =
      some (.file (.data []) false) := by
    refine node?_pathBelow (fun name hname => isName (hnames place h name hname)) (by simp) ?_
    simp only [places, List.mem_cons, List.not_mem_nil, or_false] at h
    rcases h with rfl | rfl | rfl | rfl <;> rfl
  rw [Project.pathBelow_concat] at hnode
  refine List.any_eq_true.mpr ⟨"setup.py", by decide, ?_⟩
  rw [FileTree.exists?, hnode]
  rfl

/-- Below the directory all projects are found. -/
theorem mem_discover {place : List String} (h : place ∈ places) :
    Project.pathBelow "/w" place ∈ Project.discover tree "/w" true := by
  refine Project.mem_discover_of_mem_below (Project.mem_below.mpr ⟨?_, isProject h⟩)
  rw [Project.candidates, node?_root]
  revert place
  decide

/-- On the level below the directory two projects are found. -/
theorem mem_discover_level {name : String} (h : name ∈ ["my api", "my-api"]) :
    Project.pathBelow "/w" [name] ∈ Project.discover tree "/w" false := by
  have hplaces : [name] ∈ places := by revert name; decide
  have hplain : Project.excluded.contains name = false := by revert name; decide
  have hname : Path.IsName name := isName (by revert name; decide)
  have hentry : (name, project) ∈ entries ∧ tree.at? ["w", name] = some project := by
    simp only [List.mem_cons, List.not_mem_nil, or_false] at h
    rcases h with rfl | rfl <;> exact ⟨by simp [entries], rfl⟩
  have hnode : tree.node? (Path.join "/w" name) = some project :=
    node?_pathBelow (List.forall_mem_singleton.mpr hname) (List.cons_ne_nil _ []) hentry.2
  refine Project.mem_discover_of_mem_below (Project.mem_below.mpr ⟨?_, isProject hplaces⟩)
  rw [Project.candidates, node?_root]
  refine List.mem_map.mpr ⟨(name, project), List.mem_filter.mpr ⟨hentry.1, ?_⟩, rfl⟩
  simp only [FileTree.isDir, hnode, hplain]
  rfl

/-- One project has a file in the log. -/
theorem content_tree :
    tree.content (logs.pathOf "/w/a/api" ["summary.json"]) = .ok (.data [1]) := by
  have hplace : tree.locate (logs.pathOf "/w/a/api" ["summary.json"]) =
      .ok ["logs", "run", "api", "summary.json"] := by
    refine locate_of_steps (by decide) (fun name h => isName ?_) (by simp) rfl
    revert name
    decide
  exact FileTree.content_eq_ok_iff.mpr ⟨_, false, hplace, rfl⟩

end Namesakes

open Namesakes in
/-- What is noted about one of two projects with different slugs leaves the files of the other. -/
theorem folders_of_different :
    "/w/a/api" ∈ Project.discover tree "/w" true ∧ "/w/my api" ∈ Project.discover tree "/w" true ∧
      logs.folder "/w/a/api" ≠ logs.folder "/w/my api" ∧
      (logs.writeNote (tree, []) "/w/my api" .opened).1.content
        (logs.pathOf "/w/a/api" ["summary.json"]) = .ok (.data [1]) := by
  have hapi : "/w/a/api" ∈ Project.discover tree "/w" true :=
    mem_discover (List.mem_cons_self : ["a", "api"] ∈ places)
  have hmy : "/w/my api" ∈ Project.discover tree "/w" true :=
    mem_discover (by decide : ["my api"] ∈ places)
  obtain ⟨hslug, -, -, hspares⟩ := folders_of_projects logs (by decide) hapi hmy (by decide)
  have hne : logs.folder "/w/a/api" ≠ logs.folder "/w/my api" := mt hslug.mp (by decide)
  refine ⟨hapi, hmy, hne, ?_⟩
  refine (hspares [("/w/my api", .opened)] ?_ ?_ (tree, [])).content ?_ ["summary.json"] ?_ _
    content_tree
  · exact List.forall_mem_singleton.mpr hne.symm
  · exact List.forall_mem_singleton.mpr trivial
  · exact fun place _ _ more target => linkless_tree (place ++ more) target
  · exact List.forall_mem_singleton.mpr (isName (by decide))

open Namesakes in
/-- Two projects at several levels, and two on one level, that have one folder. -/
theorem one_folder_of_projects :
    ("/w/a/api" ∈ Project.discover tree "/w" true ∧ "/w/b/api" ∈ Project.discover tree "/w" true ∧
      logs.folder "/w/a/api" = logs.folder "/w/b/api") ∧
    "/w/my api" ∈ Project.discover tree "/w" false ∧
      "/w/my-api" ∈ Project.discover tree "/w" false ∧
      logs.folder "/w/my api" = logs.folder "/w/my-api" := by
  refine ⟨⟨?_, ?_, folder_eq_iff.mpr (by decide +kernel)⟩, ?_, ?_,
    folder_eq_iff.mpr (by decide +kernel)⟩
  · exact mem_discover (List.mem_cons_self : ["a", "api"] ∈ places)
  · exact mem_discover (by decide : ["b", "api"] ∈ places)
  · exact mem_discover_level (by decide : "my api" ∈ _)
  · exact mem_discover_level (by decide : "my-api" ∈ _)

end RunLog

end LintLedger
