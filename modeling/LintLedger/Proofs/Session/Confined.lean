import LintLedger.Proofs.Audit.Log
import LintLedger.Proofs.Process.Records
import LintLedger.Proofs.Schedule.Verdict
import LintLedger.Session.Run

/-!
# Where sessions write

An export has a folder for every stored root, and a debug log one for every project.  Roots and
projects are arbitrary text, but the folders are not: whatever was stored or audited, the folder of
a root is a name, with or without a number behind it, and so is the slug of a project.

The files of the log are called by fixed names and by those of the tools that ran.  What a tool did
enters the notes of a run as the record that the executor gave for it, and in no other way; and the
records of the sandbox carry the names of tools.

So all that an export or a log writes is below the directory that it was given.  What is elsewhere
is as it was, as long as no links lead out of that directory.

## Main Definitions

* `Executor.Shows`, `Schedule.Flight.Shows` -- the records that come out of tools are notes of a
  kind

## Main Statements

* `Schedule.land_grew`, `Schedule.run_grew` -- what one delivery, and what a run adds to the notes
* `AuditPlan.filed_of_run` -- the records of a run carry names of tools
* `AuditPlan.changed_log` -- the log of a run is written into the folders of its projects
* `written_below` -- where exports and logs are written
-/

namespace LintLedger

/-! ## What a run notes -/

/-- The records that an executor gives are notes of a kind. -/
def Executor.Shows {World : Type} (x : Executor World) (Kind : Note → Prop) : Prop :=
  ∀ project tool w run, (x.tool project tool w).2.1 = .ran run → Kind (.artifact run)

namespace Schedule

variable {World : Type} {x : Executor World} {Kind : Note → Prop} {s : State} {t : Timed World}
  (common : Note.Common Kind) (hopened : Kind .opened) (job : Job)

include common hopened

theorem begin_grew (now index : Nat) (project : String) (s : State) :
    s.records.Grew Kind (begin job now index project s).records := by
  unfold begin
  split
  · exact .refl Kind s.records
  · rw [records_place]
    exact Audit.launch_grew common (job.audit project) hopened now s.records

theorem start_grew (now : Nat) (waiting : List (Nat × String)) (s : State) :
    s.records.Grew Kind (start job now waiting s).records := by
  induction waiting generalizing s with
  | nil => exact .refl Kind s.records
  | cons first rest ih =>
    obtain ⟨index, project⟩ := first
    unfold start
    split
    · exact .refl Kind s.records
    · split
      · exact .refl Kind s.records
      · exact (begin_grew common hopened job now index project s).trans (ih _)

/-- The end of a tool adds its record, if there is one, and what starting projects adds. -/
theorem deliver_grew {res : Execution} (hran : ∀ run, res = .ran run → Kind (.artifact run))
    (now index : Nat) (tool : Tool) (s : State) :
    s.records.Grew Kind (deliver job now index tool res s).records := by
  unfold deliver
  split
  · rename_i before index' project audit after _
    have hplaced : s.records.Grew Kind (place job before index project
        (Audit.deliver (job.audit project) now tool res (audit, s.records)) after s).records := by
      rw [records_place]
      exact Audit.deliver_grew common (job.audit project) hran now tool (audit, s.records)
    exact hplaced.trans (start_grew common hopened job now _ _)
  · exact .refl Kind s.records

/-- The end of a process adds an event, and what starting projects adds. -/
theorem deliverChild_grew (now index : Nat) (code : Int) (s : State) :
    s.records.Grew Kind (deliverChild job now index code s).records := by
  unfold deliverChild
  split
  · rename_i before index' project after _
    have hadded : s.records.Grew Kind
        (s.records.add project (.event (childEvent job project code))) :=
      .add s.records project (common.event _)
    refine .trans ?_ (start_grew common hopened job now _ _)
    rw [records_settle]
    exact hadded
  · exact .refl Kind s.records

omit common hopened

/-- What is on its way to its end is no record, or one of a kind. -/
def Flight.Shows (Kind : Note → Prop) (f : Flight) : Prop :=
  ∀ run, f.result = .ran run → Kind (.artifact run)

theorem shows_depart (hx : x.Shows Kind) (hflights : ∀ f ∈ t.flights, f.Shows Kind) (slot : Slot) :
    ∀ f ∈ (depart x t slot).flights, f.Shows Kind := by
  have hadded {f : Flight} (hf : f.Shows Kind) : ∀ g ∈ t.flights ++ [f], g.Shows Kind := by
    rw [List.forall_mem_append, List.forall_mem_singleton]
    exact ⟨hflights, hf⟩
  unfold depart
  dsimp only
  split
  · exact hadded fun run hrun => hx _ _ _ run hrun
  · -- a process brings an exit code and no record
    exact hadded fun _ => nofun

theorem shows_departAll (hx : x.Shows Kind) (hflights : ∀ f ∈ t.flights, f.Shows Kind) :
    ∀ f ∈ (departAll x t).flights, f.Shows Kind := by
  refine (departAll_induction (P := fun u => ∀ f ∈ u.flights, f.Shows Kind) ?_ ?_).1
  · exact fun f hf => hflights f (List.mem_of_mem_filter hf)
  · exact fun u slot hu _ _ => shows_depart hx hu slot

include common hopened

/-- **What one delivery adds to the notes**: its record, if it has one, and notes that are none. -/
theorem land_grew {f : Flight} (hf : f.Shows Kind) (t : Timed World) :
    t.state.records.Grew Kind (land job t f).state.records := by
  unfold land
  dsimp only
  split
  · exact deliver_grew common hopened job hf f.lands f.slot.1 _ t.state
  · exact deliverChild_grew common hopened job f.lands f.slot.1 f.code t.state

theorem runFor_grew (hx : x.Shows Kind) (bound : Nat) (hflights : ∀ f ∈ t.flights, f.Shows Kind) :
    t.state.records.Grew Kind (runFor x job bound t).state.records := by
  induction bound generalizing t with
  | zero => exact .refl Kind t.state.records
  | succ bound ih =>
    have hdeparted := shows_departAll hx hflights
    have hlanded {f : Flight} (hf : f ∈ (departAll x t).flights) :
        t.state.records.Grew Kind (land job (departAll x t) f).state.records := by
      rw [← state_departAll x t]
      exact land_grew common hopened job (hdeparted f hf) (departAll x t)
    unfold runFor
    dsimp only
    split
    · rw [state_departAll]
      exact .refl Kind t.state.records
    · rename_i f hfirst
      refine (hlanded (mem_of_earliest_eq_some hfirst)).trans (ih ?_)
      exact fun g hg => hdeparted g (List.mem_of_mem_filter hg)

/-- **What a run adds to the notes**: the records that its executor gives, and notes that are
none. -/
theorem run_grew (hx : x.Shows Kind) (r : Records) (w : World) :
    r.Grew Kind (run x job r w).state.records := by
  have hlaunched : r.Grew Kind (launch job 0 r).records := start_grew common hopened job 0 _ _
  exact hlaunched.trans (runFor_grew common hopened job hx _ (List.forall_mem_nil _))

end Schedule

/-! ## The log of a run -/

/-- The name of a tool has no slash. -/
theorem Tool.slash_notMem_name (tool : Tool) : '/' ∉ tool.name.toList := by
  cases tool <;> decide

namespace AuditPlan

variable {p : AuditPlan} {host : Host}

/-- The records of an audit carry names of tools. -/
theorem executor_shows (hnames : (host.launcher p.settings).Names) (again : Respawn) (inner : Nat) :
    (p.executor host again inner).Shows RunLog.Filed := by
  intro project tool w run hran
  have hresult : (runTool (host.launcher p.settings) host.surroundings p.settings.tools tool project
      w.tree).result = .ok run := by
    unfold executor executionOf at hran
    dsimp only at hran
    split at hran
    · rename_i run' hok
      cases hran
      exact hok
    · cases hran
  show '/' ∉ run.tool.toList
  rw [runTool_names hnames hresult]
  exact tool.slash_notMem_name

/-- **The records in the notes of a run carry names of tools.** -/
theorem filed_of_run (hnames : (host.launcher p.settings).Names) (again : Respawn) (inner : Nat)
    (job : Schedule.Job) (store? : Option Store) (w : World) :
    ∀ n ∈ (Schedule.run (p.executor host again inner) job ⟨store?, []⟩ w).state.records.notes,
      RunLog.Filed n.2 := by
  have common : Note.Common RunLog.Filed := ⟨fun _ => trivial, fun _ => trivial⟩
  obtain ⟨more, hnotes, hmore⟩ := Schedule.run_grew common trivial job
    (executor_shows hnames again inner) ⟨store?, []⟩ w
  rw [hnotes]
  exact hmore

/-- The folder of a run has a name. -/
theorem dir_ne_empty_of_runLog? {process : Nat} {log : RunLog}
    (h : p.runLog? host process = some log) : log.dir ≠ "" := by
  have hid : host.now.compactText ++ "-" ++ toString process ≠ "" := by simp
  rw [runLog?, Option.ite_none_right_eq_some] at h
  obtain ⟨-, h⟩ := h
  cases h
  dsimp only
  exact FileTree.join_ne_empty hid _

/-- **The log of a run is written into the folders of its projects**, and what is not below the
folder of the run is as it was. -/
theorem changed_log (hnames : (host.launcher p.settings).Names) (again : Respawn) (inner : Nat)
    (job : Schedule.Job) (store? : Option Store) (w : World) {process : Nat} {log : RunLog}
    (hlog : p.runLog? host process = some log) (t : FileTree) :
    let notes :=
      (Schedule.run (p.executor host again inner) job ⟨store?, []⟩ w).state.records.notes
    FileTree.Changed log.Holds log.Holds t (log.write notes t) ∧
      FileTree.KeepsOutside (log.place log.dir) t (log.write notes t) := by
  intro notes
  have hchanged : FileTree.Changed log.Holds log.Holds t (log.write notes t) :=
    log.changed_write (filed_of_run hnames again inner job store? w) t
  have hdir : log.place log.dir ≠ "" :=
    FileTree.join_ne_empty (dir_ne_empty_of_runLog? hlog) log.base
  exact ⟨hchanged, hchanged.keepsOutside hdir fun _ hpath => hpath.isBelow⟩

end AuditPlan

/-! ## Exports and logs -/

/-- **Where exports and logs are written.**

* Whatever roots are stored, each has a folder of its own name, which is one component of a path and
  neither a dot nor two, and so has every folder that an export of some roots is written to.
* Whatever a project is called, its slug is not empty, has letters and digits of ASCII, hyphens,
  underscores and dots in it, and a hyphen or a dot at neither end.
* An export tells the paths of files in folders with such names.  Whether or not it comes to its
  end, it makes no other directories and writes no other files, and their paths are below that of
  the output directory.  So no file has changed that is elsewhere, unless a link led there.
* The log of a run, whatever its tools and its projects do, is written to paths in the folders of
  projects, and these are below the folder of the run.  So no file has changed that is elsewhere,
  unless a link led there. -/
theorem written_below :
    (∀ root, Path.IsName (Path.exportFolder root)) ∧
    (∀ roots, ∀ folder ∈ exportFolders roots, Path.IsName folder) ∧
    (∀ project,
      Path.projectSlug project ≠ "" ∧
      (∀ c ∈ (Path.projectSlug project).toList,
        'a' ≤ c ∧ c ≤ 'z' ∨ 'A' ≤ c ∧ c ≤ 'Z' ∨ '0' ≤ c ∧ c ≤ '9' ∨ c ∈ ['-', '_', '.']) ∧
      (∀ c, (Path.projectSlug project).toList.head? = some c → c ≠ '-' ∧ c ≠ '.') ∧
      ∀ c, (Path.projectSlug project).toList.getLast? = some c → c ≠ '-' ∧ c ≠ '.') ∧
    (∀ (s : Store) (cwd outDir : String) (folder? : Option String) (t : FileTree),
      (∀ t' written, s.exportTo cwd outDir folder? t = (t', .ok written) →
        ∀ e ∈ written, ∃ name, Path.IsName name ∧
          e.path = Path.join (Path.join outDir name) "auditor-findings.json") ∧
      FileTree.Changed (Export.IsFolder cwd outDir) (Export.IsFile cwd outDir) t
        (s.exportTo cwd outDir folder? t).1 ∧
      (∀ path, Export.IsFolder cwd outDir path ∨ Export.IsFile cwd outDir path →
        FileTree.IsBelow (Path.join cwd outDir) path) ∧
      (Path.isAbsolute cwd = true →
        FileTree.KeepsOutside (Path.join cwd outDir) t (s.exportTo cwd outDir folder? t).1)) ∧
    ∀ (p : AuditPlan) (surroundings : Surroundings) (now : Timestamp) (again : Respawn)
      (inner : Nat) (job : Schedule.Job) (store? : Option Store) (w : World) (process : Nat)
      (log : RunLog), p.runLog? (.sandboxed surroundings now) process = some log →
      ∀ t,
        let notes := (Schedule.run (p.executor (.sandboxed surroundings now) again inner) job
          ⟨store?, []⟩ w).state.records.notes
        FileTree.Changed log.Holds log.Holds t (log.write notes t) ∧
        (∀ path, log.Holds path → FileTree.IsBelow (log.place log.dir) path) ∧
        FileTree.KeepsOutside (log.place log.dir) t (log.write notes t) := by
  refine ⟨Export.isName_exportFolder, fun _ _ => Export.isName_of_mem_exportFolders, ?_, ?_, ?_⟩
  · intro project
    have hslug := Path.isSlug_projectSlug project
    refine ⟨hslug.ne_empty, ?_, ?_, ?_⟩
    · exact fun c hc => Path.isSlugChar_iff.mp (hslug.chars c hc)
    · exact fun c hc => Path.isSlugEdge_eq_false_iff.mp (hslug.head c hc)
    · exact fun c hc => Path.isSlugEdge_eq_false_iff.mp (hslug.last c hc)
  · intro s cwd outDir folder? t
    have hchanged := s.changed_exportTo cwd outDir folder? t
    refine ⟨fun t' written h => Store.isName_of_mem_exportTo h, hchanged, ?_, fun hcwd => ?_⟩
    · exact fun _ hpath => hpath.elim Export.IsFolder.isBelow Export.IsFile.isBelow
    have hdir : Path.join cwd outDir ≠ "" := FileTree.join_ne_empty_of_isAbsolute hcwd outDir
    exact hchanged.keepsOutside hdir fun _ hpath => hpath.isBelow
  · intro p surroundings now again inner job store? w process log hlog t
    -- the files of a log are named for tools, and records have the names of their tools
    have hnames : ((Host.sandboxed surroundings now).launcher p.settings).Names :=
      Sandbox.launch_names p.settings.sandbox surroundings
    obtain ⟨hchanged, hkept⟩ := AuditPlan.changed_log hnames again inner job store? w hlog t
    exact ⟨hchanged, fun _ hpath => hpath.isBelow, hkept⟩

/-- A plan with a debug log, for a root that has no last name. -/
def AuditPlan.logged : AuditPlan where
  root := "/w/.."
  request := {}
  settings := { log := { debug := true } }
  config? := none
  names := ["bandit"]
  tools := [.bandit]

/-- A root that ends with separators is exported, and a project without a last name is logged. -/
theorem written_below_of_bare_paths :
    let store := TwoFolders.storeOf ["/a/api//"]
    let start := TwoFolders.tree none none
    let here : Surroundings := ⟨[], "/"⟩
    let now : Timestamp := ⟨2026, 1, 1, 0, 0, 0⟩
    let log : RunLog := ⟨"/", "logs/20260101T000000Z-7", "2026-01-01T00:00:00Z"⟩
    let notes := (Schedule.run (AuditPlan.logged.executor (.sandboxed here now) Session.refusing 1)
      (AuditPlan.logged.job now ["/w/.."]) ⟨none, []⟩ ⟨start, [], 8⟩).state.records.notes
    Path.IsName (Path.exportFolder "/w/..") ∧ Path.projectSlug "/w/.." ≠ "" ∧
    (∃ t' e, store.exportTo "/" "out" none start = (t', .ok [e]) ∧
      (∃ name, Path.IsName name ∧
        e.path = Path.join (Path.join "out" name) "auditor-findings.json") ∧
      FileTree.KeepsOutside (Path.join "/" "out") start t') ∧
    AuditPlan.logged.runLog? (.sandboxed here now) 7 = some log ∧
    FileTree.KeepsOutside (log.place log.dir) start (log.write notes start) := by
  intro store start here now log notes
  obtain ⟨hroot, -, hslug, hexport, hlogs⟩ := written_below
  have hroots : (TwoFolders.storeOf ["/a/api//"]).roots = .ok ["/a/api//"] := by decide
  have hfolders : exportFolders ["/a/api//"] = ["api"] := by decide
  obtain ⟨document, hdocument, -⟩ := TwoFolders.exists_document ["/a/api//"] "/a/api//"
  have hwritten : store.exportTo "/" "out" none start =
      (TwoFolders.tree (TwoFolders.written document) none,
        .ok [⟨Export.path "out" "api", document⟩]) := by
    unfold Store.exportTo
    simp only [hroots, exportRoots, hfolders, List.zip_cons_cons, List.zip_nil_right,
      Store.exportEach, TwoFolders.exportRoot_first _ _ hdocument, store, start]
  obtain ⟨hpaths, -, -, hkept⟩ := hexport store "/" "out" none start
  have hrun : AuditPlan.logged.runLog? (.sandboxed here now) 7 = some log := by
    have hdir : Path.join "logs" (now.compactText ++ "-" ++ toString 7) =
        "logs/20260101T000000Z-7" := by decide
    have htime : now.toText = "2026-01-01T00:00:00Z" := by decide
    show some (RunLog.mk "/" (Path.join "logs" (now.compactText ++ "-" ++ toString 7))
      now.toText) = some log
    rw [hdir, htime]
  rw [hwritten] at hkept
  refine ⟨hroot _, (hslug _).1, ⟨_, _, hwritten, ?_, hkept (by decide)⟩, hrun, ?_⟩
  · exact hpaths _ _ hwritten _ List.mem_cons_self
  · exact (hlogs _ here now _ 1 _ none _ 7 log hrun start).2.2

end LintLedger
