import LintLedger.Proofs.Schedule.Apart
import LintLedger.Proofs.Schedule.Supply
import LintLedger.Proofs.Session.Database
import LintLedger.Session.Run

/-!
# Audits whose surroundings stay as they are

Sessions of an audit find a file tree that earlier ones have changed: they opened and saved the
database, ran tools and wrote logs.  As long as none of this disturbs what a session reads, and
tools end in the same way whenever they are run, an audit in one session adds to its database
exactly what the tools of its projects bring.

## Main Definitions

* `AuditPlan.Arises` -- the file trees that sessions of an audit may find
* `AuditPlan.Steady` -- what sessions read is the same in all of them
* `AuditPlan.stock` -- the batches that tools bring to an audit of some projects
* `AuditPlan.Filled` -- a database to which such batches were added

## Main Statements

* `AuditPlan.filled_perform` -- what an audit in one session leaves in its database
-/

namespace LintLedger.AuditPlan

variable {p q : AuditPlan} {host : Host} {projects : List String} {start : FileTree}
  {answer : String → Tool → Execution}

/-! ## The surroundings of an audit -/

/-- A tool of an audit run on a project. -/
def attempt (p : AuditPlan) (host : Host) (project : String) (tool : Tool) (t : FileTree) :
    Attempt :=
  runTool (host.launcher p.settings) host.surroundings p.settings.tools tool project t

/-- The file trees that the sessions of an audit of some projects may find, whatever they are asked
to store or to log, from the tree `start` on. -/
inductive Arises (p : AuditPlan) (host : Host) (projects : List String) (start : FileTree) :
    FileTree → Prop where
  | start : Arises p host projects start start
  | opened {t : FileTree} : Arises p host projects start t →
      Arises p host projects start
        (openStore t host.surroundings.dir p.settings.database.path).1
  | saved {t : FileTree} (s : Store) : Arises p host projects start t →
      Arises p host projects start
        (saveStore t host.surroundings.dir p.settings.database.path s)
  | ran {t : FileTree} {project : String} {tool : Tool} : Arises p host projects start t →
      project ∈ projects → tool ∈ p.tools →
      Arises p host projects start (p.attempt host project tool t).tree
  | logged {t : FileTree} {process : Nat} {log : RunLog} (notes : List (String × Note)) :
      Arises p host projects start t → p.runLog? host process = some log →
      Arises p host projects start (log.write notes t)

/-- Whatever the sessions of an audit do, each finds the same: the settings of every project are
those of the audit, every project is where its path says, and its tools end as `answer` says.  No
tool and no log touches the database. -/
structure Steady (p : AuditPlan) (host : Host) (projects : List String) (start : FileTree)
    (answer : String → Tool → Execution) : Prop where
  settings : ∀ t, Arises p host projects start t → ∀ project ∈ projects,
    Settings.load t host.surroundings.environment host.surroundings.dir project p.config? =
      Settings.load start host.surroundings.environment host.surroundings.dir p.root p.config?
  place : ∀ t, Arises p host projects start t → ∀ project ∈ projects,
    canonical t host.surroundings.dir project = project
  answers : ∀ t, Arises p host projects start t → ∀ project ∈ projects, ∀ tool ∈ p.tools,
    executionOf (p.attempt host project tool t).result = answer project tool
  tools : ∀ t, Arises p host projects start t → ∀ project ∈ projects, ∀ tool ∈ p.tools,
    (p.attempt host project tool t).tree.content (databaseFile host p.settings) =
      t.content (databaseFile host p.settings)
  logs : ∀ t, Arises p host projects start t → ∀ process log notes,
    p.runLog? host process = some log →
      (log.write notes t).content (databaseFile host p.settings) =
        t.content (databaseFile host p.settings)

/-! ## What tools bring -/

/-- What a tool brings to the audit of a project. -/
def brings (p : AuditPlan) (host : Host) (answer : String → Tool → Execution) (project : String)
    (tool : Tool) : Except ToolFailure (List Finding) :=
  Audit.harvest (p.auditJob host.now p.jobs project) (answer project) tool

/-- The batches that tools bring to an audit of some projects. -/
def stock (p : AuditPlan) (host : Host) (answer : String → Tool → Execution)
    (projects : List String) : Store.Stock :=
  { batch | ∃ project ∈ projects, ∃ tool ∈ p.tools,
    p.brings host answer project tool = .ok batch }

/-- Two plans that run the same tools under the same settings. -/
structure Matches (q p : AuditPlan) : Prop where
  settings : q.settings = p.settings
  tools : q.tools = p.tools

/-- What tools bring is the same in plans that match, however many run at once. -/
theorem Matches.harvest_eq (same : q.Matches p) (inner : Nat) (project : String) (tool : Tool) :
    Audit.harvest (q.auditJob host.now inner project) (answer project) tool =
      p.brings host answer project tool := by
  simp only [brings, Audit.harvest, Audit.document, Audit.Job.context, auditJob, same.settings,
    same.tools]
  rfl

/-- The run of a plan brings the batches that its tools bring. -/
theorem Matches.crop_eq (same : q.Matches p) (projects : List String) :
    Schedule.crop (q.job host.now projects)
        (Schedule.answers (q.job host.now projects) answer) =
      p.stock host answer projects := by
  ext batch
  constructor
  · rintro ⟨index, project, hlisted, tool, htool, hharvest⟩
    rw [Schedule.answers_of_listed hlisted] at hharvest
    exact ⟨project, List.mem_of_getElem? hlisted, tool, same.tools ▸ htool,
      (same.harvest_eq _ project tool).symm.trans hharvest⟩
  · rintro ⟨project, hproject, tool, htool, hbrings⟩
    obtain ⟨index, hlisted⟩ := List.mem_iff_getElem?.mp hproject
    refine ⟨index, project, hlisted, tool, ?_, ?_⟩
    · change tool ∈ q.tools
      exact same.tools ▸ htool
    · rw [Schedule.answers_of_listed hlisted]
      exact (same.harvest_eq _ project tool).trans hbrings

/-- The tree is one that sessions may find, and its database holds a store with all its tables to
which batches of a stock were added. -/
structure Filled (p : AuditPlan) (host : Host) (projects : List String) (start : FileTree)
    (stock : Store.Stock) (base : Store) (t : FileTree) (after : Store) : Prop where
  arises : p.Arises host projects start t
  content : t.content (databaseFile host p.settings) = .ok (.ledger after)
  drawn : Store.Drawn stock base after

/-! ## An audit in one session -/

/-- The log of a session leaves the database as it is. -/
theorem Steady.write_log (steady : p.Steady host projects start answer) (same : q.Matches p)
    {stock : Store.Stock} {base after : Store} {w : World}
    (filled : p.Filled host projects start stock base w.tree after) (process : Nat)
    (notes : List (String × Note)) :
    p.Filled host projects start stock base
      (match q.runLog? host process with
        | some log => { w with tree := log.write notes w.tree }
        | none => w).tree after := by
  have hlog : q.runLog? host process = p.runLog? host process := by
    simp only [runLog?, same.settings]
  rw [hlog]
  cases hsome : p.runLog? host process with
  | none => exact filled
  | some log =>
    refine ⟨.logged notes filled.arises hsome, ?_, filled.drawn⟩
    rw [steady.logs _ filled.arises process log notes hsome]
    exact filled.content

/-- What is said leaves the tree as it is. -/
theorem tree_say (w : World) (text : String) : (w.say text).tree = w.tree := rfl

/-- Messages and reports leave the tree as it is: what an audit leaves is what it keeps of its
run. -/
theorem tree_perform {again : Respawn} {process : Nat} {verbose quiet : Bool} {w opened : World}
    {base : Store} (hopen : openDatabase host q.settings w = (opened, .ok base)) :
    let found := q.projects host.surroundings.dir opened.tree
    let share := plan q.request.strategy q.jobs found.length
    let ran := Schedule.run (q.executor host again share.inner) (q.job host.now found)
      ⟨some base, []⟩ opened
    (q.perform host again process verbose quiet w).world.tree =
      (q.keep host process ran.state.records ran.world).tree := by
  intro found share ran
  simp only [perform, hopen]
  split
  · simp only [World.fail, tree_say]
    split
    · exact tree_say _ _
    · rfl
  · rfl

/-- An audit that cannot open its database does nothing else. -/
theorem tree_perform_of_error {again : Respawn} {process : Nat} {verbose quiet : Bool}
    {w opened : World} {e : SessionError}
    (hopen : openDatabase host q.settings w = (opened, .error e)) :
    (q.perform host again process verbose quiet w).world.tree = opened.tree := by
  simp only [perform, hopen]
  rfl

/-- The tools of a steady audit do the same whenever they are started. -/
theorem Steady.answering (steady : p.Steady host projects start answer) (same : q.Matches p)
    {stock : Store.Stock} {base after : Store} (again : Respawn) (inner : Nat)
    {found : List String} (hfound : ∀ project ∈ found, project ∈ projects) :
    Schedule.Answering (q.executor host again inner) (q.job host.now found) p.tools
      (fun w => p.Filled host projects start stock base w.tree after) answer := by
  refine ⟨fun project hproject tool htool w filled => ?_⟩
  have hmem := hfound project hproject
  have hattempt : q.attempt host project tool = p.attempt host project tool := by
    funext t
    simp only [attempt, same.settings]
  refine ⟨⟨?_, ?_, filled.drawn⟩, ?_⟩
  · change p.Arises host projects start (q.attempt host project tool w.tree).tree
    rw [hattempt]
    exact .ran filled.arises hmem htool
  · change (q.attempt host project tool w.tree).tree.content _ = _
    rw [hattempt, steady.tools _ filled.arises project hmem tool htool]
    exact filled.content
  · change executionOf (q.attempt host project tool w.tree).result = _
    rw [hattempt]
    exact steady.answers _ filled.arises project hmem tool htool

/-- **What an audit in one session leaves in its database**: what the tools of its projects bring
was added to what was there, and all of that is in the database. -/
theorem Steady.filled_perform (steady : p.Steady host projects start answer) (same : q.Matches p)
    (hresolve : resolveTools q.names = .ok q.tools) (hstrategy : q.request.strategy ≠ .process)
    (hgoes : q.request.stopOnError = false)
    (hfile : hasNoFile p.settings.database.path = false) {w opened : World} {base : Store}
    (hopen : openDatabase host p.settings w = (opened, .ok base))
    (harises : p.Arises host projects start opened.tree) {found : List String}
    (hfound : q.projects host.surroundings.dir opened.tree = found)
    (hlisted : ∀ project ∈ found, project ∈ projects) (again : Respawn) (process : Nat)
    (verbose quiet : Bool) :
    ∃ after, p.Filled host projects start (p.stock host answer found) base
        (q.perform host again process verbose quiet w).world.tree after ∧
      after.Supplied (p.stock host answer found) := by
  obtain ⟨hcomplete, hcontent, -⟩ := content_of_openDatabase hfile hopen
  have here := Schedule.job_here host.now found hstrategy hresolve
  have thorough : (q.job host.now found).Thorough p.settings.tools :=
    ⟨fun _ => by simp only [job, auditJob, same.settings], hgoes⟩
  -- nothing was brought when the run begins
  have hbegun : p.Filled host projects start (p.stock host answer found) base opened.tree base :=
    ⟨harises, hcontent, .refl _ _⟩
  obtain ⟨⟨slots, hrun⟩, hidle, hfilled⟩ := Schedule.run_here (same.tools ▸ here)
    (steady.answering same again
      (plan q.request.strategy q.jobs found.length).inner hlisted) ⟨some base, []⟩ hbegun
  obtain ⟨-, after, hstore, hdrawn, hsupplied⟩ :=
    hrun.supply (same.tools ▸ here) thorough rfl hcomplete hidle
  rw [same.crop_eq] at hdrawn hsupplied
  refine ⟨after, ?_, hsupplied⟩
  rw [tree_perform (same.settings.symm ▸ hopen), hfound]
  simp only [keep, hstore]
  have hstays : q.isApart = false := by simpa [isApart] using hstrategy
  rw [hstays]
  refine steady.write_log same ⟨?_, ?_, hdrawn⟩ process _
  · change p.Arises host projects start (saveStore _ _ q.settings.database.path after)
    rw [same.settings]
    exact .saved after hfilled.arises
  · change (saveStore _ _ q.settings.database.path after).content _ = _
    rw [same.settings]
    exact content_saveStore hfile hfilled.content after

end LintLedger.AuditPlan
