import LintLedger.Audit.Log
import LintLedger.Project
import LintLedger.Report.Outcomes
import LintLedger.Schedule.Child
import LintLedger.Schedule.Timed
import LintLedger.Session.Basic

/-!
# The audit command

An audit finds the projects below a directory, runs the tools on them and reports what became
of them.  Projects are audited in this session or each in a session of its own; then it is
those sessions that write to the database.

## Main Definitions

* `AuditPlan` -- an audit as it is to be carried out
* `AuditPlan.ofRequest?` -- the plan for a request under some settings
* `AuditPlan.perform` -- an audit from start to end
-/

namespace LintLedger

/-- Carries out a command line in a session of its own. -/
abbrev Respawn := List String → World → Session

/-- An audit as it is to be carried out. -/
structure AuditPlan where
  /-- The directory with the projects. -/
  root : String
  request : AuditRequest
  settings : Settings
  /-- The settings file that was named. -/
  config? : Option String
  /-- The tools by the names that were asked for. -/
  names : List String
  tools : List Tool

namespace AuditPlan

/-! ## Planning -/

/-- The names of the tools to run: those asked for, else those enabled, else all. -/
def namesFor (request : AuditRequest) (settings : Settings) : List String :=
  if !request.tools.isEmpty then request.tools
  else if !settings.tools.enabled.isEmpty then settings.tools.enabled
  else Tool.all.map Tool.name

/-- The plan for a request, unless it names tools that there are not. -/
def ofRequest? (root : String) (config? : Option String) (request : AuditRequest)
    (settings : Settings) : Except AuditError AuditPlan :=
  let names := namesFor request settings
  match resolveTools names with
  | .error unknown => .error (.unknownTools unknown)
  | .ok tools => .ok ⟨root, request, settings, config?, names, tools⟩

/-- How many tools may run at once. -/
def jobs (p : AuditPlan) : Nat := max 1 (p.request.jobs?.getD p.settings.execution.jobs)

/-- The projects to audit; a root that is not there is audited as it is. -/
def projects (p : AuditPlan) (dir : String) (t : FileTree) : List String :=
  if p.request.singleProject || !t.exists? (Path.join dir p.root) then [p.root]
  else Project.discover t p.root p.request.recursive

/-- What each project is asked to do. -/
def auditJob (p : AuditPlan) (now : Timestamp) (inner : Nat) (project : String) : Audit.Job where
  target := project
  anchor := project
  tools := p.tools
  analyzer := analyzerOf p.settings.tools
  jobs := inner
  stopOnError := p.request.stopOnError
  mode := p.settings.database.insertMode
  timestamp := now.toText

/-- Whether projects are audited in sessions of their own. -/
def isApart (p : AuditPlan) : Bool := p.request.strategy == .process

/-- The run over some projects. -/
def job (p : AuditPlan) (now : Timestamp) (projects : List String) : Schedule.Job :=
  let share := plan p.request.strategy p.jobs projects.length
  { projects := projects
    audit := p.auditJob now share.inner
    apart := p.isApart
    outer := share.outer
    stopOnError := p.request.stopOnError
    units := p.names.length }

/-- The command line of the session for one project. -/
def arguments (p : AuditPlan) (inner : Nat) (project : String) : List String :=
  childArguments
    { config? := p.config?
      database? := some p.settings.database.path
      debug := p.settings.log.debug }
    p.request.stopOnError p.names inner project

/-! ## Carrying out -/

/-- What a tool does when it is run. -/
def executionOf : Except ProcessError RunRecord → Execution
  | .ok run => .ran run
  | .error e => .impossible e

/-- Tools run by the launcher of the host, and projects audited in sessions of their own. -/
def executor (p : AuditPlan) (host : Host) (again : Respawn) (inner : Nat) : Executor World where
  tool := fun project tool w =>
    let attempt := runTool (host.launcher p.settings) host.surroundings p.settings.tools tool
      project w.tree
    ({ w with tree := attempt.tree }, executionOf attempt.result, attempt.milliseconds)
  child := fun project w =>
    let session := again (p.arguments inner project) w
    (session.world, session.exitCode, session.milliseconds)

/-- The project at which a run was stopped: the first that ended with errors. -/
def stoppedAt (events : List Event) : String :=
  ((events.find? fun e => e.kind == .completedWithErrors).map Event.project).getD ""

/-- What is said about an error that stops a run. -/
def stopMessage (now : Timestamp) (e : AuditError) (events : List Event) : String :=
  now.toText ++ "  WARN stopping: " ++ e.message ++ " project=" ++ stoppedAt events

/-- The log of a session, if the settings ask for one. -/
def runLog? (p : AuditPlan) (host : Host) (process : Nat) : Option RunLog :=
  if p.settings.log.debug then
    let id := host.now.compactText ++ "-" ++ toString process
    some ⟨host.surroundings.dir, Path.join p.settings.log.dir id, host.now.toText⟩
  else none

/-- Keeps what a run has brought: the store, unless other sessions wrote to the database, and
the log. -/
def keep (p : AuditPlan) (host : Host) (process : Nat) (r : Records) (w : World) : World :=
  let stored := match r.store? with
    | some store => if p.isApart then w else saveDatabase host p.settings store w
    | none => w
  match p.runLog? host process with
  | some log => { stored with tree := log.write r.notes stored.tree }
  | none => stored

/-- An audit from start to end, in the process of a number. -/
def perform (p : AuditPlan) (host : Host) (again : Respawn) (process : Nat)
    (verbose quiet : Bool) (w : World) : Session :=
  match openDatabase host p.settings w with
  | (w, .error e) => w.fail e
  | (w, .ok store) =>
    let projects := p.projects host.surroundings.dir w.tree
    let job := p.job host.now projects
    let share := plan p.request.strategy p.jobs projects.length
    let ran := Schedule.run (p.executor host again share.inner) job ⟨some store, []⟩ w
    let records := ran.state.records
    let kept := p.keep host process records ran.world
    match Schedule.result ran.state with
    | .error e =>
      let told :=
        if p.request.stopOnError then kept.say (stopMessage host.now e records.events) else kept
      { told.fail (.audit e) with milliseconds := ran.now }
    | .ok outcomes =>
      { kept.done (reportLines outcomes p.root verbose quiet) with milliseconds := ran.now }

end AuditPlan

end LintLedger
