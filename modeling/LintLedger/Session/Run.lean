import LintLedger.CommandLine.Parser
import LintLedger.Report.Tools
import LintLedger.Session.Audit

/-!
# Running the program

A command line is understood, the settings in force are found, and the command is carried
out.

## Main Definitions

* `Session.perform` -- a command under some settings
* `Session.run` -- a command line from start to end

## Design Notes

The only command that starts further sessions is the audit, and it asks them to audit their
project themselves.  So sessions are nested at most once, and `Session.run` needs no
recursion: the sessions within it may start none.
-/

namespace LintLedger.Session

/-- A command with everything that was found out for it. -/
structure Task where
  invocation : Invocation
  /-- The project that the settings are for. -/
  project : String
  settings : Settings

/-! ## The commands -/

/-- Makes sure that the database has its tables. -/
def seed (host : Host) (task : Task) (w : World) : Session :=
  match openDatabase host task.settings w with
  | (w, .error e) => w.fail e
  | (w, .ok _) =>
    w.done (if task.invocation.quiet then []
      else ["✓ schema ready in " ++ task.settings.database.path])

/-- Runs tools on projects. -/
def audit (host : Host) (again : Respawn) (process : Nat) (task : Task) (request : AuditRequest)
    (w : World) : Session :=
  match AuditPlan.ofRequest? task.project task.invocation.config? request task.settings with
  | .error e => w.fail (.audit e)
  | .ok plan =>
    plan.perform host again process task.invocation.verbose task.invocation.quiet w

/-- Writes the findings of roots to files. -/
def exportFindings (host : Host) (task : Task) (outDir : String) (root? : Option String)
    (w : World) : Session :=
  match openDatabase host task.settings w with
  | (w, .error e) => w.fail e
  | (w, .ok store) =>
    let (tree, result) := store.exportTo host.surroundings.dir outDir root? w.tree
    let w := { w with tree := tree }
    match result with
    | .error e => w.fail (.export e)
    | .ok [] =>
      w.done (if task.invocation.quiet then []
        else ["Nothing to export from " ++ task.settings.database.path])
    | .ok written => w.done (written.map fun e => "→ " ++ e.path)

/-- Prints the record of a tool, after it was written to a file if one was named. -/
def printRecord (host : Host) (run : RunRecord) (file? : Option String) (w : World) : Session :=
  let text := run.toJson.renderIndented
  let written : Except SessionError FileTree := match file? with
    | none => .ok w.tree
    | some file =>
      (w.tree.writeText (Path.join host.surroundings.dir file) text).mapError (.writing file)
  match written with
  | .error e => w.fail e
  | .ok tree => { w with tree := tree }.done [text]

/-- Runs one tool on the project. -/
def runOne (host : Host) (task : Task) (name : String) (file? : Option String) (w : World) :
    Session :=
  match toolNamed? name with
  | none => w.fail (.audit (.unknownTools [name]))
  | some tool =>
    let attempt := runTool (host.launcher task.settings) host.surroundings task.settings.tools
      tool task.project w.tree
    let w := { w with tree := attempt.tree }
    match attempt.result with
    | .error e => w.fail (.process e)
    | .ok run => printRecord host run file? w

/-- Lists the tools. -/
def listTools (host : Host) (task : Task) (w : World) : Session :=
  let path := (host.surroundings.environment.find? "PATH").getD ""
  let dirs := task.settings.sandbox.searchFirst ++ searchDirs path
  let installed (t : Tool) : Bool :=
    hasProgram w.tree host.surroundings.dir dirs (analyzerOf task.settings.tools t)
  w.done (toolsTable installed).render

/-- Removes the scans before a time. -/
def prune (host : Host) (task : Task) (before : String) (w : World) : Session :=
  match Timestamp.ofText? before with
  | none => w.fail (.notTimestamp before)
  | some time =>
    match openDatabase host task.settings w with
    | (w, .error e) => w.fail e
    | (w, .ok store) =>
      match store.pruneBefore time.toText with
      | (_, .error e) => w.fail (.store e)
      | (store, .ok removed) =>
        (saveDatabase host task.settings store w).done
          (if task.invocation.quiet then []
            else ["Removed " ++ toString removed ++ " scan(s) older than " ++ time.toText])

/-- A command under some settings. -/
def perform (host : Host) (again : Respawn) (process : Nat) (task : Task) (w : World) :
    Session :=
  match task.invocation.command with
  | .seed => seed host task w
  | .audit request => audit host again process task request w
  | .export outDir root? => exportFindings host task outDir root? w
  | .runTool tool _ file? => runOne host task tool file? w
  | .tools => listTools host task w
  | .prune before => prune host task before w

/-! ## The command line -/

/-- The project that the settings of a command are looked for in. -/
def projectOf : Command → String
  | .audit request => request.path
  | .runTool _ target _ => target
  | _ => "."

/-- Settings with what the command line says about them. -/
def withInvocation (s : Settings) (i : Invocation) : Settings :=
  { s with
      database := match i.database? with
        | some path => { s.database with path := path }
        | none => s.database
      log := { s.log with debug := s.log.debug || i.debug } }

/-- The exit code after a command line that leads to no command. -/
def usageCode : UsageError → Nat
  | .displayHelp => 0
  | .displayVersion => 0
  | _ => 2

/-- The session after a command line that leads to no command. -/
def refuse (e : UsageError) (w : World) : Session :=
  match e with
  | .displayHelp => w.done [CommandLine.usage]
  | .displayVersion => w.done [programName ++ " " ++ programVersion]
  | e => ⟨w.say ("error: " ++ e.message ++ "\n" ++ CommandLine.usage), usageCode e, [], 0⟩

/-- A command line from start to end; sessions within are carried out by `again`. -/
def runWith (again : Respawn) (host : Host) (args : List String) (w : World) : Session :=
  let process := w.nextProcess
  let w := { w with nextProcess := process + 1 }
  match CommandLine.parse args with
  | .error e => refuse e w
  | .ok i =>
    let surroundings := host.surroundings
    let project := canonical w.tree surroundings.dir (projectOf i.command)
    match Settings.load w.tree surroundings.environment surroundings.dir project i.config? with
    | .error e => w.fail (.settings e)
    | .ok settings =>
      perform host again process ⟨i, project, withInvocation settings i⟩ w

/-- A session that does nothing and fails. -/
def refusing : Respawn := fun _ w => ⟨w, 1, [], 0⟩

/-- A command line from start to end. -/
def run (host : Host) (args : List String) (w : World) : Session :=
  runWith (runWith refusing host) host args w

end LintLedger.Session
