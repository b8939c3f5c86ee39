import LintLedger.Machine.Supervision
import LintLedger.Process.Basic
import LintLedger.Settings.Load
import LintLedger.Utility.Catalog

/-!
# The sandbox of a tool

A tool runs in a directory of its own choice with a changed environment, a limit on its time
and perhaps one on its memory.  Whatever it prints is kept; a tool that is stopped because its
time is up leaves a record too, with an exit code and a line that say so.

## Main Definitions

* `Launcher` -- anything that runs command lines
* `Sandbox` -- the limits and the changes of the environment
* `Sandbox.launch` -- the launcher that a sandbox is

## Design Notes

An audit needs no more than a launcher: what tools do to the file tree and what they print is
a parameter of everything that is built on it.  The sandbox is the launcher that runs scripts.
-/

namespace LintLedger

/-- What running a command line came to. -/
structure Attempt where
  tree : FileTree
  result : Except ProcessError RunRecord
  /-- The time it took. -/
  milliseconds : Nat

/-- Runs a command line for a tool in a directory. -/
abbrev Launcher := (tool : String) → (argv : List String) → (dir : String) → FileTree → Attempt

/-- What a process takes over from the program that starts it. -/
structure Surroundings where
  environment : Environment
  /-- The working directory. -/
  dir : String

/-- The limits and the changes of the environment under which tools run. -/
structure Sandbox where
  /-- Milliseconds that a tool may take. -/
  timeout : Nat
  /-- Megabytes of address space that a tool may take. -/
  memoryLimit? : Option Nat := none
  /-- Variables that are set for every tool. -/
  extraVariables : List (String × String) := []
  /-- Directories in which programs are looked for first. -/
  searchFirst : List String := []
deriving DecidableEq, Repr

namespace Sandbox

/-! ## The environment -/

/-- The search path of tools, if it is not the inherited one: the first directories in front
of it.  A directory with a colon in its name cannot be on a search path. -/
def searchPath? (x : Sandbox) (inherited : Environment) : Option String :=
  let dirs := x.searchFirst ++ searchDirs ((inherited.find? "PATH").getD "")
  if x.searchFirst.isEmpty || dirs.any fun dir => dir.toList.contains ':' then none
  else some (":".intercalate dirs)

/-- The variables that every tool gets, so that what it prints is complete and quiet. -/
def standingVariables : List (String × String) :=
  [("PYTHONUNBUFFERED", "1"), ("PYTHONWARNINGS", "ignore")]

/-- The environment of tools. -/
def environment (x : Sandbox) (inherited : Environment) : Environment :=
  let env := (standingVariables ++ x.extraVariables).foldl (fun env v => env.insert v.1 v.2) inherited
  match x.searchPath? inherited with
  | some path => env.insert "PATH" path
  | none => env

/-! ## Starting a program -/

/-- The place of a directory, in which a program can start. -/
def startDir (t : FileTree) (outer : String) (dir : String) : Except FileError String :=
  if dir = "" then .error .missing
  else
    match t.locate (Path.join outer dir) with
    | .error e => .error e
    | .ok place =>
      match t.at? place with
      | some (.dir _) => .ok ("/" ++ "/".intercalate place)
      | some _ => .error .notDirectory
      | none => .error .missing

/-- The directories in which programs are looked for under an environment. -/
def programDirs (env : Environment) : List String :=
  searchDirs ((env.find? "PATH").getD "/bin:/usr/bin")

/-- The paths under which a program might be found. -/
def candidates (env : Environment) (program : String) : List String :=
  if program = "" then []
  else if program.toList.contains '/' then [program]
  else (programDirs env).map fun dir => if dir = "" then program else Path.join dir program

/-- Whether the file that a path means can be started, in at most so many steps from a script to
its interpreter.  A file that names no interpreter is a script of the standard shell. -/
def startableIn (t : FileTree) (dir : String) : Nat → String → Except FileError Unit
  | 0, _ => .error .tooManyLinks
  | steps + 1, path =>
    match t.node (Path.join dir path) with
    | .error e => .error e
    | .ok (.file (.utility _) true) => .ok ()
    | .ok (.file content true) =>
      match Machine.interpreter? (Text.bytewiseOf content.bytes) with
      | none => .ok ()
      | some (program, _) => startableIn t dir steps (Text.ofBytewise program)
    | .ok _ => .error .denied

/-- A path, if what it means can be started. -/
def startAt (t : FileTree) (dir path : String) : Except FileError String :=
  (startableIn t dir Machine.interpreterLimit path).map fun _ => path

/-- The first path of some with something that can be started.  One that may not be started is
only told of if there is no other. -/
def firstStart (t : FileTree) (dir : String) (denied : Bool) :
    List String → Except FileError String
  | [] => .error (if denied then .denied else .missing)
  | path :: rest =>
    match startAt t dir path with
    | .ok found => .ok found
    | .error e => firstStart t dir (denied || e == .denied) rest

/-- The path of the program that a name means in a directory.  A path is taken as it is. -/
def program (t : FileTree) (env : Environment) (dir name : String) :
    Except FileError String :=
  if name.toList.contains '/' then startAt t dir name
  else firstStart t dir false (candidates env name)

/-- Whether no text that a process gets has a zero character in it. -/
def textsAllowed (texts : List String) : Bool :=
  texts.all fun text => !text.toList.contains (Char.ofNat 0)

/-! ## Running -/

/-- The exit code of a program that was killed. -/
def killedCode : Int := -1

/-- The line that says that time was up. -/
def timeoutMark (x : Sandbox) : String :=
  "\n[TIMEOUT after " ++ toString (x.timeout / 1000) ++ "s]"

/-- The record of a program that was run. -/
def record (x : Sandbox) (tool : String) (argv : List String) (dir : String)
    (r : Machine.Report) : RunRecord :=
  let stdout := Text.decodeLossy r.stdout
  let stderr := Text.decodeLossy r.stderr
  { tool := tool
    cmd := argv
    cwd := dir
    exitCode := match r.conclusion with
      | .exited code => Int.ofNat code
      | .killed => killedCode
      | .timeUp => RunRecord.timeoutExit
    duration := Float.ofNat r.clock / 1000.0
    stdout := stdout
    stderr := if r.conclusion = .timeUp then stderr ++ x.timeoutMark else stderr
    payload? := detectPayload stdout }

/-- The program that begins the program in a file. -/
def starter (path : String) (argv : List String) (env : Environment) : Machine.Program :=
  Machine.Act.program do
    let words := argv.map Text.bytewise
    let vars := env.map fun (name, value) => (Text.bytewise name, Text.bytewise value)
    match ← Machine.launchFirst (Machine.launchWith Utility.utilities) words vars .missing
        [Text.bytewise path] with
    | .ok p => Machine.Act.become p
    | .error _ => return 127

/-- Runs a command line in a directory. -/
def launch (x : Sandbox) (outer : Surroundings) : Launcher := fun tool argv dir t =>
  let failed (e : ProcessError) : Attempt := ⟨t, .error e, 0⟩
  match argv with
  | [] => failed (.emptyCommand tool)
  | name :: _ =>
    let env := x.environment outer.environment
    if !textsAllowed (dir :: argv ++ env.keys ++ env.values) then failed (.zeroCharacter name)
    else
      match startDir t outer.dir dir with
      | .error e => failed (.notStarted name e)
      | .ok place =>
        match program t env place name with
        | .error e => failed (.notStarted name e)
        | .ok path =>
          let report := Machine.Task.run
            { program := starter path argv env
              tree := t
              dir := place
              limit := x.timeout
              addressSpace? := x.memoryLimit?.map fun mb => mb * 1024 * 1024 }
          ⟨report.tree, .ok (x.record tool argv dir report), report.clock⟩

end Sandbox

end LintLedger
