import LintLedger.Analyzer.Registry
import LintLedger.FileTree.Basic
import LintLedger.RunRecord

/-!
# Running tools

A tool runs as a process of its own.  Whatever the process does, and however it ends, gives a
run record; only a process that cannot be started or collected gives an error.

A program is named by a path or by a bare name.  A bare name is looked for in the directories
of the search path, and in some directories before them.

## Main Definitions

* `ProcessError` -- why there is no run record
* `Execution` -- how an attempt to run a tool ended
* `searchDirs` -- the directories of a search path
* `isInstalled` -- whether a program is found
* `workingDir` -- the directory in which a tool runs on a target
-/

namespace LintLedger

/-- Why a process gives no run record. -/
inductive ProcessError where
  /-- There is no program to start. -/
  | emptyCommand (tool : String)
  /-- The program could not be started. -/
  | notStarted (program : String) (why : FileError)
  /-- A text that the process was to get has a zero character in it. -/
  | zeroCharacter (program : String)
  /-- The process was gone before it could be collected. -/
  | notCollected (program : String)
  /-- Something around the process failed. -/
  | failed (message : String)
deriving DecidableEq, Repr

/-- The message of an error. -/
def ProcessError.message : ProcessError → String
  | .emptyCommand tool => "empty command line for " ++ tool
  | .notStarted program why => "failed to spawn \x60" ++ program ++ "\x60: " ++ why.message
  | .zeroCharacter program =>
    "failed to spawn \x60" ++ program ++ "\x60: nul byte found in provided data"
  | .notCollected program =>
    "failed to wait for \x60" ++ program ++ "\x60: No child processes (os error 10)"
  | .failed message => message

/-- The message of the cause of an error, if it has one. -/
def ProcessError.cause? : ProcessError → Option String
  | .emptyCommand _ => none
  | .notStarted _ why => some why.message
  | .zeroCharacter _ => some "nul byte found in provided data"
  | .notCollected _ => some "No child processes (os error 10)"
  | .failed _ => none

/-- How an attempt to run a tool ended. -/
inductive Execution where
  /-- The tool ran. -/
  | ran (run : RunRecord)
  /-- There is no run record. -/
  | impossible (error : ProcessError)
  /-- The attempt itself broke down. -/
  | brokeDown (text : String)

/-! ## Where programs are found -/

/-- The directories of a search path; a path with nothing in it names one directory, the
current one. -/
def searchDirs (path : String) : List String := Text.splitOnChar (· == ':') path

/-- Whether a path, seen from a directory, means a file. -/
def isFileFrom (t : FileTree) (cwd path : String) : Bool := t.isFile (Path.join cwd path)

/-- Whether a program is found: a path with several components means a file, a bare name is
looked for in the directories. -/
def isInstalled (t : FileTree) (cwd : String) (dirs : List String) (program : String) : Bool :=
  if 1 < (Path.components program).length then isFileFrom t cwd program
  else dirs.any fun dir => isFileFrom t cwd (Path.join dir program)

/-- Whether the program of a tool is found. -/
def hasProgram (t : FileTree) (cwd : String) (dirs : List String) (a : Analyzer) : Bool :=
  match a.command "." with
  | [] => false
  | program :: _ => isInstalled t cwd dirs program

/-- The directory in which a tool runs on a target: the target if it is a directory, else the
directory that holds it. -/
def workingDir (t : FileTree) (cwd target : String) : String :=
  if t.isDir (Path.join cwd target) then target else (Path.parent? target).getD "."

end LintLedger
