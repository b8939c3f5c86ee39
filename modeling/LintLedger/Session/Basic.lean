import LintLedger.Audit.Summary
import LintLedger.CommandLine.Grammar
import LintLedger.Process.Tool
import LintLedger.Store.Export
import LintLedger.Store.Open
import LintLedger.Timestamp

/-!
# Sessions

A session is one run of the program: a command line is carried out on a file tree and leaves
another tree, an exit code, what was printed and what was said on standard error.

## Main Definitions

* `Host` -- what a session cannot change
* `World` -- what a session changes
* `Session` -- what a session leaves
* `SessionError` -- why a session ends early
-/

namespace LintLedger

/-- What a session cannot change. -/
structure Host where
  surroundings : Surroundings
  /-- The time of the session. -/
  now : Timestamp
  /-- How tools are run under some settings. -/
  launcher : Settings → Launcher

/-- What a session changes. -/
structure World where
  tree : FileTree
  /-- The lines on standard error. -/
  messages : List String
  /-- The number of the next process. -/
  nextProcess : Nat

/-- What a session leaves. -/
structure Session where
  world : World
  exitCode : Nat
  /-- The lines on standard output. -/
  output : List String
  /-- The time it took. -/
  milliseconds : Nat

/-- Why a session ends early. -/
inductive SessionError where
  | settings (e : SettingsError)
  | opening (database : String)
  | store (e : StoreError)
  | audit (e : AuditError)
  | process (e : ProcessError)
  | export (e : ExportError)
  | writing (file : String) (cause : FileError)
  | notTimestamp (text : String)
deriving DecidableEq, Repr

namespace SessionError

/-- The message of an error with its cause. -/
def message : SessionError → String
  | .settings e => e.message
  | .opening database => "opening database " ++ database
  | .store e => e.message
  | .audit e => e.message
  | .process e => ": ".intercalate (e.message :: e.cause?.toList)
  | .export e => e.fullMessage
  | .writing file cause => "writing " ++ file ++ ": " ++ cause.message
  | .notTimestamp text => "\x60" ++ text ++ "\x60 is not an RFC 3339 timestamp"

/-- The exit code that an error gives a session. -/
def exitCode : SessionError → Nat
  | .audit e => e.exitCode
  | _ => 1

end SessionError

namespace World

/-- The world with something said on standard error; a text of several lines is several
lines. -/
def say (w : World) (text : String) : World :=
  { w with messages := w.messages ++ Text.splitOnChar (· == '\n') text }

/-- A session that ends well. -/
def done (w : World) (output : List String) : Session := ⟨w, 0, output, 0⟩

/-- A session that ends early. -/
def fail (w : World) (e : SessionError) : Session :=
  ⟨w.say ("error: " ++ e.message), e.exitCode, [], 0⟩

end World

/-- A path without links from the root, or the path as it is if it means nothing. -/
def canonical (t : FileTree) (dir path : String) : String :=
  match t.locate (Path.join dir path) with
  | .error _ => path
  | .ok place => if (t.at? place).isSome then "/" ++ "/".intercalate place else path

/-- The sandbox of tools under some settings. -/
def Settings.sandbox (s : Settings) : Sandbox where
  timeout := 1000 * s.execution.timeout
  memoryLimit? := s.execution.memoryLimit?
  searchFirst := s.tools.node.binDir?.toList

/-- A host whose tools run in sandboxes. -/
def Host.sandboxed (surroundings : Surroundings) (now : Timestamp) : Host where
  surroundings := surroundings
  now := now
  launcher := fun settings => settings.sandbox.launch surroundings

/-- Opens the database of some settings and makes sure that it has its tables. -/
def openDatabase (host : Host) (settings : Settings) (w : World) :
    World × Except SessionError Store :=
  let name := settings.database.path
  let dir := host.surroundings.dir
  match openStore w.tree dir name with
  | (tree, none) => ({ w with tree := tree }, .error (.opening name))
  | (tree, some store) =>
    ({ w with tree := saveStore tree dir name store.seed }, .ok store.seed)

/-- Puts a store into the database of some settings. -/
def saveDatabase (host : Host) (settings : Settings) (store : Store) (w : World) : World :=
  { w with tree := saveStore w.tree host.surroundings.dir settings.database.path store }

end LintLedger
