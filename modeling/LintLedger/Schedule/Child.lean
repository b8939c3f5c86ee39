import LintLedger.Schedule.Plan

/-!
# Audits in processes of their own

A project is audited in a process of its own by the same program, which is asked to audit that
directory alone with the share of jobs that the plan leaves to a project.

## Main Definitions

* `ChildSettings` -- what the process takes over from its parent
* `childArguments` -- the command line of the process
-/

namespace LintLedger

/-- What an audit in a process of its own takes over. -/
structure ChildSettings where
  config? : Option String := none
  database? : Option String := none
  debug : Bool := false
deriving DecidableEq, Repr

/-- An option with its value, if there is one. -/
def optionOf (name : String) : Option String → List String
  | some v => [name, v]
  | none => []

/-- The command line that audits one project. -/
def childArguments (child : ChildSettings) (stopOnError : Bool) (tools : List String)
    (jobs : Nat) (project : String) : List String :=
  optionOf "--config" child.config? ++ optionOf "--db" child.database?
    ++ (if child.debug then ["--debug"] else [])
    ++ ["--quiet", "audit", project, "--single-project", "--parallel", "none", "--jobs",
        toString jobs]
    ++ tools.flatMap (fun tool => ["--tool", tool])
    ++ (if stopOnError then ["--stop-on-error"] else [])

end LintLedger
