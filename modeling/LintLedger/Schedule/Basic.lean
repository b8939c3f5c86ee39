import LintLedger.Audit.Basic
import LintLedger.Schedule.Plan

/-!
# Runs over several projects

A run audits projects beside each other, a limited number at once, in this process or each in
a process of its own.  A failed project does not keep the others from being audited, unless the
run is to stop at the first failure: then no further project is started and those at work are
waited for.  An error of the store ends a run that is not to stop at failures at once.

## Main Definitions

* `Schedule.Job`, `Schedule.Job.single` -- what a run is asked to do, and one audit as a run
* `Schedule.State` -- a run at some moment
* `Schedule.launch` -- the state after starting the first projects
* `Schedule.deliver`, `Schedule.deliverChild` -- the state after a tool or a process has ended
* `Schedule.result` -- what a run came to

## Design Notes

As with a single audit, the order in which things end is not part of a run: it is a list of
deliveries.  What may be delivered is `State.inFlight`.
-/

namespace LintLedger

/-- What became of one project. -/
structure ProjectOutcome where
  project : String
  /-- Present if the project was audited in this process and its audit came to an end. -/
  summary? : Option Summary
  exitCode : Int

namespace Schedule

/-- What a run is asked to do. -/
structure Job where
  projects : List String
  /-- How a project is audited in this process. -/
  audit : String → Audit.Job
  /-- Whether each project is audited in a process of its own. -/
  apart : Bool
  /-- How many projects are at work at once. -/
  outer : Nat
  stopOnError : Bool
  /-- How many tools a project stands for. -/
  units : Nat

/-- The run that does one audit. -/
def Job.single (audit : Audit.Job) : Job where
  projects := [audit.target]
  audit := fun _ => audit
  apart := false
  outer := 1
  stopOnError := audit.stopOnError
  units := audit.tools.length

/-- How a project is audited. -/
inductive Work where
  | here (state : Audit.State)
  | child

/-- A project at work. -/
structure Active where
  index : Nat
  project : String
  work : Work

/-- A run at some moment. -/
structure State where
  /-- Projects that were not started, by their places in the list. -/
  pending : List (Nat × String)
  active : List Active
  done : List (Nat × ProjectOutcome)
  /-- The first error, if the run ends with one. -/
  error? : Option AuditError
  records : Records

/-! ## Ending a project -/

/-- Takes the end of a project that is no longer at work. -/
def settle (job : Job) (index : Nat) (project : String)
    (outcome : Except AuditError ProjectOutcome) (s : State) : State :=
  match outcome with
  | .ok o => { s with done := s.done ++ [(index, o)] }
  | .error e =>
    if job.stopOnError then
      { s with error? := some (s.error?.getD e), pending := [] }
    else
      match e with
      | .storage _ => { s with error? := some e, pending := [], active := [] }
      | e => { s with done := s.done ++ [(index, ⟨project, none, e.exitCode⟩)] }

/-- The outcome of a project that was audited in this process. -/
def outcomeHere (project : String) (r : Except AuditError Summary) :
    Except AuditError ProjectOutcome :=
  r.map fun summary => ⟨project, some summary, 0⟩

/-- Puts an audit back to work, or takes its end. -/
def place (job : Job) (before : List Active) (index : Nat) (project : String)
    (m : Audit.Moment) (after : List Active) (s : State) : State :=
  match m.1.outcome? with
  | none =>
    { s with active := before ++ ⟨index, project, .here m.1⟩ :: after, records := m.2 }
  | some r =>
    settle job index project (outcomeHere project r)
      { s with active := before ++ after, records := m.2 }

/-! ## Starting projects -/

/-- Starts a project. -/
def begin (job : Job) (now index : Nat) (project : String) (s : State) : State :=
  if job.apart then { s with active := s.active ++ [⟨index, project, .child⟩] }
  else place job s.active index project (Audit.launch (job.audit project) now s.records) [] s

/-- Starts projects while there is room and nothing has ended the run. -/
def start (job : Job) (now : Nat) : List (Nat × String) → State → State
  | [], s => { s with pending := [] }
  | (index, project) :: rest, s =>
    if s.error?.isSome then { s with pending := [] }
    else if job.outer ≤ s.active.length then { s with pending := (index, project) :: rest }
    else start job now rest (begin job now index project s)

/-- Starts as many projects as may be at work. -/
def fill (job : Job) (now : Nat) (s : State) : State := start job now s.pending s

/-- Begins a run. -/
def launch (job : Job) (now : Nat) (records : Records) : State :=
  fill job now
    { pending := job.projects.zipIdx.map fun (project, index) => (index, project)
      active := []
      done := []
      error? := none
      records := records }

/-! ## Deliveries -/

/-- What is at work: a tool on a project, or a process for a project. -/
abbrev Slot := Nat × Option Tool

/-- What is at work on a project. -/
def Active.units (a : Active) : List Slot :=
  match a.work with
  | .here s => s.running.map fun tool => (a.index, some tool)
  | .child => [(a.index, none)]

/-- What is at work in a run. -/
def State.inFlight (s : State) : List Slot := s.active.flatMap Active.units

/-- The projects before and after the one with an index, and that one. -/
def split? (index : Nat) : List Active → Option (List Active × Active × List Active)
  | [] => none
  | a :: rest =>
    if a.index = index then some ([], a, rest)
    else (split? index rest).map fun (before, b, after) => (a :: before, b, after)

/-- Delivers the result of a tool on a project. -/
def deliver (job : Job) (now index : Nat) (tool : Tool) (result : Execution) (s : State) :
    State :=
  match split? index s.active with
  | some (before, ⟨_, project, .here audit⟩, after) =>
    fill job now <| place job before index project
      (Audit.deliver (job.audit project) now tool result (audit, s.records)) after s
  | _ => s

/-- The event about a project that was audited in a process of its own. -/
def childEvent (job : Job) (project : String) (code : Int) : Event where
  project := project
  tool := allTools
  kind := if code = 0 then .completed else .completedWithErrors
  exit? := some code
  units? := some job.units

/-- Delivers the exit code of the process for a project. -/
def deliverChild (job : Job) (now index : Nat) (code : Int) (s : State) : State :=
  match split? index s.active with
  | some (before, ⟨_, project, .child⟩, after) =>
    let outcome : Except AuditError ProjectOutcome :=
      if code ≠ 0 ∧ job.stopOnError then .error (.project project code)
      else .ok ⟨project, none, code⟩
    fill job now <| settle job index project outcome
      { s with
          active := before ++ after
          records := s.records.add project (.event (childEvent job project code)) }
  | _ => s

/-- What a run came to: the outcomes of the projects in their order, or the error that ended
the run. -/
def result (s : State) : Except AuditError (List ProjectOutcome) :=
  match s.error? with
  | some e => .error e
  | none => .ok ((s.done.mergeSort fun a b => a.1 ≤ b.1).map (·.2))

end Schedule

end LintLedger
