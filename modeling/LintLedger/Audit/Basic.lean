import LintLedger.Audit.Summary
import LintLedger.Process.Basic
import LintLedger.RunRecord
import LintLedger.Text.Quoted

/-!
# Audits

An audit runs tools on one project, a limited number at once, and takes the results in the
order in which the tools end.  A result is read and stored at once, unless its reader needs
the complexity document of another tool of the audit: then it waits until that tool has ended,
in whatever way.

An audit that is to stop at the first failure starts nothing after it; tools that are running
then are waited for, and their results are thrown away.

Every step is reported as an event.  The events are shown while the audit runs and are kept in
its debug log.

## Main Definitions

* `EventKind`, `Event` -- events, each of a kind with a name
* `Event.toJson` -- the members of an event that are present
* `Audit.Job` -- what an audit is asked to do
* `Audit.State` -- an audit at some moment
* `Records` -- the store and the notes that all audits of a run share
* `Audit.launch` -- the state after starting the first tools
* `Audit.deliver` -- the state after one running tool has ended

## Design Notes

The order in which tools end is not part of an audit: whoever runs one delivers the results.
A run is therefore a list of deliveries, and a statement about every order of completion is a
statement about every such list.
-/

namespace LintLedger

/-! ## Events -/

/-- The kinds of events. -/
inductive EventKind where
  | submitted
  | finished
  | failed
  | crashed
  | cancelled
  | parsingFailed
  | processingStarted
  | processingFinished
  | completed
  | completedWithErrors
deriving DecidableEq, Repr

/-- The name of a kind of event. -/
def EventKind.name : EventKind → String
  | .submitted => "submitted"
  | .finished => "finished"
  | .failed => "failed"
  | .crashed => "crashed"
  | .cancelled => "cancelled"
  | .parsingFailed => "parsing_failed"
  | .processingStarted => "processing_started"
  | .processingFinished => "processing_finished"
  | .completed => "completed"
  | .completedWithErrors => "completed_with_errors"

/-- The tool named by events about a whole project. -/
def allTools : String := "__all__"

/-- One event. -/
structure Event where
  project : String
  tool : String
  kind : EventKind
  exit? : Option Int := none
  duration? : Option Float := none
  message? : Option String := none
  /-- Findings in the report. -/
  rows? : Option Nat := none
  /-- Findings that are new in the store. -/
  inserted? : Option Nat := none
  /-- Tools that the event stands for, where they were not reported one by one. -/
  units? : Option Nat := none

namespace Event

/-- An event about a run, with its exit code and duration. -/
def ofRun (project : String) (kind : EventKind) (run : RunRecord) : Event where
  project := project
  tool := run.tool
  kind := kind
  exit? := some run.exitCode
  duration? := some run.duration

/-- A member, unless its value is absent. -/
def optional (key : String) : Option Json → List (String × Json)
  | some v => [(key, v)]
  | none => []

/-- The event as a document; absent values have no member. -/
def toJson (timestamp : String) (e : Event) : Json :=
  .obj ([("ts", .str timestamp), ("project", .str e.project), ("tool", .str e.tool),
      ("event", .str e.kind.name)]
    ++ optional "exit" (e.exit?.map Json.ofInt)
    ++ optional "duration_s" (e.duration?.map Json.ofFloat)
    ++ optional "message" (e.message?.map Json.str)
    ++ optional "rows" (e.rows?.map Json.ofNat)
    ++ optional "inserted" (e.inserted?.map Json.ofNat)
    ++ optional "units" (e.units?.map Json.ofNat))

end Event

/-! ## Notes and records -/

/-- Something an audit wants to be known. -/
inductive Note where
  /-- The audit began. -/
  | opened
  | event (e : Event)
  /-- A tool ran. -/
  | artifact (run : RunRecord)
  /-- The audit ended. -/
  | closed (summary : Summary)

/-- What the audits of a run share. -/
structure Records where
  /-- Where findings go; without it tools run and nothing is stored. -/
  store? : Option Store
  /-- The notes so far, each with the anchor of its audit. -/
  notes : List (String × Note)

/-- The records with one more note. -/
def Records.add (r : Records) (anchor : String) (note : Note) : Records :=
  { r with notes := r.notes ++ [(anchor, note)] }

/-- The events among the notes. -/
def Records.events (r : Records) : List Event :=
  r.notes.filterMap fun n => match n.2 with
    | .event e => some e
    | _ => none

namespace Audit

/-- What an audit is asked to do. -/
structure Job where
  /-- The project that is audited. -/
  target : String
  /-- The project that stored paths are cut to. -/
  anchor : String
  tools : List Tool
  analyzer : Tool → Analyzer
  /-- How many tools may run at once. -/
  jobs : Nat
  stopOnError : Bool
  mode : InsertMode
  /-- The time that scans are stored with. -/
  timestamp : String

/-- How many tools run at once, at least one. -/
def Job.workers (job : Job) : Nat := max 1 (min job.jobs job.tools.length)

/-- An audit at some moment. -/
structure State where
  /-- Tools that were not started. -/
  pending : List Tool
  /-- Tools that run, in the order in which they were started. -/
  running : List Tool
  /-- Whether the tool that provides the complexity document has yet to end. -/
  awaiting : Bool
  complexity? : Option Json
  /-- Runs that wait for the complexity document. -/
  deferred : List (Tool × RunRecord)
  /-- The failure that stopped the audit. -/
  stopped? : Option (Tool × ToolFailure)
  /-- How the audit ended, once it has. -/
  outcome? : Option (Except AuditError Summary)
  summary : Summary
  /-- Milliseconds on the clock when the audit began. -/
  since : Nat

/-- An audit and the records after a step. -/
abbrev Moment := State × Records

/-- Notes an event. -/
def tell (job : Job) (e : Event) (m : Moment) : Moment :=
  (m.1, m.2.add job.anchor (.event e))

/-- Notes an event about a tool that has nothing but its kind. -/
def tellTool (job : Job) (tool : Tool) (kind : EventKind) : Moment → Moment :=
  tell job { project := job.target, tool := tool.name, kind := kind }

/-! ## Starting tools -/

/-- Starts at most `free` of the pending tools. -/
def start (job : Job) : Nat → Moment → Moment
  | 0, m => m
  | free + 1, (s, r) =>
    match s.pending with
    | [] => (s, r)
    | tool :: rest =>
      start job free (tellTool job tool .submitted
        ({ s with pending := rest, running := s.running ++ [tool] }, r))

/-- Starts as many tools as may run, unless the audit was stopped. -/
def fill (job : Job) (m : Moment) : Moment :=
  if m.1.stopped?.isSome then m else start job (job.workers - m.1.running.length) m

/-! ## Taking results -/

/-- The failure of a tool that ran. -/
def failureOf (run : RunRecord) : ToolFailure :=
  ⟨.failed, run.exitCode, run.failureMessage⟩

/-- Whether a run went well: its exit code is accepted and its time was not up. -/
def wentWell (a : Analyzer) (run : RunRecord) : Bool := a.accepts run.exitCode && !run.timedOut

/-- The message of an execution that gave no run record; the number of the task that broke
down is not told. -/
def crashMessage : Execution → String
  | .ran _ => ""
  | .impossible e => e.message
  | .brokeDown text => "analyzer panicked: task N panicked with message " ++ Text.quoted text

/-- The first thing done with a result: the run or the failure is noted, and the run is handed
on if it went well. -/
def receive (job : Job) (tool : Tool) (result : Execution) (m : Moment) :
    Moment × Except ToolFailure RunRecord :=
  match result with
  | .ran run =>
    let timed : Moment :=
      ({ m.1 with summary := m.1.summary.addDuration tool run.duration },
       m.2.add job.anchor (.artifact run))
    if wentWell (job.analyzer tool) run then
      (tell job (.ofRun job.target .finished run) timed, .ok run)
    else
      let failure := failureOf run
      (tell job { Event.ofRun job.target .failed run with message? := some failure.message }
        timed, .error failure)
  | other =>
    let message := crashMessage other
    (tell job
      { project := job.target, tool := tool.name, kind := .crashed, message? := some message } m,
     .error ⟨.crashed, -1, message⟩)

/-- The complexity document is settled once the tool that provides it has ended. -/
def settleComplexity (a : Analyzer) (result : Except ToolFailure RunRecord) (s : State) :
    State :=
  if a.providesComplexity then
    { s with
        awaiting := false
        complexity? := match result with
          | .ok run => run.payload?
          | .error _ => s.complexity? }
  else s

/-- The message of a report that could not be read. -/
def faultMessage : ReportFault → String
  | .refused message => message
  | .broken => "normalize panicked"

/-- Stores the findings of a report; without a store there are none that are new. -/
def keep (job : Job) (tool : Tool) (findings : List Finding) (r : Records) :
    Except StoreError (Records × Nat) :=
  match r.store? with
  | none => .ok (r, 0)
  | some store =>
    match store.persist job.mode ⟨job.timestamp, some tool.name, some job.target⟩ findings with
    | (store', .ok (_, n)) => .ok ({ r with store? := some store' }, n)
    | (_, .error e) => .error e

/-! ## Failures -/

/-- Stops the audit at a failure; what was not started is cancelled. -/
def stop (job : Job) (tool : Tool) (failure : ToolFailure) (m : Moment) : Moment :=
  m.1.pending.foldl (fun m skipped => tellTool job skipped .cancelled m)
    ({ m.1 with pending := [], stopped? := some (tool, failure) }, m.2)

/-- Takes the failure of a tool, which stops an audit that is to stop at the first. -/
def fail (job : Job) (tool : Tool) (failure : ToolFailure) (m : Moment) : Moment :=
  let failed : Moment := ({ m.1 with summary := m.1.summary.addFailure tool failure }, m.2)
  if job.stopOnError then stop job tool failure failed else failed

/-- The audit ended by an error of the store; nothing more is noted. -/
def lose (e : StoreError) (m : Moment) : Moment :=
  ({ m.1 with running := [], outcome? := some (.error (.storage e)) }, m.2)

/-! ## Reading reports -/

/-- Reads and stores the report of a run that went well.  A report that cannot be read is a
failure of the tool; an error of the store ends the audit. -/
def process (job : Job) (tool : Tool) (run : RunRecord) (m : Moment) : Moment :=
  let (s, r) := tellTool job tool .processingStarted m
  let ctx := PathContext.ofRun run (some job.anchor) s.complexity?
  match (job.analyzer tool).read run ctx with
  | .error fault =>
    let failure : ToolFailure := ⟨.parsingFailed, run.exitCode, faultMessage fault⟩
    fail job tool failure <| tell job
      { Event.ofRun job.target .parsingFailed run with message? := some failure.message } (s, r)
  | .ok findings =>
    match keep job tool findings r with
    | .error e => lose e (s, r)
    | .ok (r', inserted) =>
      tell job
        { project := job.target, tool := tool.name, kind := .processingFinished
          rows? := some findings.length, inserted? := some inserted }
        ({ s with summary := s.summary.addResult tool findings.length inserted }, r')

/-- Whether nothing more is to be read: the audit was stopped or has ended. -/
def State.isOver (s : State) : Bool := s.stopped?.isSome || s.outcome?.isSome

/-- Reads the deferred runs in the order in which they ended. -/
def processDeferred (job : Job) : List (Tool × RunRecord) → Moment → Moment
  | [], m => m
  | (tool, run) :: rest, m =>
    let m' := process job tool run m
    if m'.1.isOver then m' else processDeferred job rest m'

/-! ## The end -/

/-- The last event and the outcome of an audit in which nothing runs any more. -/
def close (job : Job) (now : Nat) (m : Moment) : Moment :=
  let s := m.1
  let summary :=
    { s.summary.inOrder with elapsed := Float.ofNat (now - s.since) / 1000.0 }
  let last : Event :=
    match s.stopped? with
    | some (tool, failure) =>
      { project := job.target, tool := allTools, kind := .completedWithErrors
        message? := some ("stopped after " ++ tool.name ++ " " ++ failure.kind.name) }
    | none =>
      { project := job.target, tool := allTools
        kind := if summary.hasFailures then .completedWithErrors else .completed }
  let outcome : Except AuditError Summary :=
    match s.stopped? with
    | some (tool, failure) => .error (.stopped tool failure)
    | none => .ok summary
  let (s', r) := tell job last ({ s with summary := summary, outcome? := some outcome }, m.2)
  (s', r.add job.anchor (.closed summary))

/-- Ends an audit in which nothing runs any more, the deferred runs being read first. -/
def conclude (job : Job) (now : Nat) (m : Moment) : Moment :=
  if m.1.stopped?.isSome then close job now m
  else
    let m' := processDeferred job m.1.deferred ({ m.1 with deferred := [] }, m.2)
    if m'.1.outcome?.isSome then m' else close job now m'

/-- Goes on after a step: more tools are started, and the audit ends if none runs. -/
def advance (job : Job) (now : Nat) (m : Moment) : Moment :=
  if m.1.outcome?.isSome then m
  else
    let m' := fill job m
    if m'.1.running.isEmpty then conclude job now m' else m'

/-! ## Running an audit -/

/-- An audit of which nothing has happened. -/
def initial (job : Job) (now : Nat) : State where
  pending := job.tools
  running := []
  awaiting := job.tools.any fun t => (job.analyzer t).providesComplexity
  complexity? := none
  deferred := []
  stopped? := none
  outcome? := none
  summary := .blank job.target (job.tools.map Tool.name)
  since := now

/-- Begins an audit: the first tools are started. -/
def launch (job : Job) (now : Nat) (r : Records) : Moment :=
  advance job now (initial job now, r.add job.anchor .opened)

/-- Takes the result of a tool in an audit that was not stopped. -/
def take (job : Job) (tool : Tool) (result : Execution) (m : Moment) : Moment :=
  let a := job.analyzer tool
  let ((s, r), received) := receive job tool result m
  let s := settleComplexity a received s
  match received with
  | .error failure => fail job tool failure (s, r)
  | .ok run =>
    if a.usesComplexity && s.awaiting then
      ({ s with deferred := s.deferred ++ [(tool, run)] }, r)
    else process job tool run (s, r)

/-- Delivers the result of a running tool.  In an audit that was stopped it is thrown away. -/
def deliver (job : Job) (now : Nat) (tool : Tool) (result : Execution) (m : Moment) : Moment :=
  let ended : Moment := ({ m.1 with running := m.1.running.erase tool }, m.2)
  advance job now (if m.1.stopped?.isSome then ended else take job tool result ended)

end Audit

end LintLedger
