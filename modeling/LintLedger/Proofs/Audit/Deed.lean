import LintLedger.Audit.Basic
import Mathlib.Data.List.Induction

/-!
# Audits as histories of deeds

Starting tools, taking results and ending an audit are functions that do several things at
once.  Here an audit is cut into the single things that it does, its deeds: a tool is started,
has ended, its report is read and stored.  A deed changes the state of its audit in one of
seven ways and leaves its notes in the records; a path is a list of deeds with both.

The state and the records are kept apart because other audits of a run write to the same
records, while nothing else touches the state.

## Main Definitions

* `Audit.verdict` -- what the result of a tool means
* `Audit.Deed` -- one thing that an audit does
* `Audit.Step`, `Audit.Steps` -- how deeds change the state of an audit
* `Audit.Marked` -- how deeds change the records
* `Audit.Path` -- a history of deeds that leads from one moment to another

## Main Statements

* `Audit.Steps.trans`, `Audit.Marked.trans`, `Audit.Path.trans` -- histories are put together
* `Audit.Marked.events` -- the events in the records are those of the deeds
-/

namespace LintLedger

/-- The event of a note, if it is one. -/
def Note.event? : Note → Option Event
  | .event e => some e
  | _ => none

/-- The events of the records are those among their notes. -/
theorem Records.events_eq (r : Records) : r.events = r.notes.filterMap fun n => n.2.event? := by
  unfold Records.events
  congr

namespace Audit

/-! ## Deeds -/

/-- What the result of a tool means: the run, if the tool went well, or why it failed. -/
def verdict (a : Analyzer) : Execution → Except ToolFailure RunRecord
  | .ran run => if wentWell a run then .ok run else .error (failureOf run)
  | other => .error ⟨.crashed, -1, crashMessage other⟩

/-- The failure of a report that could not be read. -/
def faultOf (run : RunRecord) (fault : ReportFault) : ToolFailure :=
  ⟨.parsingFailed, run.exitCode, faultMessage fault⟩

/-- One thing that an audit does. -/
inductive Deed where
  | started (tool : Tool)
  /-- A tool went well; its report waits to be read. -/
  | finished (tool : Tool) (run : RunRecord)
  /-- A tool did not go well. -/
  | broke (tool : Tool) (result : Execution) (failure : ToolFailure)
  /-- A report could not be read. -/
  | refused (tool : Tool) (run : RunRecord) (fault : ReportFault)
  /-- A report was read and its findings were stored, some of them as new rows. -/
  | stored (tool : Tool) (run : RunRecord) (findings : List Finding) (inserted : Nat)
  | cancelled (tool : Tool)
  /-- A tool ended after the audit was stopped. -/
  | discarded (tool : Tool)

/-- An event about a tool that has nothing but its kind. -/
def toolEvent (job : Job) (tool : Tool) (kind : EventKind) : Event where
  project := job.target
  tool := tool.name
  kind := kind

namespace Deed

/-- The tool that a deed is about. -/
def tool : Deed → Tool
  | .started t | .finished t _ | .broke t _ _ | .refused t _ _ | .stored t _ _ _
  | .cancelled t | .discarded t => t

/-- The failure of the tool, for a deed that is one. -/
def failure? : Deed → Option ToolFailure
  | .broke _ _ failure => some failure
  | .refused _ run fault => some (faultOf run fault)
  | _ => none

/-- What a deed leaves in the notes. -/
def notes (job : Job) : Deed → List Note
  | .started t => [.event (toolEvent job t .submitted)]
  | .finished _ run => [.artifact run, .event (.ofRun job.target .finished run)]
  | .broke _ (.ran run) failure =>
    [.artifact run,
      .event { Event.ofRun job.target .failed run with message? := some failure.message }]
  | .broke t _ failure =>
    [.event { toolEvent job t .crashed with message? := some failure.message }]
  | .refused t run fault =>
    [.event (toolEvent job t .processingStarted),
      .event
        { Event.ofRun job.target .parsingFailed run with
          message? := some (faultOf run fault).message }]
  | .stored t _ findings inserted =>
    [.event (toolEvent job t .processingStarted),
      .event
        { toolEvent job t .processingFinished with
          rows? := some findings.length, inserted? := some inserted }]
  | .cancelled t => [.event (toolEvent job t .cancelled)]
  | .discarded _ => []

/-- The events of a deed. -/
def events (job : Job) (d : Deed) : List Event := (d.notes job).filterMap Note.event?

end Deed

/-- What is known of the scan that stores the findings of a tool. -/
def Job.scan (job : Job) (tool : Tool) : ScanInfo :=
  ⟨job.timestamp, some tool.name, some job.target⟩

namespace Deed

/-- The store after a deed. -/
def store? (job : Job) (d : Deed) (before : Option Store) : Option Store :=
  match d with
  | .stored t _ findings _ => before.map fun s => (s.persist job.mode (job.scan t) findings).1
  | _ => before

/-- The records after a deed. -/
def mark (job : Job) (d : Deed) (r : Records) : Records where
  store? := d.store? job r.store?
  notes := r.notes ++ (d.notes job).map fun n => (job.anchor, n)

/-- Whether the number of new rows that a deed tells is that of the store; without a store no
row is new. -/
def Counted (job : Job) (d : Deed) (before : Option Store) : Prop :=
  match d with
  | .stored t _ findings inserted =>
    match before with
    | some s => ∃ id, (s.persist job.mode (job.scan t) findings).2 = .ok (id, inserted)
    | none => inserted = 0
  | _ => True

end Deed

/-! ## Steps of the state -/

/-- The summary with the time that a result took. -/
def timed (tool : Tool) : Execution → Summary → Summary
  | .ran run, sum => sum.addDuration tool run.duration
  | _, sum => sum

/-- The state once a running tool has ended. -/
def State.ended (a : Analyzer) (tool : Tool) (result : Execution) (s : State) : State :=
  settleComplexity a (verdict a result)
    { s with running := s.running.erase tool, summary := timed tool result s.summary }

/-- The state after a failure of a tool; what is pending then is yet to be cancelled. -/
def State.failed (job : Job) (tool : Tool) (failure : ToolFailure) (s : State) : State :=
  { s with
      summary := s.summary.addFailure tool failure
      stopped? := if job.stopOnError then some (tool, failure) else s.stopped? }

namespace State

variable (s : State) (a : Analyzer) (job : Job) (tool : Tool) (res : Execution)
  (failure : ToolFailure)

/-- The end of a tool takes it from those that run, counts its time and may settle the complexity;
nothing else changes. -/
@[simp] theorem ended_pending : (s.ended a tool res).pending = s.pending := by
  unfold ended settleComplexity
  split <;> rfl

@[simp] theorem ended_running : (s.ended a tool res).running = s.running.erase tool := by
  unfold ended settleComplexity
  split <;> rfl

@[simp] theorem ended_deferred : (s.ended a tool res).deferred = s.deferred := by
  unfold ended settleComplexity
  split <;> rfl

@[simp] theorem ended_stopped? : (s.ended a tool res).stopped? = s.stopped? := by
  unfold ended settleComplexity
  split <;> rfl

@[simp] theorem ended_outcome? : (s.ended a tool res).outcome? = s.outcome? := by
  unfold ended settleComplexity
  split <;> rfl

/-- The time of the tool is counted however it ended. -/
@[simp] theorem ended_summary : (s.ended a tool res).summary = timed tool res s.summary := by
  unfold ended settleComplexity
  split <;> rfl

/-- A failure may stop the audit; that what is pending then is cancelled is a deed for each tool. -/
@[simp] theorem failed_pending : (s.failed job tool failure).pending = s.pending := rfl

@[simp] theorem failed_running : (s.failed job tool failure).running = s.running := rfl

@[simp] theorem failed_deferred : (s.failed job tool failure).deferred = s.deferred := rfl

@[simp] theorem failed_outcome? : (s.failed job tool failure).outcome? = s.outcome? := rfl

@[simp] theorem failed_awaiting : (s.failed job tool failure).awaiting = s.awaiting := rfl

@[simp] theorem failed_complexity? : (s.failed job tool failure).complexity? = s.complexity? := rfl

/-- A failure is counted whether it stops the audit or not. -/
@[simp] theorem failed_summary :
    (s.failed job tool failure).summary = s.summary.addFailure tool failure := rfl

end State

/-- Whether a run that went well is read: its reader does not use the complexity document, or
that is settled, or no other tool is left. -/
def State.Reads (s : State) (a : Analyzer) : Prop :=
  a.usesComplexity = true → s.awaiting = true → s.pending = [] ∧ s.running = []

/-- What the reader of a report is told of the place of its run, and of the complexity. -/
def Job.context (job : Job) (complexity? : Option Json) (run : RunRecord) : PathContext :=
  PathContext.ofRun run (some job.anchor) complexity?

/-- The changes that deeds make to the state of an audit, where `result` says how each tool
ends. -/
inductive Step (job : Job) (result : Tool → Execution) : State → Deed → State → Prop where
  | start {s : State} {tool : Tool} {rest : List Tool} :
      s.stopped? = none → s.pending = tool :: rest → s.running.length < job.workers →
      Step job result s (.started tool)
        { s with pending := rest, running := s.running ++ [tool] }
  | finish {s : State} {tool : Tool} {run : RunRecord} :
      s.stopped? = none → tool ∈ s.running →
      verdict (job.analyzer tool) (result tool) = .ok run →
      Step job result s (.finished tool run)
        { s.ended (job.analyzer tool) tool (result tool) with
            deferred := s.deferred ++ [(tool, run)] }
  | breakOff {s : State} {tool : Tool} {failure : ToolFailure} :
      s.stopped? = none → tool ∈ s.running →
      verdict (job.analyzer tool) (result tool) = .error failure →
      Step job result s (.broke tool (result tool) failure)
        ((s.ended (job.analyzer tool) tool (result tool)).failed job tool failure)
  | refuse {s : State} {tool : Tool} {run : RunRecord} {fault : ReportFault}
      {front back : List (Tool × RunRecord)} :
      s.stopped? = none → s.deferred = front ++ (tool, run) :: back →
      s.Reads (job.analyzer tool) →
      (job.analyzer tool).read run (job.context s.complexity? run) = .error fault →
      Step job result s (.refused tool run fault)
        ({ s with deferred := front ++ back }.failed job tool (faultOf run fault))
  | store {s : State} {tool : Tool} {run : RunRecord} {findings : List Finding} {inserted : Nat}
      {front back : List (Tool × RunRecord)} :
      s.stopped? = none → s.deferred = front ++ (tool, run) :: back →
      s.Reads (job.analyzer tool) →
      (job.analyzer tool).read run (job.context s.complexity? run) = .ok findings →
      Step job result s (.stored tool run findings inserted)
        { s with
            deferred := front ++ back
            summary := s.summary.addResult tool findings.length inserted }
  | cancel {s : State} {tool : Tool} {rest : List Tool} :
      s.stopped?.isSome → s.pending = tool :: rest →
      Step job result s (.cancelled tool) { s with pending := rest }
  | discard {s : State} {tool : Tool} :
      s.stopped?.isSome → tool ∈ s.running →
      Step job result s (.discarded tool) { s with running := s.running.erase tool }

/-- The changes that a history of deeds makes to the state of an audit. -/
inductive Steps (job : Job) (result : Tool → Execution) (start : State) :
    List Deed → State → Prop where
  | nil : Steps job result start [] start
  | snoc {s s' : State} {history : List Deed} {d : Deed} :
      Steps job result start history s → Step job result s d s' →
      Steps job result start (history ++ [d]) s'

/-- The changes that a history of deeds makes to the records. -/
inductive Marked (job : Job) (start : Records) : List Deed → Records → Prop where
  | nil : Marked job start [] start
  | snoc {r : Records} {history : List Deed} {d : Deed} :
      Marked job start history r → d.Counted job r.store? →
      Marked job start (history ++ [d]) (d.mark job r)

/-- A history of deeds that leads from one moment of an audit to another. -/
structure Path (job : Job) (result : Tool → Execution) (m : Moment) (history : List Deed)
    (m' : Moment) : Prop where
  steps : Steps job result m.1 history m'.1
  marked : Marked job m.2 history m'.2

variable {job : Job} {result : Tool → Execution}

/-- Histories of the state are put together. -/
theorem Steps.trans {s s' s'' : State} {history more : List Deed}
    (first : Steps job result s history s') (second : Steps job result s' more s'') :
    Steps job result s (history ++ more) s'' := by
  induction second with
  | nil => rwa [List.append_nil]
  | snoc _ step ih =>
    rw [← List.append_assoc]
    exact ih.snoc step

/-- Histories of the records are put together. -/
theorem Marked.trans {r r' r'' : Records} {history more : List Deed}
    (first : Marked job r history r') (second : Marked job r' more r'') :
    Marked job r (history ++ more) r'' := by
  induction second with
  | nil => rwa [List.append_nil]
  | snoc _ counted ih =>
    rw [← List.append_assoc]
    exact ih.snoc counted

/-- A history of the state may be cut anywhere. -/
theorem Steps.split {s s'' : State} {history more : List Deed}
    (steps : Steps job result s (history ++ more) s'') :
    ∃ s', Steps job result s history s' ∧ Steps job result s' more s'' := by
  -- histories grow at their end, so the part behind the cut is taken back from there
  induction more using List.reverseRecOn generalizing s'' with
  | nil => exact ⟨s'', by rwa [List.append_nil] at steps, .nil⟩
  | append_singleton more d ih =>
    rw [← List.append_assoc] at steps
    -- the index of a step is no variable, so it is named before the cases are split
    generalize hall : (history ++ more) ++ [d] = all at steps
    cases steps with
    | nil => simp at hall
    | snoc before step =>
      obtain ⟨rfl, heq⟩ := List.append_inj' hall rfl
      cases heq
      obtain ⟨s', hfirst, hsecond⟩ := ih before
      exact ⟨s', hfirst, hsecond.snoc step⟩

/-- A history of the records may be cut anywhere. -/
theorem Marked.split {r r'' : Records} {history more : List Deed}
    (marked : Marked job r (history ++ more) r'') :
    ∃ r', Marked job r history r' ∧ Marked job r' more r'' := by
  induction more using List.reverseRecOn generalizing r'' with
  | nil => exact ⟨r'', by rwa [List.append_nil] at marked, .nil⟩
  | append_singleton more d ih =>
    rw [← List.append_assoc] at marked
    generalize hall : (history ++ more) ++ [d] = all at marked
    cases marked with
    | nil => simp at hall
    | snoc before counted =>
      obtain ⟨rfl, heq⟩ := List.append_inj' hall rfl
      cases heq
      obtain ⟨r', hfirst, hsecond⟩ := ih before
      exact ⟨r', hfirst, hsecond.snoc counted⟩

namespace Path

/-- Nothing done leads from a moment to itself. -/
theorem refl (m : Moment) : Path job result m [] m := ⟨.nil, .nil⟩

/-- Paths are put together. -/
theorem trans {m m' m'' : Moment} {history more : List Deed}
    (first : Path job result m history m') (second : Path job result m' more m'') :
    Path job result m (history ++ more) m'' :=
  ⟨first.steps.trans second.steps, first.marked.trans second.marked⟩

/-- A path may be cut anywhere. -/
theorem split {m m'' : Moment} {history more : List Deed}
    (path : Path job result m (history ++ more) m'') :
    ∃ m', Path job result m history m' ∧ Path job result m' more m'' := by
  obtain ⟨s', hsteps, hsteps'⟩ := path.steps.split
  obtain ⟨r', hmarked, hmarked'⟩ := path.marked.split
  exact ⟨(s', r'), ⟨hsteps, hmarked⟩, ⟨hsteps', hmarked'⟩⟩

/-- A path of one deed. -/
theorem single {m m' : Moment} {d : Deed} (step : Step job result m.1 d m'.1)
    (counted : d.Counted job m.2.store?) (records : m'.2 = d.mark job m.2) :
    Path job result m [d] m' :=
  ⟨Steps.nil.snoc step, records ▸ Marked.nil.snoc counted⟩

end Path

/-! ## What the records show of a history -/

/-- **The events in the records are those of the deeds**, in their order. -/
theorem Marked.events {r r' : Records} {history : List Deed} (marked : Marked job r history r') :
    r'.events = r.events ++ history.flatMap (Deed.events job) := by
  induction marked with
  | nil => simp
  | snoc _ _ ih =>
    rw [Records.events_eq] at ih ⊢
    simp only [Deed.mark, List.filterMap_append, ih, List.filterMap_map, List.flatMap_append,
      List.flatMap_singleton, List.append_assoc]
    rfl

end Audit

end LintLedger
