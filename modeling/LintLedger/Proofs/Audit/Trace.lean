import LintLedger.Proofs.Audit.Standing

/-!
# The trace of an audit

What an audit makes known of itself are its events.  The events about one tool are those of the
deeds about it, and behind the events of all deeds stands one event about the audit as a whole.

## Main Definitions

* `Audit.NamesTools` -- the records of runs carry the names of their tools
* `Audit.lastEvent` -- the event about the audit as a whole

## Main Statements

* `nodup_of_resolveTools` -- no tool is asked for twice
* `Audit.filter_events` -- the events about one tool
* `Audit.close_events` -- the last event of an audit
-/

namespace LintLedger

/-! ## Requests -/

/-- A list without repetitions is what is left of any list. -/
theorem nodup_firstOccurrences {α : Type} [DecidableEq α] (xs : List α) :
    (firstOccurrences xs).Nodup := by
  have hfold : ∀ kept : List α, kept.Nodup →
      (xs.foldl (fun kept x => if x ∈ kept then kept else x :: kept) kept).Nodup := by
    induction xs with
    | nil => exact fun _ h => h
    | cons x rest ih =>
      intro kept h
      rw [List.foldl_cons]
      refine ih _ ?_
      split
      · exact h
      · rename_i hx
        exact List.nodup_cons.mpr ⟨hx, h⟩
  exact List.nodup_reverse.mpr (hfold [] List.nodup_nil)

/-- No tool is asked for twice. -/
theorem nodup_of_resolveTools {names : List String} {tools : List Tool}
    (h : resolveTools names = .ok tools) : tools.Nodup := by
  unfold resolveTools at h
  split at h
  · cases h
    exact nodup_firstOccurrences _
  · cases h

namespace Audit

variable {job : Job} {result : Tool → Execution}

/-! ## Events about one tool -/

/-- The records of runs carry the names of the tools that ran. -/
def NamesTools (result : Tool → Execution) : Prop :=
  ∀ tool run, result tool = .ran run → run.tool = tool.name

theorem allTools_ne_name (t : Tool) : allTools ≠ t.name := by
  cases t <;> decide

namespace Deed

/-- The tool that a deed started. -/
def started? : Deed → Option Tool
  | .started t => some t
  | _ => none

/-- The tool that a deed cancelled. -/
def cancelled? : Deed → Option Tool
  | .cancelled t => some t
  | _ => none

end Deed

/-- The events of a deed are about its tool. -/
theorem Deed.tool_of_mem_events (hnames : NamesTools result) {d : Deed} (hd : d.Meant job result)
    {e : Event} (he : e ∈ d.events job) : e.tool = d.tool.name := by
  have hran : ∀ {tool run}, verdict (job.analyzer tool) (result tool) = .ok run →
      run.tool = tool.name := fun hverdict => hnames _ _ (eq_ran_of_verdict hverdict)
  -- an event that is made of a record has the name in the record, which is that of the tool
  simp only [events, List.mem_filterMap] at he
  obtain ⟨note, hnote, hevent⟩ := he
  cases d with
  | started t =>
    rw [notes, List.mem_singleton] at hnote
    subst hnote
    cases hevent
    rfl
  | finished t run =>
    rw [notes, List.mem_pair] at hnote
    rcases hnote with rfl | rfl <;> cases hevent
    exact hran hd
  | broke t res failure =>
    obtain ⟨rfl, -⟩ := hd
    cases hres : result t with
    | ran run =>
      rw [hres, notes, List.mem_pair] at hnote
      rcases hnote with rfl | rfl <;> cases hevent
      exact hnames t run hres
    | impossible e =>
      rw [hres, notes, List.mem_singleton] at hnote
      · subst hnote
        cases hevent
        rfl
      · exact fun run h => by cases h
    | brokeDown text =>
      rw [hres, notes, List.mem_singleton] at hnote
      · subst hnote
        cases hevent
        rfl
      · exact fun run h => by cases h
  | refused t run fault =>
    rw [notes, List.mem_pair] at hnote
    rcases hnote with rfl | rfl <;> cases hevent
    · rfl
    · exact hran hd
  | stored t run findings inserted =>
    rw [notes, List.mem_pair] at hnote
    rcases hnote with rfl | rfl <;> cases hevent <;> rfl
  | cancelled t =>
    rw [notes, List.mem_singleton] at hnote
    subst hnote
    cases hevent
    rfl
  | discarded t => cases hnote

/-- Only starting a tool submits it. -/
theorem Deed.filter_submitted (job : Job) (d : Deed) :
    (d.events job).filter (fun e => e.kind = .submitted) =
      d.started?.toList.map fun t => toolEvent job t .submitted := by
  cases d with
  | broke t res failure => cases res <;> rfl
  | _ => rfl

/-- Only cancelling a tool says so. -/
theorem Deed.filter_cancelled (job : Job) (d : Deed) :
    (d.events job).filter (fun e => e.kind = .cancelled) =
      d.cancelled?.toList.map fun t => toolEvent job t .cancelled := by
  cases d with
  | broke t res failure => cases res <;> rfl
  | _ => rfl

/-- What a history submits are the tools that it starts. -/
theorem filter_submitted (job : Job) (history : List Deed) :
    (history.flatMap (Deed.events job)).filter (fun e => e.kind = .submitted) =
      (history.filterMap Deed.started?).map fun t => toolEvent job t .submitted := by
  induction history with
  | nil => rfl
  | cons d rest ih =>
    rw [List.flatMap_cons, List.filter_append, ih, Deed.filter_submitted, List.filterMap_cons]
    cases d.started? <;> rfl

/-- **The events about one tool** are those of the deeds about it. -/
theorem filter_events (hnames : NamesTools result) {history : List Deed}
    (hmeant : ∀ d ∈ history, d.Meant job result) (t : Tool) :
    (history.flatMap (Deed.events job)).filter (fun e => e.tool = t.name) =
      (about t history).flatMap (Deed.events job) := by
  induction history with
  | nil => rfl
  | cons d rest ih =>
    have htool : ∀ e ∈ d.events job, e.tool = d.tool.name := fun e he =>
      Deed.tool_of_mem_events hnames (hmeant d List.mem_cons_self) he
    rw [List.flatMap_cons, List.filter_append, ih fun e he => hmeant e (List.mem_cons_of_mem _ he)]
    by_cases hd : d.tool = t
    · have hkeep : (d.events job).filter (fun e => e.tool = t.name) = d.events job := by
        refine List.filter_eq_self.mpr fun e he => ?_
        simp [htool e he, hd]
      have habout : about t (d :: rest) = d :: about t rest := by simp [about, hd]
      rw [hkeep, habout, List.flatMap_cons]
    · have hdrop : (d.events job).filter (fun e => e.tool = t.name) = [] := by
        refine List.filter_eq_nil_iff.mpr fun e he => ?_
        simp [htool e he, Tool.name_injective.eq_iff, hd]
      have habout : about t (d :: rest) = about t rest := by simp [about, hd]
      rw [hdrop, habout, List.nil_append]

/-- Every event of a history is about a tool that was asked for. -/
theorem exists_tool_of_mem_events (hnames : NamesTools result) {history : List Deed} {s : State}
    (tracked : Tracked job result history s) {e : Event}
    (he : e ∈ history.flatMap (Deed.events job)) : ∃ t ∈ job.tools, e.tool = t.name := by
  obtain ⟨d, hd, he⟩ := List.mem_flatMap.mp he
  exact ⟨d.tool, tracked.requested d hd,
    Deed.tool_of_mem_events hnames (tracked.meant d hd) he⟩

/-- No event of a history is about the audit as a whole. -/
theorem filter_allTools (hnames : NamesTools result) {history : List Deed} {s : State}
    (tracked : Tracked job result history s) :
    (history.flatMap (Deed.events job)).filter (fun e => e.tool = allTools) = [] := by
  refine List.filter_eq_nil_iff.mpr fun e he => ?_
  obtain ⟨t, -, htool⟩ := exists_tool_of_mem_events hnames tracked he
  rw [htool, decide_eq_true_eq]
  exact (allTools_ne_name t).symm

/-! ## Failures -/

/-- Whether events of a kind tell of a failure of a tool. -/
def tellsFailure : EventKind → Bool
  | .failed | .crashed | .parsingFailed => true
  | _ => false

/-- The kind of the event that tells of a failure. -/
def eventOf : FailureKind → EventKind
  | .failed => .failed
  | .crashed => .crashed
  | .parsingFailed => .parsingFailed

/-- Deeds that are no failures tell of none. -/
theorem Deed.tellsFailure_eq_false {d : Deed} (hd : d.failure? = none) {e : Event}
    (he : e ∈ d.events job) : tellsFailure e.kind = false := by
  obtain ⟨note, hnote, hevent⟩ := List.mem_filterMap.mp he
  cases d with
  | broke t res failure => cases hd
  | refused t run fault => cases hd
  | discarded t => cases hnote
  | started t =>
    obtain rfl := List.mem_singleton.mp hnote
    cases hevent
    rfl
  | cancelled t =>
    obtain rfl := List.mem_singleton.mp hnote
    cases hevent
    rfl
  | finished t run =>
    rcases List.mem_pair.mp hnote with rfl | rfl <;> cases hevent
    rfl
  | stored t run findings inserted =>
    rcases List.mem_pair.mp hnote with rfl | rfl <;> cases hevent <;> rfl

/-- The last event of a failure tells of it. -/
theorem Deed.events_of_failure (hnames : NamesTools result) {d : Deed} {failure : ToolFailure}
    (hd : d.Meant job result) (hfailure : d.failure? = some failure) :
    ∃ earlier first, d.events job = earlier ++ [first] ∧
      (∀ e ∈ earlier, tellsFailure e.kind = false) ∧ first.tool = d.tool.name ∧
      first.kind = eventOf failure.kind ∧ first.message? = some failure.message := by
  have htool : ∀ e ∈ d.events job, e.tool = d.tool.name :=
    fun e he => tool_of_mem_events hnames hd he
  cases d with
  | broke t res failure' =>
    cases hfailure
    obtain ⟨rfl, hverdict⟩ := hd
    cases hres : result t with
    | ran run =>
      rw [hres] at htool hverdict
      rw [verdict] at hverdict
      split at hverdict
      · cases hverdict
      · cases hverdict
        exact ⟨[], _, rfl, by simp, htool _ List.mem_cons_self, rfl, rfl⟩
    | impossible e =>
      rw [hres] at hverdict
      cases hverdict
      exact ⟨[], _, rfl, by simp, rfl, rfl, rfl⟩
    | brokeDown text =>
      rw [hres] at hverdict
      cases hverdict
      exact ⟨[], _, rfl, by simp, rfl, rfl, rfl⟩
  | refused t run fault =>
    cases hfailure
    refine ⟨[_], _, rfl, ?_, htool _ (List.mem_cons_of_mem _ List.mem_cons_self), rfl, rfl⟩
    simp [toolEvent, tellsFailure]
  | _ => cases hfailure

/-! ## The last event -/

/-- The event about an audit as a whole in the state in which it ends. -/
def lastEvent (job : Job) (s : State) : Event :=
  match s.stopped? with
  | some (tool, failure) =>
    { project := job.target, tool := allTools, kind := .completedWithErrors
      message? := some ("stopped after " ++ tool.name ++ " " ++ failure.kind.name) }
  | none =>
    { project := job.target, tool := allTools
      kind := if s.summary.hasFailures then .completedWithErrors else .completed }

theorem lastEvent_tool (job : Job) (s : State) : (lastEvent job s).tool = allTools := by
  unfold lastEvent
  split <;> rfl

/-- Ending an audit adds its last event. -/
theorem close_events (job : Job) (now : Nat) (m : Moment) :
    (close job now m).2.events = m.2.events ++ [lastEvent job m.1] := by
  simp only [Records.events_eq, close, tell, Records.add, List.filterMap_append]
  simp only [List.filterMap_cons, List.filterMap_nil, Note.event?, List.append_nil]
  congr

/-- Ending an audit stores nothing. -/
theorem close_store? (job : Job) (now : Nat) (m : Moment) :
    (close job now m).2.store? = m.2.store? := rfl

/-- An audit that was stopped ends with the failure that stopped it. -/
theorem close_outcome?_of_stopped (job : Job) (now : Nat) {m : Moment} {tool : Tool}
    {failure : ToolFailure} (h : m.1.stopped? = some (tool, failure)) :
    (close job now m).1.outcome? = some (.error (.stopped tool failure)) := by
  simp only [close, tell, h]

/-- An audit that was not stopped ends with its summary. -/
theorem close_outcome?_of_going (job : Job) (now : Nat) {m : Moment}
    (h : m.1.stopped? = none) :
    (close job now m).1.outcome? =
      some (.ok { m.1.summary.inOrder with
        elapsed := Float.ofNat (now - m.1.since) / 1000.0 }) := by
  simp only [close, tell, h]

/-- The events that an audit adds to those it found. -/
theorem Path.events {m : Moment} {history : List Deed} {s : State} {r : Records}
    (path : Path job result (s, r.add job.anchor .opened) history m) :
    m.2.events = r.events ++ history.flatMap (Deed.events job) := by
  have hopened : (r.add job.anchor .opened).events = r.events := by
    simp [Records.events_eq, Records.add, Note.event?]
  rw [path.marked.events, hopened]

end Audit

end LintLedger
