import LintLedger.Proofs.Audit.Course
import Mathlib.Data.List.Nodup

/-!
# How tools stand in an audit

Each tool of an audit goes its own way through it: it is pending, runs, waits for its report to
be read, and is done.  Its way shows in the deeds about it, and where it is in the state follows
from them alone.

## Main Definitions

* `Audit.about` -- the deeds about one tool
* `Audit.Life` -- the ways that a tool can have gone
* `Audit.Tracked` -- the state places every tool where the deeds about it say
* `Audit.Deed.Meant` -- what a deed says of the result of its tool is so

## Main Statements

* `Audit.Steps.tracked` -- histories keep track of every tool
* `Audit.Tracked.meant` -- what deeds say of the results of their tools is so
-/

namespace LintLedger

/-- Tools are told apart by their names. -/
theorem Tool.name_injective : Function.Injective Tool.name := by
  intro t u h
  have hnodup : (Tool.all.map Tool.name).Nodup := by decide
  exact List.inj_on_of_nodup_map hnodup t.mem_all u.mem_all h

namespace Audit

variable {job : Job} {result : Tool → Execution}

/-! ## Deeds about one tool -/

/-- The deeds about one tool. -/
def about (tool : Tool) (history : List Deed) : List Deed := history.filter fun d => d.tool = tool

theorem mem_about {tool : Tool} {history : List Deed} {d : Deed} :
    d ∈ about tool history ↔ d ∈ history ∧ d.tool = tool := by
  simp [about]

@[simp] theorem about_nil (tool : Tool) : about tool [] = [] := rfl

theorem about_concat_self (history : List Deed) (d : Deed) :
    about d.tool (history ++ [d]) = about d.tool history ++ [d] := by
  simp [about]

theorem about_concat_of_ne {tool : Tool} {d : Deed} (h : tool ≠ d.tool) (history : List Deed) :
    about tool (history ++ [d]) = about tool history := by
  simp [about, h.symm]

/-- The ways that a tool can have gone, up to some moment. -/
inductive Life (job : Job) (result : Tool → Execution) (tool : Tool) : List Deed → Prop where
  | pending : Life job result tool []
  | running : Life job result tool [.started tool]
  | waiting {run : RunRecord} :
      verdict (job.analyzer tool) (result tool) = .ok run →
      Life job result tool [.started tool, .finished tool run]
  | broke {failure : ToolFailure} :
      verdict (job.analyzer tool) (result tool) = .error failure →
      Life job result tool [.started tool, .broke tool (result tool) failure]
  | refused {run : RunRecord} {fault : ReportFault} :
      verdict (job.analyzer tool) (result tool) = .ok run →
      Life job result tool [.started tool, .finished tool run, .refused tool run fault]
  | stored {run : RunRecord} {findings : List Finding} {inserted : Nat} :
      verdict (job.analyzer tool) (result tool) = .ok run →
      Life job result tool [.started tool, .finished tool run, .stored tool run findings inserted]
  | cancelled : Life job result tool [.cancelled tool]
  | discarded : Life job result tool [.started tool, .discarded tool]

/-- The state places every tool where the deeds about it say. -/
structure Tracked (job : Job) (result : Tool → Execution) (history : List Deed) (s : State) :
    Prop where
  pending : ∀ t, t ∈ s.pending ↔ t ∈ job.tools ∧ about t history = []
  running : ∀ t, t ∈ s.running ↔ about t history = [.started t]
  deferred : ∀ t run,
    (t, run) ∈ s.deferred ↔ about t history = [.started t, .finished t run]
  life : ∀ t, Life job result t (about t history)
  requested : ∀ d ∈ history, d.tool ∈ job.tools
  nodup_pending : s.pending.Nodup
  nodup_running : s.running.Nodup
  nodup_deferred : s.deferred.Nodup

/-! ## A deed moves its own tool only -/

/-- A deed leaves every other tool where it is. -/
theorem Step.frame {s s' : State} {d : Deed} (step : Step job result s d s') {t : Tool}
    (ht : t ≠ d.tool) :
    (t ∈ s'.pending ↔ t ∈ s.pending) ∧ (t ∈ s'.running ↔ t ∈ s.running) ∧
      ∀ run, (t, run) ∈ s'.deferred ↔ (t, run) ∈ s.deferred := by
  cases step with
  | start _ hpending => simp_all [Deed.tool]
  | finish => simp_all [Deed.tool, List.mem_erase_of_ne]
  | breakOff => simp_all [Deed.tool, List.mem_erase_of_ne]
  | refuse _ hdeferred => simp_all [Deed.tool]
  | store _ hdeferred => simp_all [Deed.tool]
  | cancel _ hpending => simp_all [Deed.tool]
  | discard => simp_all [Deed.tool, List.mem_erase_of_ne]

/-- To keep track of all tools it is enough to keep track of the tool of the last deed. -/
theorem Tracked.snoc {s s' : State} {history : List Deed} {d : Deed}
    (tracked : Tracked job result history s) (step : Step job result s d s')
    (hrequested : d.tool ∈ job.tools) (hpending : d.tool ∉ s'.pending)
    (hrunning : d.tool ∈ s'.running ↔ about d.tool history ++ [d] = [.started d.tool])
    (hdeferred : ∀ run, (d.tool, run) ∈ s'.deferred ↔
      about d.tool history ++ [d] = [.started d.tool, .finished d.tool run])
    (hlife : Life job result d.tool (about d.tool history ++ [d]))
    (hnodup : s'.pending.Nodup ∧ s'.running.Nodup ∧ s'.deferred.Nodup) :
    Tracked job result (history ++ [d]) s' where
  -- a tool that the deed is not about is where it was, and so is its history
  pending := by
    intro t
    by_cases ht : t = d.tool
    · subst ht
      rw [about_concat_self]
      simpa using hpending
    · rw [about_concat_of_ne ht, (step.frame ht).1]
      exact tracked.pending t
  running := by
    intro t
    by_cases ht : t = d.tool
    · subst ht
      rw [about_concat_self]
      exact hrunning
    · rw [about_concat_of_ne ht, (step.frame ht).2.1]
      exact tracked.running t
  deferred := by
    intro t run
    by_cases ht : t = d.tool
    · subst ht
      rw [about_concat_self]
      exact hdeferred run
    · rw [about_concat_of_ne ht, (step.frame ht).2.2]
      exact tracked.deferred t run
  life := by
    intro t
    by_cases ht : t = d.tool
    · subst ht
      rw [about_concat_self]
      exact hlife
    · rw [about_concat_of_ne ht]
      exact tracked.life t
  requested := by
    intro e he
    rcases List.mem_append.mp he with hold | hnew
    · exact tracked.requested e hold
    · rw [List.mem_singleton.mp hnew]
      exact hrequested
  nodup_pending := hnodup.1
  nodup_running := hnodup.2.1
  nodup_deferred := hnodup.2.2

/-- A tool that runs was started, and nothing else has happened to it. -/
theorem Tracked.of_running {s : State} {history : List Deed}
    (tracked : Tracked job result history s) {tool : Tool} (h : tool ∈ s.running) :
    tool ∈ job.tools ∧ about tool history = [.started tool] := by
  have habout := (tracked.running tool).mp h
  have hmem : Deed.started tool ∈ about tool history := by simp [habout]
  exact ⟨tracked.requested (.started tool) (mem_about.mp hmem).1, habout⟩

/-- A tool whose run waits has ended, and its run waits once. -/
theorem Tracked.of_deferred {s : State} {history : List Deed}
    (tracked : Tracked job result history s) {tool : Tool} {run : RunRecord}
    {front back : List (Tool × RunRecord)} (h : s.deferred = front ++ (tool, run) :: back) :
    tool ∈ job.tools ∧ about tool history = [.started tool, .finished tool run] ∧
      (front ++ back).Nodup ∧ ∀ run', (tool, run') ∉ front ++ back := by
  have habout := (tracked.deferred tool run).mp (by simp [h])
  have hmem : Deed.started tool ∈ about tool history := by simp [habout]
  have hnodup := tracked.nodup_deferred
  rw [h, List.nodup_middle, List.nodup_cons] at hnodup
  refine ⟨tracked.requested (.started tool) (mem_about.mp hmem).1, habout, hnodup.2, ?_⟩
  intro run' hother
  have hsecond : (tool, run') ∈ s.deferred := by
    rw [h]
    rcases List.mem_append.mp hother with hfront | hback
    · exact List.mem_append_left _ hfront
    · exact List.mem_append_right _ (List.mem_cons_of_mem _ hback)
  rw [tracked.deferred, habout] at hsecond
  obtain rfl : run = run' := by simpa using hsecond
  exact hnodup.1 hother

theorem Tracked.verdict_of_deferred {s : State} {history : List Deed}
    (tracked : Tracked job result history s) {tool : Tool} {run : RunRecord}
    (h : (tool, run) ∈ s.deferred) : verdict (job.analyzer tool) (result tool) = .ok run := by
  have hlife := tracked.life tool
  rw [(tracked.deferred tool run).mp h] at hlife
  cases hlife with
  | waiting hverdict => exact hverdict

/-- To take a tool that ran off the running ones keeps track of all, if no run of it waits. -/
theorem Tracked.snoc_ended {s s' : State} {history : List Deed} {d : Deed}
    (tracked : Tracked job result history s) (step : Step job result s d s')
    (hran : d.tool ∈ s.running) (hread : ∀ run, d ≠ .finished d.tool run)
    (hpending : s'.pending = s.pending) (hrunning : s'.running = s.running.erase d.tool)
    (hdeferred : s'.deferred = s.deferred) (hlife : Life job result d.tool [.started d.tool, d]) :
    Tracked job result (history ++ [d]) s' := by
  obtain ⟨hmem, hone⟩ := tracked.of_running hran
  have hnodup := tracked.nodup_running
  refine tracked.snoc step hmem ?_ ?_ ?_ ?_ ?_
  · simp [hpending, tracked.pending, hone]
  · simp [hrunning, hone, hnodup.mem_erase_iff]
  · intro run
    simp [hdeferred, hone, tracked.deferred, hread run]
  · rw [hone]
    exact hlife
  · rw [hpending, hrunning, hdeferred]
    exact ⟨tracked.nodup_pending, hnodup.erase _, tracked.nodup_deferred⟩

/-- To take a run off the waiting ones keeps track of all tools. -/
theorem Tracked.snoc_read {s s' : State} {history : List Deed} {d : Deed}
    (tracked : Tracked job result history s) (step : Step job result s d s') {run : RunRecord}
    {front back : List (Tool × RunRecord)} (hwaits : s.deferred = front ++ (d.tool, run) :: back)
    (hpending : s'.pending = s.pending) (hrunning : s'.running = s.running)
    (hdeferred : s'.deferred = front ++ back)
    (hlife : verdict (job.analyzer d.tool) (result d.tool) = .ok run →
      Life job result d.tool [.started d.tool, .finished d.tool run, d]) :
    Tracked job result (history ++ [d]) s' := by
  obtain ⟨hmem, htwo, hrest, hgone⟩ := tracked.of_deferred hwaits
  have hverdict := tracked.verdict_of_deferred (show (d.tool, run) ∈ s.deferred by simp [hwaits])
  refine tracked.snoc step hmem ?_ ?_ ?_ ?_ ?_
  · simp [hpending, tracked.pending, htwo]
  · simp [hrunning, htwo, tracked.running]
  · intro run'
    simp only [hdeferred, htwo]
    exact ⟨fun h => absurd h (hgone run'), fun h => by simp at h⟩
  · rw [htwo]
    exact hlife hverdict
  · rw [hpending, hrunning, hdeferred]
    exact ⟨tracked.nodup_pending, tracked.nodup_running, hrest⟩

/-- **A deed keeps track of every tool.** -/
theorem Tracked.step {s s' : State} {history : List Deed} {d : Deed}
    (tracked : Tracked job result history s) (step : Step job result s d s') :
    Tracked job result (history ++ [d]) s' := by
  have hstep := step
  have hp := tracked.nodup_pending
  have hr := tracked.nodup_running
  have hd := tracked.nodup_deferred
  cases step with
  | @start tool rest _ hpending =>
    obtain ⟨hmem, hnil⟩ := (tracked.pending tool).mp (by simp [hpending])
    rw [hpending, List.nodup_cons] at hp
    -- the first tool that is pending was never started, so that its history is empty
    refine tracked.snoc hstep hmem hp.1 ?_ ?_ ?_ ⟨hp.2, ?_, hd⟩
    · simp [Deed.tool, hnil]
    · intro run
      simp [Deed.tool, hnil, tracked.deferred]
    · simp only [Deed.tool, hnil]
      exact .running
    · refine hr.append (List.nodup_singleton _) ?_
      intro t hold hnew
      rw [List.mem_singleton.mp hnew, tracked.running, hnil] at hold
      cases hold
  | @finish tool run _ hrunning hverdict =>
    -- a tool that runs was started and has done nothing since
    obtain ⟨hmem, hone⟩ := tracked.of_running hrunning
    refine tracked.snoc hstep hmem ?_ ?_ ?_ ?_ ⟨by simpa using hp, by simpa using hr.erase _, ?_⟩
    · simp [Deed.tool, tracked.pending, hone]
    · simp [Deed.tool, hone, hr.mem_erase_iff]
    · intro run'
      simp [Deed.tool, hone, tracked.deferred, eq_comm]
    · simp only [Deed.tool, hone]
      exact .waiting hverdict
    · refine hd.append (List.nodup_singleton _) ?_
      intro entry hold hnew
      rw [List.mem_singleton.mp hnew, tracked.deferred, hone] at hold
      cases hold
  | breakOff _ hrunning hverdict =>
    refine tracked.snoc_ended hstep hrunning (fun _ h => by cases h) ?_ ?_ ?_ (.broke hverdict)
    all_goals simp [Deed.tool]
  | refuse _ hdeferred => exact tracked.snoc_read hstep hdeferred rfl rfl rfl .refused
  | store _ hdeferred => exact tracked.snoc_read hstep hdeferred rfl rfl rfl .stored
  | @cancel tool rest _ hpending =>
    obtain ⟨hmem, hnil⟩ := (tracked.pending tool).mp (by simp [hpending])
    rw [hpending, List.nodup_cons] at hp
    refine tracked.snoc hstep hmem hp.1 ?_ ?_ ?_ ⟨hp.2, hr, hd⟩
    · simp [Deed.tool, hnil, tracked.running]
    · intro run
      simp [Deed.tool, hnil, tracked.deferred]
    · simp only [Deed.tool, hnil]
      exact .cancelled
  | discard _ hrunning =>
    exact tracked.snoc_ended hstep hrunning (fun _ h => by cases h) rfl rfl rfl .discarded

/-- **Histories keep track of every tool**, if no tool is asked for twice. -/
theorem Steps.tracked (hnodup : job.tools.Nodup) {now : Nat} {s : State} {history : List Deed}
    (steps : Steps job result (initial job now) history s) : Tracked job result history s := by
  induction steps with
  | nil =>
    refine ⟨?_, ?_, ?_, fun _ => .pending, ?_, hnodup, List.nodup_nil, List.nodup_nil⟩
    all_goals simp [initial]
  | snoc _ step ih => exact ih.step step

/-- Nothing happens to a tool that was cancelled but that. -/
theorem Tracked.about_of_cancelled {s : State} {history : List Deed}
    (tracked : Tracked job result history s) {tool : Tool} (h : .cancelled tool ∈ history) :
    about tool history = [.cancelled tool] := by
  have habout : Deed.cancelled tool ∈ about tool history := mem_about.mpr ⟨h, rfl⟩
  have hlife := tracked.life tool
  generalize about tool history = deeds at habout hlife
  cases hlife <;> simp_all

/-- The findings of a tool are stored once. -/
theorem Tracked.stored_unique {s : State} {history : List Deed}
    (tracked : Tracked job result history s) {tool : Tool} {run run' : RunRecord}
    {findings findings' : List Finding} {inserted inserted' : Nat}
    (h : .stored tool run findings inserted ∈ history)
    (h' : .stored tool run' findings' inserted' ∈ history) :
    run = run' ∧ findings = findings' ∧ inserted = inserted' := by
  have hone : Deed.stored tool run findings inserted ∈ about tool history :=
    mem_about.mpr ⟨h, rfl⟩
  have hother : Deed.stored tool run' findings' inserted' ∈ about tool history :=
    mem_about.mpr ⟨h', rfl⟩
  have hlife := tracked.life tool
  generalize about tool history = deeds at hone hother hlife
  cases hlife <;> simp_all

/-! ## What the deeds say of the results -/

/-- What a deed says of the result of its tool is so. -/
def Deed.Meant (job : Job) (result : Tool → Execution) : Deed → Prop
  | .finished t run | .refused t run _ | .stored t run _ _ =>
    verdict (job.analyzer t) (result t) = .ok run
  | .broke t res failure => res = result t ∧ verdict (job.analyzer t) (result t) = .error failure
  | .started _ | .cancelled _ | .discarded _ => True

theorem Life.meant {tool : Tool} {deeds : List Deed} (life : Life job result tool deeds) :
    ∀ d ∈ deeds, d.Meant job result := by
  cases life <;> simp_all [Deed.Meant]

theorem Tracked.meant {s : State} {history : List Deed}
    (tracked : Tracked job result history s) : ∀ d ∈ history, d.Meant job result :=
  fun d hd => (tracked.life d.tool).meant d (mem_about.mpr ⟨hd, rfl⟩)

/-- A result means a run only if it is that run. -/
theorem eq_ran_of_verdict {a : Analyzer} {res : Execution} {run : RunRecord}
    (h : verdict a res = .ok run) : res = .ran run := by
  cases res with
  | ran run' =>
    rw [verdict] at h
    split at h
    · cases h
      rfl
    · cases h
  | impossible e => cases h
  | brokeDown text => cases h

end Audit

end LintLedger
