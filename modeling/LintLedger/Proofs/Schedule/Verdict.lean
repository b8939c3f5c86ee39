import LintLedger.Proofs.Schedule.Progress
import LintLedger.Session.Audit

/-!
# The verdict on a run

Whether a run over several projects fails does not depend on what ends first, neither among the
projects nor among the tools of one project, nor on how many are at work at once.  A run that is
to stop at the first failure fails exactly if some tool of some project brings a failure, although
it may never start that project.  A run that is not to stop has an outcome for every project.

## Main Statements

* `Schedule.Delivered.continues_of_error` -- no project starts once an error was met
* `Schedule.Kept.outcomes`, `Schedule.Kept.not_failingUnit` -- what a run that met no error came to
* `Schedule.Delivered.verdict` -- the verdict on a run of any kind that audits in this process
* `Schedule.Delivered.verdict_of_single` -- the verdict on an audit by itself
* `Schedule.verdict_of_failing_unit` -- the verdict on a run, whatever ended first
-/

namespace LintLedger

namespace Schedule

variable {job : Job} {tools : List Tool} {result : Nat → Tool → Execution} {s : State}

/-! ## Errors stay -/

/-- Nothing starts in a run that met an error. -/
theorem records_start_of_error (now : Nat) (waiting : List (Nat × String)) (h : s.error?.isSome) :
    (start job now waiting s).records = s.records := by
  cases waiting with
  | nil => rfl
  | cons first rest =>
    unfold start
    rw [if_pos h]

theorem records_settle (index : Nat) (project : String)
    (outcome : Except AuditError ProjectOutcome) (s : State) :
    (settle job index project outcome s).records = s.records := by
  unfold settle
  split
  · rfl
  · split
    · rfl
    · split <;> rfl

theorem records_place (before : List Active) (index : Nat) (project : String) (m : Audit.Moment)
    (after : List Active) (s : State) :
    (place job before index project m after s).records = m.2 := by
  unfold place
  split
  · rfl
  · exact records_settle ..

/-- No project starts in a delivery that leaves the run with an error. -/
theorem deliver_continues_of_error (kept : Kept job result [] s.pending s) (now : Nat)
    {index : Nat} {tool : Tool} {res : Execution}
    (hflight : (index, some tool) ∈ s.inFlight)
    (herror : (deliver job now index tool res s).error?.isSome) :
    s.records.Continues (deliver job now index tool res s).records := by
  obtain ⟨before, project, audit, after, -, -, -, -, -, heq⟩ := deliver_of_kept kept hflight
  rw [heq] at herror ⊢
  unfold fill at herror ⊢
  rw [(start_keeps ..).2] at herror
  rw [records_start_of_error now _ herror, records_place]
  exact Audit.deliver_continues (job.audit project) now tool res (audit, s.records)

/-- A run that met an error goes on with it, and no project starts. -/
theorem Delivered.continues_of_error (here : job.Here tools) {start : State}
    (kept : Kept job result [] start.pending start) (herror : start.error?.isSome)
    {slots : List Slot} (run : Delivered job result start slots s) :
    s.error?.isSome ∧ start.records.Continues s.records := by
  induction run with
  | nil => exact ⟨herror, .refl _⟩
  | @snoc slots s index tool now run hflight ih =>
    obtain ⟨hstays, hcontinues⟩ := ih
    have kept' := run.kept here kept
    have hnext : (deliver job now index tool (result index tool) s).error?.isSome := by
      obtain ⟨before, project, audit, after, -, -, -, -, -, heq⟩ := deliver_of_kept kept' hflight
      rw [heq]
      unfold fill
      rw [(start_keeps ..).2]
      exact isSome_error?_place _ _ _ _ _ hstays
    exact ⟨hnext, hcontinues.trans (deliver_continues_of_error kept' now hflight hnext)⟩

/-! ## What a run came to -/

/-- A run with nothing left to do and no error has an outcome for every project, in their order. -/
theorem Kept.outcomes (kept : Kept job result [] [] s) (hactive : s.active = [])
    (hgoes : s.error? = none) :
    ∃ outcomes, Schedule.result s = .ok outcomes ∧
      outcomes.map ProjectOutcome.project = job.projects := by
  refine ⟨(s.done.mergeSort fun a b => a.1 ≤ b.1).map (·.2), ?_, ?_⟩
  · simp only [Schedule.result, hgoes]
  have hsorted : (s.done.mergeSort fun a b => a.1 ≤ b.1).Pairwise
      fun a b => decide (a.1 ≤ b.1) = true := List.pairwise_mergeSort
    (fun a b c => by simpa using Nat.le_trans) (fun a b => by simpa using Nat.le_total a.1 b.1)
    s.done
  have hperm := List.mergeSort_perm s.done fun a b => a.1 ≤ b.1
  generalize s.done.mergeSort (fun a b => a.1 ≤ b.1) = sorted at hsorted hperm
  have hplaces : sorted.map Prod.fst = List.range job.projects.length := by
    have hplaced : (s.done.map Prod.fst).Perm (List.range job.projects.length) := by
      simpa [hactive] using kept.placed hgoes
    refine List.Perm.eq_of_pairwise' (r := (· ≤ ·)) ?_ List.pairwise_le_range
      ((hperm.map Prod.fst).trans hplaced)
    exact List.pairwise_map.mpr (hsorted.imp of_decide_eq_true)
  refine List.map_injective_iff.mpr (Option.some_injective String) ?_
  calc ((sorted.map (·.2)).map ProjectOutcome.project).map some
      = sorted.map fun d => job.projects[d.1]? := by
        rw [List.map_map, List.map_map]
        exact List.map_congr_left fun d hd => ((kept.ended d (hperm.mem_iff.mp hd)).listed).symm
    _ = (sorted.map Prod.fst).map fun index => job.projects[index]? := by rw [List.map_map]; rfl
    _ = job.projects.map some := by
        rw [hplaces]
        refine List.ext_getElem? fun index => ?_
        by_cases h : index < job.projects.length <;> simp [h]

/-- In a run that is to stop at failures, and did not stop, no tool brings a failure. -/
theorem Kept.not_failingUnit (kept : Kept job result [] [] s) (hactive : s.active = [])
    (hgoes : s.error? = none) (hstop : job.stopOnError = true) : ¬ FailingUnit job result := by
  rintro ⟨index, project, hlisted, t, ht, failure, hfailure⟩
  have hplaced : (s.done.map Prod.fst).Perm (List.range job.projects.length) := by
    simpa [hactive] using kept.placed hgoes
  have hindex : index ∈ s.done.map Prod.fst :=
    hplaced.mem_iff.mpr (List.mem_range.mpr (List.getElem?_eq_some_iff.mp hlisted).1)
  obtain ⟨d, hd, rfl⟩ := List.mem_map.mp hindex
  obtain ⟨hlisted', hfine⟩ := kept.ended d hd
  obtain rfl : d.2.project = project := by
    rw [hlisted, Option.some.injEq] at hlisted'
    exact hlisted'.symm
  obtain ⟨findings, hfindings⟩ := hfine hstop t ht
  rw [hfailure] at hfindings
  cases hfindings

/-- **The verdict on a run** that has nothing left to do and met no error of the store: if it was to
stop at failures it failed exactly if some tool fails, and otherwise it has an outcome for every
project. -/
theorem Delivered.verdict (here : job.Here tools) {since : Nat} {r : Records} {slots : List Slot}
    (run : Delivered job result (launch job since r) slots s) (hidle : s.inFlight = [])
    (hstorage : ∀ cause, Schedule.result s ≠ .error (.storage cause)) :
    (job.stopOnError = true → ((∃ e, Schedule.result s = .error e) ↔ FailingUnit job result)) ∧
      (job.stopOnError = false → ∃ outcomes, Schedule.result s = .ok outcomes ∧
        outcomes.map ProjectOutcome.project = job.projects) := by
  have kept := run.kept here (kept_launch here since r)
  obtain ⟨hactive, hpending⟩ := run.finished here hidle
  rw [hpending] at kept
  cases herror : s.error? with
  | none =>
    obtain ⟨outcomes, hresult, hprojects⟩ := kept.outcomes hactive herror
    refine ⟨fun hstop => ⟨?_, fun hfails => ?_⟩, fun _ => ⟨outcomes, hresult, hprojects⟩⟩
    · rintro ⟨e, he⟩
      rw [hresult] at he
      cases he
    · exact absurd hfails (kept.not_failingUnit hactive herror hstop)
  | some e =>
    have hresult : Schedule.result s = .error e := by simp only [Schedule.result, herror]
    obtain ⟨cause, rfl⟩ | ⟨hstop, hfails⟩ := kept.cause e herror
    · exact absurd hresult (hstorage cause)
    · refine ⟨fun _ => ⟨fun _ => hfails, fun _ => ⟨e, hresult⟩⟩, fun hgoes => ?_⟩
      rw [hstop] at hgoes
      cases hgoes

/-- The run that does one audit does it in this process. -/
theorem single_here {audit : Audit.Job} (hnodup : audit.tools.Nodup)
    (coherent : Audit.Coherent audit.analyzer) : (Job.single audit).Here audit.tools where
  apart := rfl
  outer := Nat.one_pos
  nodup := hnodup
  tools := fun _ => rfl
  stopOnError := fun _ => rfl
  coherent := fun _ => coherent

/-- An audit by itself that is to stop at failures fails exactly if one of its tools fails, whatever
ended first. -/
theorem Delivered.verdict_of_single {audit : Audit.Job} (hnodup : audit.tools.Nodup)
    (coherent : Audit.Coherent audit.analyzer) (hstop : audit.stopOnError = true) {since : Nat}
    {r : Records} {slots : List Slot}
    (run : Delivered (.single audit) result (launch (.single audit) since r) slots s)
    (hidle : s.inFlight = []) (hstorage : ∀ cause, Schedule.result s ≠ .error (.storage cause)) :
    (∃ e, Schedule.result s = .error e) ↔ ∃ t ∈ audit.tools, Audit.Fails audit (result 0) t := by
  rw [(run.verdict (single_here hnodup coherent) hidle hstorage).1 hstop, failingUnit_iff]
  constructor
  · rintro ⟨index, project, hlisted, hfails⟩
    obtain rfl : index = 0 := by
      simpa [Job.single] using (List.getElem?_eq_some_iff.mp hlisted).1
    exact hfails
  · exact fun hfails => ⟨0, audit.target, rfl, hfails⟩

/-- The run of a plan that does not audit projects in processes of their own is one that audits
them in this process. -/
theorem job_here {p : AuditPlan} (now : Timestamp) (projects : List String)
    (hstrategy : p.request.strategy ≠ .process) (hresolve : resolveTools p.names = .ok p.tools) :
    (p.job now projects).Here p.tools where
  apart := by simpa [AuditPlan.job, AuditPlan.isApart] using hstrategy
  outer := by
    simp only [AuditPlan.job, plan]
    split <;> omega
  nodup := nodup_of_resolveTools hresolve
  tools := fun _ => rfl
  stopOnError := fun _ => rfl
  coherent := fun _ => Audit.coherent_analyzerOf p.settings.tools

/-- **The verdict on a run does not depend on what ends first.**  Of a run that audits projects in
this process and whose tools end in some order:

* what is at work is a tool that can be delivered, and the run ends after at most one delivery for
  every tool of every project;
* if nothing is at work any more and no error of the store ended the run, then a run that was to
  stop at failures failed exactly if some tool of some project brings one, and a run that was not
  came to an outcome for every project, in the order of the projects;
* from the delivery on that leaves the run with an error, no project starts. -/
theorem verdict_of_failing_unit (p : AuditPlan) (now : Timestamp) (projects : List String)
    (hstrategy : p.request.strategy ≠ .process) (hresolve : resolveTools p.names = .ok p.tools)
    {since : Nat} {r : Records} {slots : List Slot}
    (run : Delivered (p.job now projects) result (launch (p.job now projects) since r) slots s) :
    (∀ slot ∈ s.inFlight, ∃ index tool, slot = (index, some tool)) ∧
    slots.length ≤ projects.length * p.tools.length ∧
    (s.inFlight = [] → (∀ cause, Schedule.result s ≠ .error (.storage cause)) →
      (p.request.stopOnError = true →
        ((∃ e, Schedule.result s = .error e) ↔ FailingUnit (p.job now projects) result)) ∧
      (p.request.stopOnError = false → ∃ outcomes, Schedule.result s = .ok outcomes ∧
        outcomes.map ProjectOutcome.project = projects)) ∧
    ∀ moment index tool next, (index, some tool) ∈ s.inFlight →
      deliver (p.job now projects) moment index tool (result index tool) s = next →
      next.error?.isSome → ∀ more last, Delivered (p.job now projects) result next more last →
        last.error?.isSome ∧ s.records.Continues last.records := by
  have here := job_here now projects hstrategy hresolve
  have begun : Kept (p.job now projects) result [] _ _ := kept_launch here since r
  have kept := run.kept here begun
  refine ⟨fun slot => kept.exists_tool, ?_, fun hidle hstorage => ?_, ?_⟩
  · have hless := run.length_add_burden_le here begun
    have hall := burden_launch_le here since r
    exact (Nat.le_add_right ..).trans (hless.trans hall)
  · exact run.verdict here hidle hstorage
  · rintro moment index tool _ hflight rfl herror more last hmore
    have hfirst := deliver_continues_of_error kept moment hflight herror
    obtain ⟨hstays, hrest⟩ :=
      hmore.continues_of_error here (kept.deliver here moment hflight) herror
    exact ⟨hstays, hfirst.trans hrest⟩

/-! ## A failure in the second of three projects -/

namespace SecondFails

/-- Bandit runs on several projects, two at once, and is to stop at a failure. -/
def planned : AuditPlan where
  root := "/w"
  request := { jobs? := some 2, stopOnError := true, strategy := .thread }
  settings := {}
  config? := none
  names := ["bandit"]
  tools := [.bandit]

/-- The projects. -/
def projects : List String := ["/w/a", "/w/b", "/w/c"]

/-- The run that audits them. -/
def audits : Job := planned.job ⟨2026, 1, 1, 0, 0, 0⟩ projects

/-- A run of bandit that found nothing. -/
def report (exitCode : Int) : RunRecord where
  tool := "bandit"
  cmd := ["bandit"]
  cwd := "/w/a"
  exitCode := exitCode
  duration := 0.5
  stdout := ""
  stderr := ""
  payload? := some (.obj [("results", .arr [])])

/-- How bandit ends: badly in the second project. -/
def ending (bad : Execution) (index : Nat) (_ : Tool) : Execution :=
  if index = 1 then bad else .ran (report 0)

/-- Two projects are at work. -/
def first : State := launch audits 3 ⟨some Store.empty.seed, []⟩

/-- The second project has ended, … -/
def second (bad : Execution) : State := deliver audits 5 1 .bandit (ending bad 1 .bandit) first

/-- … and then the first. -/
def last (bad : Execution) : State := deliver audits 7 0 .bandit (ending bad 0 .bandit) (second bad)

/-- An error is the failure of a tool. -/
def isStop : AuditError → Bool
  | .stopped _ _ => true
  | _ => false

theorem ends_of_mem {bad : Execution} (h : bad ∈ [.brokeDown "boom", .ran (report 3)]) :
    (0, some .bandit) ∈ (second bad).inFlight ∧ (second bad).error?.isSome ∧
      (last bad).inFlight = [] ∧ (last bad).error?.any isStop = true := by
  simp only [List.mem_cons, List.not_mem_nil, or_false] at h
  rcases h with rfl | rfl <;> decide

/-- Three projects, two at once: the second fails first, by a crash or by an exit code that is not
accepted, the first ends well after that, and the third is never started. -/
theorem verdict_of_failing_unit_of_crash :
    planned.request.strategy ≠ .process ∧ resolveTools planned.names = .ok planned.tools ∧
    ∀ bad ∈ [Execution.brokeDown "boom", .ran (report 3)],
      Delivered audits (ending bad) first [(1, some .bandit), (0, some .bandit)] (last bad) ∧
      (last bad).inFlight = [] ∧ (∀ cause, Schedule.result (last bad) ≠ .error (.storage cause)) ∧
      (second bad).error?.isSome ∧
      [(1, some Tool.bandit), (0, some .bandit)].length ≤ projects.length * planned.tools.length ∧
      ((∃ e, Schedule.result (last bad) = .error e) ↔ FailingUnit audits (ending bad)) ∧
      first.records.Continues (last bad).records ∧
      Audit.Fails (audits.audit "/w/b") (ending bad 1) .bandit ∧
      ∃ e, Schedule.result (last bad) = .error e := by
  have hresolve : resolveTools planned.names = .ok planned.tools := by decide
  have hflight : (1, some .bandit) ∈ first.inFlight := by decide
  refine ⟨by decide, hresolve, fun bad hbad => ?_⟩
  obtain ⟨hflight', hmet, hidle, hstop⟩ := ends_of_mem hbad
  have hrun :
      Delivered audits (ending bad) first [(1, some .bandit), (0, some .bandit)] (last bad) :=
    .snoc 7 (.snoc 5 .nil hflight) hflight'
  cases herror : (last bad).error? with
  | none =>
    rw [herror] at hstop
    cases hstop
  | some e =>
    rw [herror, Option.any_some] at hstop
    have hresult : Schedule.result (last bad) = .error e := by simp only [Schedule.result, herror]
    have hstorage : ∀ cause, Schedule.result (last bad) ≠ .error (.storage cause) := by
      intro cause h
      rw [hresult] at h
      cases h
      cases hstop
    obtain ⟨-, hlength, hverdict, -⟩ := verdict_of_failing_unit planned ⟨2026, 1, 1, 0, 0, 0⟩
      projects (by decide) hresolve hrun
    obtain ⟨-, -, -, hcontinues⟩ := verdict_of_failing_unit planned ⟨2026, 1, 1, 0, 0, 0⟩ projects
      (by decide) hresolve (.nil : Delivered audits (ending bad) first [] first)
    have hfails : Audit.Fails (audits.audit "/w/b") (ending bad 1) .bandit := by
      simp only [List.mem_cons, List.not_mem_nil, or_false] at hbad
      obtain rfl | rfl := hbad
      · exact .brokeDown rfl
      · exact .refused rfl rfl
    have hlater := hcontinues 5 1 .bandit (second bad) hflight rfl hmet _ (last bad)
      (.snoc 7 .nil hflight')
    exact ⟨hrun, hidle, hstorage, hmet, hlength, (hverdict hidle hstorage).1 rfl, hlater.2, hfails,
      e, hresult⟩

end SecondFails

end Schedule

end LintLedger
