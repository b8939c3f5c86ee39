import LintLedger.Proofs.Audit.Harvest
import LintLedger.Schedule.Basic
import Mathlib.Data.List.Nodup

/-!
# The course of a run

A run over several projects keeps books: every project waits, is at work or is done, and none is
two of these, as long as no error ended the run.  A project at work stands as its audit would by
itself, one that is done met no failure if the run was to stop at one, and what ended the run was
an error of the store or the failure of a tool.

## Main Definitions

* `Schedule.Delivered` -- what a run comes to by deliveries in some order
* `Schedule.Job.Here` -- runs that audit their projects in this process, with the same tools
* `Schedule.FailingUnit` -- some tool of some project brings a failure
* `Schedule.Kept` -- the books of a run

## Main Statements

* `Schedule.Kept.settle`, `Schedule.Kept.place`, `Schedule.Kept.start`, `Schedule.Kept.deliver` --
  every step of a run keeps its books
* `Schedule.Delivered.kept` -- and so does a run

## Implementation Notes

Starting projects takes them off a list that is not yet part of the state, and ending one takes it
out of the state before its outcome is known.  `Kept` therefore takes the projects that wait and
those that are in hand beside the state.
-/

namespace LintLedger.Schedule

/-- What a run comes to from `start` when, one after the other, tools that are at work end as
`result` says of the project with a place and the tool. -/
inductive Delivered (job : Job) (result : Nat → Tool → Execution) (start : State) :
    List Slot → State → Prop where
  | nil : Delivered job result start [] start
  | snoc {slots : List Slot} {s : State} {index : Nat} {tool : Tool} (now : Nat) :
      Delivered job result start slots s → (index, some tool) ∈ s.inFlight →
      Delivered job result start (slots ++ [(index, some tool)])
        (deliver job now index tool (result index tool) s)

/-- A run that audits its projects in this process, all of them with the same tools and the same
say on failures. -/
structure Job.Here (job : Job) (tools : List Tool) : Prop where
  apart : job.apart = false
  outer : 0 < job.outer
  nodup : tools.Nodup
  tools : ∀ project, (job.audit project).tools = tools
  stopOnError : ∀ project, (job.audit project).stopOnError = job.stopOnError
  coherent : ∀ project, Audit.Coherent (job.audit project).analyzer

/-- Some tool of some project brings a failure: its exit code is not accepted, its time was up, it
could not be run or its report cannot be read. -/
def FailingUnit (job : Job) (result : Nat → Tool → Execution) : Prop :=
  ∃ index project, job.projects[index]? = some project ∧
    ∃ t ∈ (job.audit project).tools, ∃ failure,
      Audit.harvest (job.audit project) (result index) t = .error failure

/-- The tool of a failing unit fails in one of the ways in which a tool fails. -/
theorem failingUnit_iff {job : Job} {result : Nat → Tool → Execution} :
    FailingUnit job result ↔ ∃ index project, job.projects[index]? = some project ∧
      ∃ t ∈ (job.audit project).tools, Audit.Fails (job.audit project) (result index) t := by
  simp only [FailingUnit, Audit.exists_harvest_eq_error_iff]

/-! ## The books of a run -/

/-- A project at work is one of the run's, and its audit stands as it would by itself. -/
structure Works (job : Job) (result : Nat → Tool → Execution) (a : Active) : Prop where
  listed : job.projects[a.index]? = some a.project
  stands : ∃ audit, a.work = .here audit ∧ audit.outcome? = none ∧
    Audit.Stands (job.audit a.project) (result a.index) audit

/-- A project that is done is one of the run's, and all its tools brought findings if the run was
to stop at a failure. -/
structure Done (job : Job) (result : Nat → Tool → Execution) (d : Nat × ProjectOutcome) :
    Prop where
  listed : job.projects[d.1]? = some d.2.project
  fine : job.stopOnError = true → ∀ t ∈ (job.audit d.2.project).tools, ∃ findings,
    Audit.harvest (job.audit d.2.project) (result d.1) t = .ok findings

/-- What ends a run: an error of the store, or a failure if the run is to stop at one. -/
def Cause (job : Job) (result : Nat → Tool → Execution) (e : AuditError) : Prop :=
  (∃ cause, e = .storage cause) ∨ job.stopOnError = true ∧ FailingUnit job result

/-- The books of a run of which some projects are in hand and some wait. -/
structure Kept (job : Job) (result : Nat → Tool → Execution) (hand : List Nat)
    (waiting : List (Nat × String)) (s : State) : Prop where
  waits : ∀ w ∈ waiting, job.projects[w.1]? = some w.2
  works : ∀ a ∈ s.active, Works job result a
  ended : ∀ d ∈ s.done, Done job result d
  cause : ∀ e, s.error? = some e → Cause job result e
  distinct : (hand ++ s.active.map Active.index).Nodup
  placed : s.error? = none →
    (hand ++ s.active.map Active.index ++ s.done.map Prod.fst ++ waiting.map Prod.fst).Perm
      (List.range job.projects.length)

variable {job : Job} {tools : List Tool} {result : Nat → Tool → Execution} {s : State}

/-- The projects that wait may be let go once an error has ended the run. -/
theorem Kept.of_waiting {hand : List Nat} {waiting waiting' : List (Nat × String)}
    (kept : Kept job result hand waiting s)
    (h : waiting' = waiting ∨ waiting' = [] ∧ s.error?.isSome) :
    Kept job result hand waiting' s := by
  obtain rfl | ⟨rfl, hended⟩ := h
  · exact kept
  · refine ⟨by simp, kept.works, kept.ended, kept.cause, kept.distinct, fun hgoes => ?_⟩
    rw [hgoes] at hended
    cases hended

/-! ## Ending a project -/

theorem pending_settle (index : Nat) (project : String)
    (outcome : Except AuditError ProjectOutcome) (s : State) :
    (settle job index project outcome s).pending = s.pending ∨
      (settle job index project outcome s).pending = [] ∧
        (settle job index project outcome s).error?.isSome := by
  unfold settle
  split
  · exact .inl rfl
  · split
    · exact .inr ⟨rfl, rfl⟩
    · split
      · exact .inr ⟨rfl, rfl⟩
      · exact .inl rfl

theorem pending_place (before : List Active) (index : Nat) (project : String) (m : Audit.Moment)
    (after : List Active) (s : State) :
    (place job before index project m after s).pending = s.pending ∨
      (place job before index project m after s).pending = [] ∧
        (place job before index project m after s).error?.isSome := by
  unfold place
  split
  · exact .inl rfl
  · exact pending_settle ..

/-- Taking the end of the project in hand keeps the books. -/
theorem Kept.settle {waiting : List (Nat × String)} {index : Nat} {project : String}
    {outcome : Except AuditError ProjectOutcome} (kept : Kept job result [index] waiting s)
    (hlisted : job.projects[index]? = some project)
    (hok : ∀ o, outcome = .ok o → o.project = project ∧ (job.stopOnError = true →
      ∀ t ∈ (job.audit project).tools, ∃ findings,
        Audit.harvest (job.audit project) (result index) t = .ok findings))
    (herror : ∀ e, outcome = .error e → Cause job result e) :
    Kept job result [] waiting (settle job index project outcome s) := by
  have hdistinct : (s.active.map Active.index).Nodup := (List.nodup_cons.mp kept.distinct).2
  unfold Schedule.settle
  split
  · rename_i o
    obtain ⟨rfl, hfine⟩ := hok o rfl
    refine ⟨kept.waits, kept.works, ?_, kept.cause, hdistinct, fun hgoes => ?_⟩
    · intro d hd
      rcases List.mem_append.mp hd with hd | hd
      · exact kept.ended d hd
      · rw [List.mem_singleton.mp hd]
        exact ⟨hlisted, hfine⟩
    · refine .trans ?_ (kept.placed hgoes)
      simp only [List.map_append, List.map_cons, List.map_nil, List.nil_append,
        List.cons_append, List.append_assoc]
      -- the project in hand goes behind those at work and those that are done
      exact List.perm_middle.append_left _ |>.trans List.perm_middle
  · rename_i e
    have hcause := herror e rfl
    split
    · refine ⟨kept.waits, kept.works, kept.ended, fun e' he' => ?_, hdistinct,
        fun hgoes => by simp at hgoes⟩
      -- the first error of a run stays, whatever fails after it
      cases hfirst : s.error? with
      | none =>
        simp only [hfirst, Option.getD_none, Option.some.injEq] at he'
        exact he' ▸ hcause
      | some first =>
        simp only [hfirst, Option.getD_some, Option.some.injEq] at he'
        exact he' ▸ kept.cause first hfirst
    · rename_i hgoes
      obtain ⟨cause, rfl⟩ | ⟨hstop, -⟩ := hcause
      · refine ⟨kept.waits, by simp, kept.ended, fun e' he' => ?_, by simp,
          fun hgoes => by simp at hgoes⟩
        cases he'
        exact .inl ⟨cause, rfl⟩
      · exact absurd hstop hgoes

theorem outcomeHere_eq_ok {project : String} {r : Except AuditError Summary} {o : ProjectOutcome} :
    outcomeHere project r = .ok o ↔ ∃ sum, r = .ok sum ∧ o = ⟨project, some sum, 0⟩ := by
  cases r with
  | ok sum => simp [outcomeHere, Except.map, eq_comm]
  | error e => simp [outcomeHere, Except.map]

theorem outcomeHere_eq_error {project : String} {r : Except AuditError Summary} {e : AuditError} :
    outcomeHere project r = .error e ↔ r = .error e := by
  cases r with
  | ok sum => simp [outcomeHere, Except.map]
  | error e' => simp [outcomeHere, Except.map]

/-- What came of the audit in hand is put back to work or taken as its end. -/
theorem Kept.place {waiting : List (Nat × String)} {before after : List Active} {index : Nat}
    {project : String} {m : Audit.Moment} (here : job.Here tools)
    (kept : Kept job result [index] waiting { s with active := before ++ after })
    (hlisted : job.projects[index]? = some project)
    (stands : Audit.Stands (job.audit project) (result index) m.1) :
    Kept job result [] waiting (place job before index project m after s) := by
  have hnodup : (job.audit project).tools.Nodup := here.tools project ▸ here.nodup
  unfold Schedule.place
  split
  · rename_i hopen
    -- the audit in hand goes back between the others, where its index was
    refine ⟨kept.waits, fun a ha => ?_, kept.ended, kept.cause, ?_, fun hgoes => ?_⟩
    · rcases List.mem_append.mp ha with ha | ha
      · exact kept.works a (List.mem_append_left _ ha)
      · rcases List.mem_cons.mp ha with rfl | ha
        · exact ⟨hlisted, m.1, rfl, hopen, stands⟩
        · exact kept.works a (List.mem_append_right _ ha)
    · have hdistinct := kept.distinct
      simp only [List.map_append, List.map_cons, List.nil_append, List.singleton_append]
        at hdistinct ⊢
      exact List.perm_middle.nodup_iff.mpr hdistinct
    · refine .trans ?_ (kept.placed hgoes)
      simp only [List.map_append, List.map_cons, List.nil_append, List.cons_append,
        List.append_assoc]
      exact List.perm_middle
  · rename_i r hend
    refine Kept.settle ⟨kept.waits, kept.works, kept.ended, kept.cause, kept.distinct, kept.placed⟩
      hlisted (fun o ho => ?_) (fun e he => ?_)
    · obtain ⟨sum, rfl, rfl⟩ := outcomeHere_eq_ok.mp ho
      exact ⟨rfl, fun hstop => stands.harvest_of_ok (here.coherent project) hnodup
        (by rw [here.stopOnError, hstop]) hend⟩
    · obtain rfl := outcomeHere_eq_error.mp he
      rcases stands.cause_of_error (here.coherent project) hnodup hend with hstorage | hfails
      · exact .inl hstorage
      · obtain ⟨hstop, t, ht, failure, hfailure, -⟩ := hfails
        exact .inr ⟨here.stopOnError project ▸ hstop, index, project, hlisted, t, ht, failure,
          hfailure⟩

/-! ## Starting projects -/

/-- Starting the first of the projects that wait keeps the books. -/
theorem Kept.begin {rest : List (Nat × String)} {index : Nat} {project : String} {now : Nat}
    (here : job.Here tools) (kept : Kept job result [] ((index, project) :: rest) s)
    (hgoes : s.error? = none) :
    Kept job result [] rest (begin job now index project s) := by
  have hplaced : (index :: s.active.map Active.index ++ s.done.map Prod.fst ++
      rest.map Prod.fst).Perm (List.range job.projects.length) := by
    refine .trans ?_ (kept.placed hgoes)
    simp only [List.map_cons, List.nil_append, List.cons_append]
    exact List.perm_middle.symm
  have hdistinct : (index :: s.active.map Active.index).Nodup := by
    -- a project that waits is not at work, since every place is counted once
    have hnodup := hplaced.nodup_iff.mpr List.nodup_range
    exact hnodup.of_append_left.of_append_left
  have hand : Kept job result [index] rest { s with active := s.active ++ [] } := by
    rw [List.append_nil]
    exact ⟨fun w hw => kept.waits w (List.mem_cons_of_mem _ hw), kept.works, kept.ended,
      kept.cause, hdistinct, fun _ => hplaced⟩
  unfold Schedule.begin
  rw [if_neg (by simp [here.apart])]
  exact hand.place here (kept.waits _ List.mem_cons_self) (Audit.stands_launch _ _ _ _)

/-- Starting projects keeps the books. -/
theorem Kept.start (here : job.Here tools) {waiting : List (Nat × String)} (now : Nat)
    (kept : Kept job result [] waiting s) :
    Kept job result [] (start job now waiting s).pending (start job now waiting s) := by
  induction waiting generalizing s with
  | nil => exact ⟨kept.waits, kept.works, kept.ended, kept.cause, kept.distinct, kept.placed⟩
  | cons first rest ih =>
    obtain ⟨index, project⟩ := first
    unfold Schedule.start
    split
    · rename_i hended
      have hempty := kept.of_waiting (.inr ⟨rfl, hended⟩)
      exact ⟨by simp, hempty.works, hempty.ended, hempty.cause, hempty.distinct, hempty.placed⟩
    · rename_i hgoes
      split
      · exact ⟨kept.waits, kept.works, kept.ended, kept.cause, kept.distinct, kept.placed⟩
      · exact ih (kept.begin here (by simpa using hgoes))

theorem Kept.fill (here : job.Here tools) (now : Nat) (kept : Kept job result [] s.pending s) :
    Kept job result [] (fill job now s).pending (fill job now s) := kept.start here now

theorem kept_launch (here : job.Here tools) (now : Nat) (r : Records) :
    Kept job result [] (launch job now r).pending (launch job now r) := by
  refine Kept.fill here now ⟨?_, by simp, by simp, by simp, by simp, fun _ => ?_⟩
  · intro w hw
    obtain ⟨⟨project, index⟩, hmem, rfl⟩ := List.mem_map.mp hw
    exact List.mem_zipIdx_iff_getElem?.mp hmem
  · simp only [List.map_nil, List.nil_append, List.map_map]
    rw [show Prod.fst ∘ _ = (Prod.snd : String × Nat → Nat) from rfl, List.zipIdx_map_snd,
      List.range_eq_range']

/-! ## Deliveries -/

/-- What is at work on a project in this process is one of the tools that run. -/
theorem mem_inFlight {index : Nat} {tool : Tool} :
    (index, some tool) ∈ s.inFlight ↔ ∃ a ∈ s.active, a.index = index ∧
      ∃ audit, a.work = .here audit ∧ tool ∈ audit.running := by
  unfold State.inFlight
  rw [List.mem_flatMap]
  refine exists_congr fun a => and_congr_right fun _ => ?_
  unfold Active.units
  cases a.work with
  | child => simp
  | here audit => simp [eq_comm, and_comm]

/-- Where projects at work are told apart by their places, each is found by its place. -/
theorem split?_of_mem {active : List Active} (hdistinct : (active.map Active.index).Nodup)
    {a : Active} (ha : a ∈ active) :
    ∃ before after, active = before ++ a :: after ∧
      split? a.index active = some (before, a, after) := by
  induction active with
  | nil => cases ha
  | cons b rest ih =>
    obtain ⟨hfirst, hrest⟩ := List.nodup_cons.mp hdistinct
    rcases List.mem_cons.mp ha with rfl | ha
    · exact ⟨[], rest, rfl, by simp [split?]⟩
    · obtain ⟨before, after, rfl, hsplit⟩ := ih hrest ha
      have hne : b.index ≠ a.index := fun heq =>
        hfirst (heq ▸ List.mem_map_of_mem (by simp))
      exact ⟨b :: before, after, rfl, by simp [split?, hne, hsplit]⟩

/-- What a delivery does where projects at work are told apart by their places: the audit of the
project takes it, and goes on or has come to its end. -/
theorem deliver_eq_fill (hdistinct : (s.active.map Active.index).Nodup) {index : Nat} {tool : Tool}
    (hflight : (index, some tool) ∈ s.inFlight) :
    ∃ before project audit after, s.active = before ++ ⟨index, project, .here audit⟩ :: after ∧
      tool ∈ audit.running ∧
      ∀ now res, deliver job now index tool res s = fill job now (place job before index project
        (Audit.deliver (job.audit project) now tool res (audit, s.records)) after s) := by
  obtain ⟨⟨index', project, work⟩, ha, rfl, audit, rfl, hrunning⟩ := mem_inFlight.mp hflight
  obtain ⟨before, after, hactive, hsplit⟩ := split?_of_mem hdistinct ha
  refine ⟨before, project, audit, after, hactive, hrunning, ?_⟩
  intro now res
  simp only [deliver, hsplit]

/-- A delivery to a run that keeps its books is one to an audit that goes on. -/
theorem deliver_of_kept (kept : Kept job result [] s.pending s) {index : Nat} {tool : Tool}
    (hflight : (index, some tool) ∈ s.inFlight) :
    ∃ before project audit after, s.active = before ++ ⟨index, project, .here audit⟩ :: after ∧
      job.projects[index]? = some project ∧ audit.outcome? = none ∧ tool ∈ audit.running ∧
      Audit.Stands (job.audit project) (result index) audit ∧
      ∀ now res, deliver job now index tool res s = fill job now (place job before index project
        (Audit.deliver (job.audit project) now tool res (audit, s.records)) after s) := by
  obtain ⟨before, project, audit, after, hactive, hrunning, heq⟩ :=
    deliver_eq_fill (by simpa using kept.distinct) hflight
  obtain ⟨hlisted, audit', hwork, hopen, stands⟩ :=
    kept.works ⟨index, project, .here audit⟩ (by rw [hactive]; simp)
  cases hwork
  exact ⟨before, project, audit, after, hactive, hlisted, hopen, hrunning, stands, heq⟩

/-- A delivery keeps the books. -/
theorem Kept.deliver (here : job.Here tools) (kept : Kept job result [] s.pending s) (now : Nat)
    {index : Nat} {tool : Tool} (hflight : (index, some tool) ∈ s.inFlight) :
    Kept job result [] (deliver job now index tool (result index tool) s).pending
      (deliver job now index tool (result index tool) s) := by
  obtain ⟨before, project, audit, after, hactive, hlisted, hopen, hrunning, stands, heq⟩ :=
    deliver_of_kept kept hflight
  have hand : Kept job result [index] s.pending { s with active := before ++ after } := by
    refine ⟨kept.waits, fun a ha => kept.works a ?_, kept.ended, kept.cause, ?_, fun hgoes => ?_⟩
    · rw [hactive]
      rcases List.mem_append.mp ha with ha | ha
      · exact List.mem_append_left _ ha
      · exact List.mem_append_right _ (List.mem_cons_of_mem _ ha)
    · have hdistinct := kept.distinct
      rw [hactive] at hdistinct
      simp only [List.map_append, List.map_cons, List.nil_append, List.singleton_append]
        at hdistinct ⊢
      exact List.perm_middle.nodup_iff.mp hdistinct
    · refine .trans ?_ (kept.placed hgoes)
      simp only [hactive, List.map_append, List.map_cons, List.nil_append, List.cons_append,
        List.append_assoc]
      exact List.perm_middle.symm
  rw [heq]
  have hplaced := hand.place here hlisted
    (stands.deliver (m := (audit, s.records)) hopen now hrunning)
  exact Kept.fill here now (hplaced.of_waiting (pending_place ..))

/-- **A run keeps its books**, in whatever order its tools end. -/
theorem Delivered.kept (here : job.Here tools) {start : State} {slots : List Slot}
    (kept : Kept job result [] start.pending start) (run : Delivered job result start slots s) :
    Kept job result [] s.pending s := by
  induction run with
  | nil => exact kept
  | snoc now _ hflight ih => exact ih.deliver here now hflight

end LintLedger.Schedule
