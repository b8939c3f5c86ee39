import LintLedger.Proofs.CommandLine.Understood
import LintLedger.Proofs.Schedule.Room
import LintLedger.Proofs.Session.Apart
import Mathlib.Algebra.Order.BigOperators.Group.List

/-!
# How many tools an audit has at work

A run may give each of its projects to a process of its own, which then has a run itself.  If
none of these has room for more tools than an audit of the run, all of them together have no more
tools at work than the run has room for.

An audit is asked for some number of jobs, which its plan shares out: to the projects that are at
work at once, and to the tools of each.  A session for one project gets its share on its command
line.  So the number of tools at work never exceeds the jobs, counted over all projects and all
sessions, in whatever order tools and sessions end.

## Main Definitions

* `Schedule.Fleet`, `Schedule.Fleet.Step` -- a run with the runs of its processes
* `Schedule.Fleet.tools` -- how many tools are at work in all of them
* `Schedule.Job.Alone` -- runs over one project, in the process that they have begun in
* `Session.Begins` -- the runs that a session may begin that is given a command line
* `AuditPlan.Reaches` -- the moments of an audit with all the sessions for its projects

## Main Statements

* `Schedule.Fleet.Reached.fits` -- every run stays within its room
* `Schedule.Fleet.Fits.tools_le` -- how many tools are at work at most
* `AuditPlan.alone_of_begins` -- what a session for one project begins
* `AuditPlan.tools_le_jobs` -- how many tools are at work at every moment of an audit
-/

namespace LintLedger.Schedule

/-! ## A run with the runs of its processes -/

/-- A run with the runs of its processes, by the places of their projects.  A process that has not
begun its run, or never will, has none. -/
structure Fleet where
  own : Shift
  runs : Nat → Option (Job × Shift)

namespace Fleet

/-- A fleet in which the process of the project at a place has come to some moment of its run. -/
def put (f : Fleet) (index : Nat) (child : Job) (w : Shift) : Fleet :=
  { f with runs := fun i => if i = index then some (child, w) else f.runs i }

/-- The steps of a fleet, where `Begins` says which runs the process for a project may begin: the
run itself makes a step, a process begins its run, or the run of a process makes a step. -/
inductive Step (Begins : String → Job → Prop) (job : Job) : Fleet → Fleet → Prop where
  | own {f : Fleet} {w : Shift} : Shift.Step job f.own w → Step Begins job f { f with own := w }
  | begin {f : Fleet} {index : Nat} {project : String} {child : Job} (now : Nat) (r : Records) :
      ⟨index, project, .child⟩ ∈ f.own.state.active → f.runs index = none →
      Begins project child → Step Begins job f (f.put index child ⟨launch child now r, []⟩)
  | inner {f : Fleet} {index : Nat} {project : String} {child : Job} {w w' : Shift} :
      ⟨index, project, .child⟩ ∈ f.own.state.active → f.runs index = some (child, w) →
      Shift.Step child w w' → Step Begins job f (f.put index child w')

/-- The moments of a fleet, for every order in which its steps are made. -/
inductive Reached (Begins : String → Job → Prop) (job : Job) : Fleet → Prop where
  | launch (now : Nat) (r : Records) : Reached Begins job ⟨⟨launch job now r, []⟩, fun _ => none⟩
  | step {f f' : Fleet} : Reached Begins job f → Step Begins job f f' → Reached Begins job f'

/-- How many tools are at work in one slot: the tool itself, or what is at work in a process. -/
def weight (f : Fleet) (u : Slot) : Nat :=
  match u.2 with
  | some _ => 1
  | none => ((f.runs u.1).map fun run => run.2.tools).getD 0

/-- How many tools are at work in the run and in all its processes. -/
def tools (f : Fleet) : Nat := (f.own.state.inFlight.map f.weight).sum + f.own.adrift.length

end Fleet

/-- A run that audits one project at a time and gives none to another process, where an audit has
room for so many tools. -/
structure Job.Alone (job : Job) (share : Nat) : Prop where
  apart : job.apart = false
  outer : job.outer = 1
  shares : job.Shares share

namespace Fleet

variable {Begins : String → Job → Prop} {job : Job} {share : Nat} {f f' : Fleet}

/-- A fleet of which every run stays within its room. -/
structure Fits (job : Job) (share : Nat) (f : Fleet) : Prop where
  own : f.own.Fits job share
  runs : ∀ index child w, f.runs index = some (child, w) → child.Alone share ∧ w.Fits child share

theorem Fits.put (fits : f.Fits job share) {index : Nat} {child : Job} {w : Shift}
    (alone : child.Alone share) (fits' : w.Fits child share) :
    (f.put index child w).Fits job share := by
  refine ⟨fits.own, fun i c v hrun => ?_⟩
  unfold Fleet.put at hrun
  dsimp only at hrun
  split at hrun
  · cases hrun
    exact ⟨alone, fits'⟩
  · exact fits.runs i c v hrun

/-- Every step of a fleet leaves its runs within their room. -/
theorem Fits.step (shares : job.Shares share)
    (begins : ∀ project child, Begins project child → child.Alone share)
    (fits : f.Fits job share) (step : Step Begins job f f') : f'.Fits job share := by
  cases step with
  | own hstep => exact ⟨fits.own.step shares hstep, fits.runs⟩
  | begin now r hactive hnone hbegins =>
    exact fits.put (begins _ _ hbegins) (Shift.fits_launch _ share now r)
  | inner hactive hrun hstep =>
    obtain ⟨alone, fits'⟩ := fits.runs _ _ _ hrun
    exact fits.put alone (fits'.step alone.shares hstep)

/-- **Every run of a fleet stays within its room**, in whatever order its steps are made. -/
theorem Reached.fits (shares : job.Shares share)
    (begins : ∀ project child, Begins project child → child.Alone share)
    (reached : Reached Begins job f) : f.Fits job share := by
  induction reached with
  | launch now r => exact ⟨Shift.fits_launch job share now r, by simp⟩
  | step _ hstep ih => exact ih.step shares begins hstep

/-- A project counts for no more tools than an audit has room for, wherever it is audited. -/
theorem Fits.sum_weight_le (shares : job.Shares share) (fits : f.Fits job share) {a : Active}
    (ha : a ∈ f.own.state.active) : (a.units.map f.weight).sum ≤ share := by
  have uses := fits.own.orderly.uses a ha
  obtain ⟨index, project, work⟩ := a
  cases work with
  | here audit =>
    have hunits := uses.units_length_le shares
    have hones : (Active.units ⟨index, project, .here audit⟩).map f.weight =
        List.replicate audit.running.length 1 := by
      simp [Active.units, Function.comp_def, weight, List.map_const']
    rw [hones, List.sum_replicate]
    simpa [Active.units] using hunits
  | child =>
    have hweight : ((Active.units ⟨index, project, .child⟩).map f.weight).sum =
        ((f.runs index).map fun run => run.2.tools).getD 0 := by
      simp [Active.units, weight]
    rw [hweight]
    cases hrun : f.runs index with
    | none => exact Nat.zero_le _
    | some run =>
      obtain ⟨alone, fits'⟩ := fits.runs index run.1 run.2 hrun
      have htools := fits'.tools_le alone.shares
      rwa [alone.outer, Nat.one_mul] at htools

/-- **No more tools are at work in all processes than a run has room for.** -/
theorem Fits.tools_le (shares : job.Shares share) (fits : f.Fits job share) :
    f.tools ≤ job.outer * share := by
  have hsum : (f.own.state.inFlight.map f.weight).sum =
      (f.own.state.active.map fun a => (a.units.map f.weight).sum).sum := by
    rw [State.inFlight, List.map_flatMap, List.flatMap, List.sum_flatten, List.map_map]
    rfl
  have hactive := sum_active_le fun a ha => fits.sum_weight_le shares (a := a) ha
  have hroom := fits.own.room
  unfold tools
  rw [hsum]
  omega

/-- Where no project has a process of its own, tools are at work as long as something waits. -/
theorem Fits.tools_pos_here (fits : f.Fits job share) (houter : 0 < job.outer)
    (hhere : job.apart = false) (hwaits : f.own.state.Waits) : 0 < f.tools := by
  obtain ⟨u, hu⟩ := List.exists_mem_of_ne_nil _ (fits.own.inFlight_ne_nil houter hwaits)
  obtain ⟨tool, htool⟩ := Option.isSome_iff_exists.mp (fits.own.isSome_of_mem_inFlight hhere hu)
  have hone : f.weight u = 1 := by rw [weight, htool]
  have hsum : f.weight u ≤ (f.own.state.inFlight.map f.weight).sum :=
    List.le_sum_of_mem (List.mem_map_of_mem hu)
  unfold tools
  omega

/-- As long as something waits in the run of a process, tools are at work in it. -/
theorem Fits.tools_pos (fits : f.Fits job share) {index : Nat} {child : Job} {w : Shift}
    (hrun : f.runs index = some (child, w)) (hwaits : w.state.Waits) : 0 < w.tools := by
  obtain ⟨alone, fits'⟩ := fits.runs index child w hrun
  exact fits'.tools_pos (by rw [alone.outer]; exact Nat.one_pos) alone.apart hwaits

end Fleet

end LintLedger.Schedule

namespace LintLedger

/-! ## An audit with the sessions for its projects -/

/-- The runs that a session may begin that is given a command line: those of the audit that it is
asked for, under whatever settings and in whatever file tree the session finds. -/
inductive Session.Begins (args : List String) : Schedule.Job → Prop where
  | audit {i : Invocation} {request : AuditRequest} {root : String} {loaded : Settings}
      {q : AuditPlan} (now : Timestamp) (dir : String) (t : FileTree) :
      CommandLine.parse args = .ok i → i.command = .audit request →
      AuditPlan.ofRequest? root i.config? request (Session.withInvocation loaded i) = .ok q →
      Begins args (q.job now (q.projects dir t))

theorem plan_outer_pos (strategy : Strategy) (jobs projects : Nat) :
    0 < (plan strategy jobs projects).outer := by
  unfold plan
  dsimp only
  split
  · exact Nat.one_pos
  · rename_i hseveral
    have hprojects : 1 < projects := Nat.lt_of_not_le fun h => hseveral (.inr h)
    omega

theorem plan_inner_pos (strategy : Strategy) (jobs projects : Nat) :
    0 < (plan strategy jobs projects).inner := by
  have hjobs : 0 < max jobs 1 := by omega
  unfold plan
  dsimp only
  generalize (if strategy = .none ∨ projects ≤ 1 then 1 else min (max jobs 1) projects) = outer
  split
  · exact Nat.one_pos
  · exact hjobs

namespace AuditPlan

variable {p : AuditPlan} {now : Timestamp} {projects : List String}

/-- How many tools of one project are at work at once. -/
def inner (p : AuditPlan) (projects : List String) : Nat :=
  (plan p.request.strategy p.jobs projects.length).inner

/-- The moments of an audit of some projects with the sessions for them, for every order in which
tools and sessions end and whatever comes of them. -/
def Reaches (p : AuditPlan) (now : Timestamp) (projects : List String) : Schedule.Fleet → Prop :=
  Schedule.Fleet.Reached
    (fun project => Session.Begins (p.arguments (p.inner projects) project)) (p.job now projects)

/-- Every audit of a run has room for the tools that the plan leaves to a project. -/
theorem shares_job (p : AuditPlan) (now : Timestamp) (projects : List String) :
    (p.job now projects).Shares (p.inner projects) := by
  intro project
  have hpos : 0 < p.inner projects := plan_inner_pos ..
  change max 1 (min (p.inner projects) p.tools.length) ≤ p.inner projects
  omega

/-- **A session for one project begins a run over that project alone**, with the jobs that its
command line names. -/
theorem alone_of_begins (hresolved : resolveTools p.names = .ok p.tools) {inner : Nat}
    (hinner : 0 < inner) {project : String} {child : Schedule.Job}
    (begins : Session.Begins (p.arguments inner project) child) : child.Alone inner := by
  cases begins with
  | @audit i request root loaded q now dir t hparse hcommand hplan =>
    obtain ⟨request', hcommand', hjobs, hstrategy, hsingle⟩ :=
      CommandLine.request_of_parse_childArguments
        (CommandLine.isValue_of_resolveTools hresolved) hparse
    obtain rfl : request' = request := by
      rw [hcommand] at hcommand'
      cases hcommand'
      rfl
    obtain ⟨-, -, rfl⟩ := asked_of_ofRequest? hplan
    have hown : q.jobs = inner := by
      rw [jobs, hjobs, Option.getD_some]
      omega
    have hshare : q.inner (q.projects dir t) = inner := by
      simp only [AuditPlan.inner, plan, hstrategy, true_or, if_true, hown]
      rw [if_neg (by omega)]
      omega
    refine ⟨by simp [job, isApart, hstrategy], by simp [job, plan, hstrategy], ?_⟩
    exact hshare ▸ q.shares_job now (q.projects dir t)

/-- **How many tools an audit has at work**: never more than it has jobs, in all its projects and
their sessions.  As long as a project or a tool waits something is at work, which is a tool unless
projects have sessions of their own; and so it is in each of these. -/
theorem tools_le_jobs {root : String} {config? : Option String} {request : AuditRequest}
    {settings : Settings} (hplan : ofRequest? root config? request settings = .ok p)
    {f : Schedule.Fleet} (reaches : p.Reaches now projects f) :
    f.tools ≤ max 1 (request.jobs?.getD settings.execution.jobs) ∧
      (f.own.state.Waits → f.own.state.inFlight ≠ [] ∧ (p.isApart = false → 0 < f.tools)) ∧
      ∀ index child w, f.runs index = some (child, w) → w.state.Waits → 0 < w.tools := by
  obtain ⟨hresolved, hp⟩ := ofRequest?_eq_ok_iff.mp hplan
  have hjobs : p.jobs = max 1 (request.jobs?.getD settings.execution.jobs) := by
    rw [hp]
    rfl
  have hnamed : resolveTools p.names = .ok p.tools := by
    rw [hp]
    exact hresolved
  have fits := Schedule.Fleet.Reached.fits (p.shares_job now projects)
    (fun project child => alone_of_begins hnamed (plan_inner_pos ..)) reaches
  have houter : 0 < (p.job now projects).outer := plan_outer_pos ..
  refine ⟨?_, fun hwaits => ⟨fits.own.inFlight_ne_nil houter hwaits, fun hhere => ?_⟩,
    fun index child w hrun hwaits => fits.tools_pos hrun hwaits⟩
  · have hplanned := plan_outer_mul_inner_le p.request.strategy p.jobs projects.length
    have hone : max p.jobs 1 = p.jobs := by
      rw [hjobs]
      omega
    rw [← hjobs]
    exact (fits.tools_le (p.shares_job now projects)).trans (hplanned.trans hone.le)
  · exact fits.tools_pos_here houter hhere hwaits

/-- An audit of three projects with two jobs, in sessions of their own: two sessions have begun
their runs, with a tool each, and the third project waits. -/
theorem tools_le_jobs_of_two_sessions :
    ∃ (p : AuditPlan) (now : Timestamp) (f : Schedule.Fleet),
      ofRequest? "/w" none { tools := ["vulture"], jobs? := some 2, strategy := .process } {} =
        .ok p ∧
      p.Reaches now ["/w/api", "/w/cli", "/w/web"] f ∧ f.own.state.Waits ∧ f.tools = 2 ∧
      f.tools ≤ max 1 2 ∧ f.own.state.inFlight ≠ [] ∧
      ∀ index child w, f.runs index = some (child, w) → w.state.Waits → 0 < w.tools := by
  let request : AuditRequest := { tools := ["vulture"], jobs? := some 2, strategy := .process }
  let p : AuditPlan := ⟨"/w", request, {}, none, ["vulture"], [.vulture]⟩
  let now : Timestamp := ⟨2024, 1, 1, 0, 0, 0⟩
  let job := p.job now ["/w/api", "/w/cli", "/w/web"]
  let child (project : String) : Schedule.Job :=
    (p.ownPlan 1 project).job now ((p.ownPlan 1 project).projects "/" (.dir []))
  let begun (project : String) : Schedule.Shift :=
    ⟨Schedule.launch (child project) 0 ⟨none, []⟩, []⟩
  let launched : Schedule.Fleet := ⟨⟨Schedule.launch job 0 ⟨none, []⟩, []⟩, fun _ => none⟩
  have hplan : ofRequest? "/w" none request {} = .ok p := rfl
  have hactive : launched.own.state.active = [⟨0, "/w/api", .child⟩, ⟨1, "/w/cli", .child⟩] := rfl
  have hreadable : CommandLine.Readable p.passedOn :=
    { config := fun path hpath => by cases hpath
      database := fun path hpath => by cases hpath; decide }
  have hbegins (project : String) (hpath : CommandLine.IsPath project) :
      Session.Begins (p.arguments 1 project) (child project) := by
    have hparse : CommandLine.parse (p.arguments 1 project) = .ok _ :=
      CommandLine.parse_childArguments_of_readable hreadable hpath
        (CommandLine.isValue_of_resolveTools (ofRequest?_eq_ok_iff.mp hplan).1)
        (show 1 < Nat.pow 2 64 by decide)
    exact @Session.Begins.audit _ _ _ project {} (p.ownPlan 1 project) now "/" (.dir []) hparse
      rfl rfl
  let first := launched.put 0 (child "/w/api") (begun "/w/api")
  let f := first.put 1 (child "/w/cli") (begun "/w/cli")
  have hfirst : p.Reaches now ["/w/api", "/w/cli", "/w/web"] first :=
    .step (.launch 0 ⟨none, []⟩) (.begin 0 ⟨none, []⟩ (by rw [hactive]; simp) rfl
      (hbegins "/w/api" (by decide)))
  have hreaches : p.Reaches now ["/w/api", "/w/cli", "/w/web"] f :=
    .step hfirst (.begin 0 ⟨none, []⟩ (show _ ∈ launched.own.state.active by rw [hactive]; simp) rfl
      (hbegins "/w/cli" (by decide)))
  have hwaits : f.own.state.Waits := .inl (by decide)
  have htools : f.tools = 2 := by decide
  obtain ⟨hle, hworks, hruns⟩ := tools_le_jobs hplan hreaches
  exact ⟨p, now, f, hplan, hreaches, hwaits, htools, hle, (hworks hwaits).1, hruns⟩

end AuditPlan

end LintLedger
