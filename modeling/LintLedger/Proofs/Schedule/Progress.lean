import LintLedger.Proofs.Audit.Progress
import LintLedger.Proofs.Schedule.Course
import LintLedger.Schedule.Timed

/-!
# Progress of runs

Every delivery to a run over several projects uses up one of the tools that it has yet to hear of,
so that a run ends after at most one delivery for every tool of every project.  When nothing is at
work any more, no project waits.

A run against a clock starts what is at work, delivers what ends first and goes on as long as
anything is at work.  What each of these steps keeps, the whole run keeps; and as every delivery
uses something up, the run ends with nothing at work.

## Main Definitions

* `Schedule.burden` -- how many tools a run has yet to hear of
* `Schedule.State.Crowded` -- projects wait only where there is no room for them
* `Schedule.Invariant` -- a property that every step keeps, with a measure that deliveries decrease
* `Schedule.Answering` -- an executor whose tools do the same whenever they are started
* `Schedule.Underway` -- what each step of a run in this process keeps

## Main Statements

* `Schedule.Delivered.length_add_burden_le` -- every delivery leaves less to be delivered
* `Schedule.Delivered.finished` -- a run in which nothing is at work has nothing left to start
* `Schedule.Invariant.runFor` -- a run that is long enough keeps an invariant and ends
* `Schedule.run_here` -- a run in this process is one of deliveries in some order
-/

namespace LintLedger.Schedule

section Deliveries

variable {job : Job} {tools : List Tool} {result : Nat → Tool → Execution} {s : State}

/-! ## What is yet to be delivered -/

/-- How many tools the audit of a project at work has yet to hear of. -/
def Active.load (a : Active) : Nat :=
  match a.work with
  | .here audit => audit.load
  | .child => 0

/-- How many tools a run has yet to hear of when some projects wait. -/
def burden (job : Job) (waiting : List (Nat × String)) (s : State) : Nat :=
  (waiting.map fun w => (job.audit w.2).tools.length).sum + (s.active.map Active.load).sum

theorem burden_settle_le (waiting : List (Nat × String)) (index : Nat) (project : String)
    (outcome : Except AuditError ProjectOutcome) (s : State) :
    burden job waiting (settle job index project outcome s) ≤ burden job waiting s := by
  unfold settle
  split
  · exact Nat.le_refl _
  · split
    · exact Nat.le_refl _
    · split
      · simp [burden]
      · exact Nat.le_refl _

/-- Letting go of the projects that wait leaves less to be delivered. -/
theorem burden_of_waiting_le {waiting waiting' : List (Nat × String)} {p : Prop}
    (h : waiting' = waiting ∨ waiting' = [] ∧ p) :
    burden job waiting' s ≤ burden job waiting s := by
  obtain rfl | ⟨rfl, -⟩ := h
  · exact Nat.le_refl _
  · simp [burden]

/-- A project put back to work adds what its audit has yet to hear of, one that ended nothing. -/
theorem burden_place_le (job : Job) (waiting : List (Nat × String)) (before after : List Active)
    (index : Nat) (project : String) {m : Audit.Moment} {bound : Nat}
    (hbound : m.1.outcome? = none → m.1.load ≤ bound) (s : State) :
    burden job waiting (place job before index project m after s) ≤
      burden job waiting { s with active := before ++ after } + bound := by
  unfold place
  split
  · rename_i hopen
    have hload := hbound hopen
    simp only [burden, List.map_append, List.map_cons, List.sum_append, List.sum_cons, Active.load]
    omega
  · exact Nat.le_add_right_of_le (burden_settle_le ..)

theorem burden_begin_le (here : job.Here tools) (now : Nat) (rest : List (Nat × String))
    (index : Nat) (project : String) (s : State) :
    burden job rest (begin job now index project s) ≤ burden job ((index, project) :: rest) s := by
  unfold begin
  rw [if_neg (by simp [here.apart])]
  have hload : (Audit.launch (job.audit project) now s.records).1.outcome? = none →
      (Audit.launch (job.audit project) now s.records).1.load ≤ (job.audit project).tools.length :=
    fun hopen => (Audit.load_launch hopen).le
  have hplace := burden_place_le job rest s.active [] index project hload s
  simp only [burden, List.append_nil, List.map_cons, List.sum_cons] at hplace ⊢
  omega

theorem burden_start_le (here : job.Here tools) (now : Nat) (waiting : List (Nat × String))
    (s : State) :
    burden job (start job now waiting s).pending (start job now waiting s) ≤
      burden job waiting s := by
  induction waiting generalizing s with
  | nil => exact Nat.le_refl _
  | cons first rest ih =>
    obtain ⟨index, project⟩ := first
    unfold start
    split
    · simp [burden]
    · split
      · exact Nat.le_refl _
      · exact (ih _).trans (burden_begin_le here now rest index project s)

/-- **Every delivery leaves less to be delivered.** -/
theorem burden_deliver_lt (here : job.Here tools) (kept : Kept job result [] s.pending s)
    (now : Nat) (res : Execution) {index : Nat} {tool : Tool}
    (hflight : (index, some tool) ∈ s.inFlight) :
    burden job (deliver job now index tool res s).pending (deliver job now index tool res s) <
      burden job s.pending s := by
  obtain ⟨before, project, audit, after, hactive, -, hopen, hrunning, -, heq⟩ :=
    deliver_of_kept kept hflight
  rw [heq]
  have hpositive : 0 < audit.load := Nat.add_pos_right _ (List.length_pos_of_mem hrunning)
  have hload : ∀ m : Audit.Moment, m.1 = audit →
      (Audit.deliver (job.audit project) now tool res m).1.outcome? = none →
      (Audit.deliver (job.audit project) now tool res m).1.load ≤ audit.load - 1 := by
    rintro m rfl hgoes
    exact Nat.le_sub_one_of_lt (Audit.load_deliver_lt res hrunning hgoes)
  have hplace := burden_place_le job s.pending before after index project
    (hload (audit, s.records) rfl) s
  refine Nat.lt_of_le_of_lt ((burden_start_le here now _ _).trans
    ((burden_of_waiting_le (pending_place ..)).trans hplace)) ?_
  simp only [burden, hactive, List.map_append, List.map_cons, List.sum_append, List.sum_cons,
    Active.load]
  omega

theorem burden_launch_le (here : job.Here tools) (now : Nat) (r : Records) :
    burden job (launch job now r).pending (launch job now r) ≤
      job.projects.length * tools.length := by
  refine (burden_start_le here now _ _).trans ?_
  simp [burden, here.tools, Function.comp_def, List.map_const']

/-- A run takes at most one delivery for every tool of every project. -/
theorem Delivered.length_add_burden_le (here : job.Here tools) {start : State}
    (kept : Kept job result [] start.pending start) {slots : List Slot}
    (run : Delivered job result start slots s) :
    slots.length + burden job s.pending s ≤ burden job start.pending start := by
  induction run with
  | nil => simp
  | @snoc slots s index tool now run hflight ih =>
    have hless := burden_deliver_lt here (run.kept here kept) now (result index tool) hflight
    rw [List.length_append, List.length_singleton]
    omega

/-! ## Starting projects -/

/-- A project that starts is put to those at work, or it has ended well at once. -/
theorem begin_keeps (job : Job) (now index : Nat) (project : String) (s : State) :
    s.active <+: (begin job now index project s).active ∧
      (begin job now index project s).error? = s.error? := by
  unfold begin
  split
  · exact ⟨List.prefix_append .., rfl⟩
  · unfold place
    split
    · exact ⟨List.prefix_append .., rfl⟩
    · rename_i r hend
      cases r with
      | ok sum => exact ⟨by simp [outcomeHere, Except.map, settle], rfl⟩
      | error e => exact absurd hend Audit.launch_outcome?_ne_error

/-- What is at work goes on when more projects are started. -/
theorem start_keeps (job : Job) (now : Nat) (waiting : List (Nat × String)) (s : State) :
    s.active <+: (start job now waiting s).active ∧
      (start job now waiting s).error? = s.error? := by
  induction waiting generalizing s with
  | nil => exact ⟨List.prefix_rfl, rfl⟩
  | cons first rest ih =>
    unfold start
    split
    · exact ⟨List.prefix_rfl, rfl⟩
    · split
      · exact ⟨List.prefix_rfl, rfl⟩
      · obtain ⟨hactive, herror⟩ := begin_keeps job now first.1 first.2 s
        obtain ⟨hactive', herror'⟩ := ih (begin job now first.1 first.2 s)
        exact ⟨hactive.trans hactive', herror'.trans herror⟩

/-- An error stays. -/
theorem isSome_error?_settle (index : Nat) (project : String)
    (outcome : Except AuditError ProjectOutcome) (h : s.error?.isSome) :
    (settle job index project outcome s).error?.isSome := by
  unfold settle
  split
  · exact h
  · split
    · rfl
    · split
      · rfl
      · exact h

theorem isSome_error?_place (before : List Active) (index : Nat) (project : String)
    (m : Audit.Moment) (after : List Active) (h : s.error?.isSome) :
    (place job before index project m after s).error?.isSome := by
  unfold place
  split
  · exact h
  · exact isSome_error?_settle index project _ h

/-- Projects wait only as long as there is no room for them. -/
def State.Crowded (job : Job) (s : State) : Prop :=
  s.pending = [] ∨ s.error? = none ∧ job.outer ≤ s.active.length

theorem crowded_start (now : Nat) (waiting : List (Nat × String)) (s : State) :
    (start job now waiting s).Crowded job := by
  induction waiting generalizing s with
  | nil => exact .inl rfl
  | cons first rest ih =>
    unfold start
    split
    · exact .inl rfl
    · rename_i hgoes
      split
      · rename_i hfull
        exact .inr ⟨by simpa using hgoes, hfull⟩
      · exact ih _

theorem Delivered.crowded (here : job.Here tools) {now : Nat} {r : Records} {slots : List Slot}
    (run : Delivered job result (launch job now r) slots s) : s.Crowded job := by
  cases run with
  | nil => exact crowded_start now _ _
  | snoc now' run hflight =>
    obtain ⟨_, _, _, _, _, _, _, _, _, heq⟩ :=
      deliver_of_kept (run.kept here (kept_launch here now r)) hflight
    rw [heq]
    exact crowded_start now' _ _

/-- A project at work has tools at work. -/
theorem Works.units_ne_nil {a : Active} (works : Works job result a) : a.units ≠ [] := by
  obtain ⟨-, audit, hwork, hopen, stands⟩ := works
  obtain ⟨-, -, -, hrunning, -⟩ := stands.of_open hopen
  simpa [Active.units, hwork] using hrunning

/-- What is at work can be delivered: it is a tool of some project. -/
theorem Kept.exists_tool (kept : Kept job result [] s.pending s) {slot : Slot}
    (hslot : slot ∈ s.inFlight) : ∃ index tool, slot = (index, some tool) := by
  obtain ⟨a, ha, hunit⟩ := List.mem_flatMap.mp hslot
  obtain ⟨-, audit, hwork, -, -⟩ := kept.works a ha
  rw [Active.units, hwork] at hunit
  obtain ⟨tool, -, rfl⟩ := List.mem_map.mp hunit
  exact ⟨a.index, tool, rfl⟩

/-- **A run in which nothing is at work has started every project**, unless it met an error. -/
theorem Delivered.finished (here : job.Here tools) {now : Nat} {r : Records} {slots : List Slot}
    (run : Delivered job result (launch job now r) slots s) (hidle : s.inFlight = []) :
    s.active = [] ∧ s.pending = [] := by
  have kept := run.kept here (kept_launch here now r)
  have hactive : s.active = [] := by
    refine List.eq_nil_iff_forall_not_mem.mpr fun a ha => ?_
    exact (kept.works a ha).units_ne_nil (List.flatMap_eq_nil_iff.mp hidle a ha)
  refine ⟨hactive, ?_⟩
  rcases run.crowded here with hpending | ⟨-, hroom⟩
  · exact hpending
  · have houter := here.outer
    rw [hactive, List.length_nil] at hroom
    omega

end Deliveries

section Clock

variable {World : Type} {x : Executor World} {job : Job} {t : Timed World}

/-! ## Starting what is at work -/

@[simp] theorem state_depart (x : Executor World) (t : Timed World) (slot : Slot) :
    (depart x t slot).state = t.state := by
  unfold depart
  dsimp only
  split <;> rfl

/-- What one start adds to what is on its way. -/
theorem exists_flights_depart (x : Executor World) (t : Timed World) (slot : Slot) :
    ∃ f, f.slot = slot ∧ (depart x t slot).flights = t.flights ++ [f] := by
  unfold depart
  dsimp only
  split <;> exact ⟨_, rfl, rfl⟩

/-- What the starts of some slots do one after the other, a chain of single starts does. -/
theorem foldl_depart_induction {P : Timed World → Prop} {slots : List Slot} (base : P t)
    (step : ∀ u slot, P u → u.state = t.state → slot ∈ slots → P (depart x u slot)) :
    P (slots.foldl (depart x) t) ∧ (slots.foldl (depart x) t).state = t.state := by
  induction slots using List.reverseRecOn with
  | nil => exact ⟨base, rfl⟩
  | append_singleton slots slot ih =>
    obtain ⟨hslots, hstate⟩ := ih fun u other hu hsame hother =>
      step u other hu hsame (List.mem_append_left _ hother)
    rw [List.foldl_append, List.foldl_cons, List.foldl_nil, state_depart]
    exact ⟨step _ slot hslots hstate (by simp), hstate⟩

/-- What was given up is dropped, and what is at work and not on its way is started. -/
theorem departAll_induction {P : Timed World → Prop}
    (drop : P { t with flights := t.flights.filter fun f => t.state.inFlight.contains f.slot })
    (step : ∀ u slot, P u → u.state = t.state → slot ∈ t.state.inFlight → P (depart x u slot)) :
    P (departAll x t) ∧ (departAll x t).state = t.state :=
  foldl_depart_induction drop fun u slot hu hsame hslot =>
    step u slot hu hsame (List.mem_of_mem_filter hslot)

theorem state_departAll (x : Executor World) (t : Timed World) :
    (departAll x t).state = t.state :=
  (departAll_induction (P := fun _ => True) trivial fun _ _ _ _ _ => trivial).2

/-- What is on its way after the starts is at work. -/
theorem mem_inFlight_of_mem_departAll {f : Flight} (hf : f ∈ (departAll x t).flights) :
    f.slot ∈ t.state.inFlight := by
  refine (departAll_induction (P := fun u => ∀ f ∈ u.flights, f.slot ∈ t.state.inFlight)
    ?_ ?_).1 f hf
  · intro f hf
    simpa using (List.mem_filter.mp hf).2
  · intro u slot hu _ hslot f hf
    obtain ⟨g, hg, hflights⟩ := exists_flights_depart x u slot
    rw [hflights] at hf
    rcases List.mem_append.mp hf with hf | hf
    · exact hu f hf
    · rw [List.mem_singleton.mp hf, hg]
      exact hslot

/-- What was on its way goes on being so when more is started. -/
theorem slots_subset_foldl_depart (slots : List Slot) (t : Timed World) :
    t.flights.map Flight.slot ++ slots ⊆ (slots.foldl (depart x) t).flights.map Flight.slot := by
  induction slots generalizing t with
  | nil => simp
  | cons slot rest ih =>
    obtain ⟨g, rfl, hflights⟩ := exists_flights_depart x t slot
    have hrest := ih (depart x t g.slot)
    rw [hflights, List.map_append, List.map_singleton, List.append_assoc] at hrest
    exact hrest

/-- What is at work is on its way after the starts. -/
theorem mem_slots_departAll {slot : Slot} (hslot : slot ∈ t.state.inFlight) :
    slot ∈ (departAll x t).flights.map Flight.slot := by
  refine slots_subset_foldl_depart _ _ ?_
  rw [List.mem_append, List.mem_filter, List.mem_map]
  by_cases hkept : ∃ f ∈ t.flights.filter fun f => t.state.inFlight.contains f.slot, f.slot = slot
  · exact .inl hkept
  · refine .inr ⟨hslot, ?_⟩
    rw [Bool.not_eq_true', List.any_eq_false]
    exact fun f hf heq => hkept ⟨f, hf, by simpa using heq⟩

/-- The project of something at work is found by its place, if every place is that of its
project. -/
theorem getElem?_projectAt {s : State}
    (hlisted : ∀ a ∈ s.active, job.projects[a.index]? = some a.project) {a : Active}
    (ha : a ∈ s.active) : job.projects[a.index]? = some (projectAt s a.index) := by
  unfold projectAt
  cases hfind : s.active.find? fun b => b.index == a.index with
  | none => simpa using List.find?_eq_none.mp hfind a ha
  | some b =>
    have hindex : b.index = a.index := by simpa using List.find?_some hfind
    exact hindex ▸ hlisted b (List.mem_of_find?_eq_some hfind)

/-! ## What lands first -/

theorem earliest_eq_none_iff {flights : List Flight} : earliest flights = none ↔ flights = [] := by
  cases flights with
  | nil => simp [earliest]
  | cons f rest =>
    simp only [earliest, reduceCtorEq, iff_false]
    split
    · split <;> simp
    · simp

theorem mem_of_earliest_eq_some {flights : List Flight} {f : Flight}
    (h : earliest flights = some f) : f ∈ flights := by
  induction flights generalizing f with
  | nil => cases h
  | cons g rest ih =>
    rw [earliest] at h
    split at h
    · rename_i first hfirst
      split at h
      · cases h
        exact List.mem_cons_of_mem _ (ih hfirst)
      · cases h
        exact List.mem_cons_self
    · cases h
      exact List.mem_cons_self

/-! ## Invariants of a run -/

/-- A property that every step of a run keeps, with a measure of what is yet to be delivered. -/
structure Invariant (x : Executor World) (job : Job) (measure : State → Nat)
    (P : Timed World → Prop) : Prop where
  drop : ∀ t (kept : Flight → Bool), P t → P { t with flights := t.flights.filter kept }
  depart : ∀ t slot, P t → slot ∈ t.state.inFlight → P (depart x t slot)
  land : ∀ t f, P t → f ∈ t.flights → f.slot ∈ t.state.inFlight →
    P (land job t f) ∧ measure (land job t f).state < measure t.state

theorem Invariant.departAll {measure : State → Nat} {P : Timed World → Prop}
    (inv : Invariant x job measure P) (h : P t) : P (departAll x t) :=
  (departAll_induction (inv.drop t _ h) fun u slot hu hsame hslot =>
    inv.depart u slot hu (hsame ▸ hslot)).1

/-- **A run that is long enough keeps an invariant and ends**: nothing is at work then. -/
theorem Invariant.runFor {measure : State → Nat} {P : Timed World → Prop}
    (inv : Invariant x job measure P) {bound : Nat} (h : P t)
    (hbound : measure t.state < bound) :
    P (runFor x job bound t) ∧ (runFor x job bound t).state.inFlight = [] := by
  induction bound generalizing t with
  | zero => omega
  | succ bound ih =>
    have hdeparted := inv.departAll h
    have hstate := state_departAll x t
    rw [Schedule.runFor]
    split
    · rename_i hnone
      refine ⟨hdeparted, List.eq_nil_iff_forall_not_mem.mpr fun slot hslot => ?_⟩
      rw [hstate] at hslot
      have hflies := mem_slots_departAll (x := x) hslot
      rw [earliest_eq_none_iff.mp hnone] at hflies
      cases hflies
    · rename_i f hfirst
      have hf := mem_of_earliest_eq_some hfirst
      obtain ⟨hlanded, hless⟩ := inv.land _ f hdeparted hf
        (hstate ▸ mem_inFlight_of_mem_departAll hf)
      rw [hstate] at hless
      exact ih hlanded (by omega)

/-! ## Runs in this process -/

/-- An executor whose tools do the same whenever they are started, as long as the world is of some
kind; and they leave it so. -/
structure Answering (x : Executor World) (job : Job) (tools : List Tool) (Kind : World → Prop)
    (answer : String → Tool → Execution) : Prop where
  tool : ∀ project ∈ job.projects, ∀ t ∈ tools, ∀ w, Kind w →
    Kind (x.tool project t w).1 ∧ (x.tool project t w).2.1 = answer project t

/-- What the tools of a run do, by the places of their projects. -/
def answers (job : Job) (answer : String → Tool → Execution) (index : Nat) (tool : Tool) :
    Execution :=
  answer (job.projects[index]?.getD "") tool

theorem answers_of_listed {answer : String → Tool → Execution} {index : Nat} {project : String}
    (hlisted : job.projects[index]? = some project) :
    answers job answer index = answer project := by
  funext tool
  simp [answers, hlisted]

/-- The project of what is at work is found by its place. -/
theorem Kept.listed_projectAt {result : Nat → Tool → Execution} {s : State}
    (kept : Kept job result [] s.pending s) {index : Nat} {tool : Tool}
    (hflight : (index, some tool) ∈ s.inFlight) :
    job.projects[index]? = some (projectAt s index) := by
  obtain ⟨a, ha, rfl, -⟩ := mem_inFlight.mp hflight
  exact getElem?_projectAt (fun b hb => (kept.works b hb).listed) ha

/-- What is at work on a project is one of the tools of the run. -/
theorem Kept.tool_mem {tools : List Tool} (here : job.Here tools)
    {result : Nat → Tool → Execution} {s : State} (kept : Kept job result [] s.pending s)
    {index : Nat} {tool : Tool} (hflight : (index, some tool) ∈ s.inFlight) : tool ∈ tools := by
  obtain ⟨_, project, _, _, -, -, hopen, hrunning, stands, -⟩ := deliver_of_kept kept hflight
  obtain ⟨since, history, steps, -, -⟩ := stands.of_open hopen
  have hnodup : (job.audit project).tools.Nodup := here.tools project ▸ here.nodup
  exact here.tools project ▸ ((steps.tracked hnodup).of_running hrunning).1

/-- A run in this process that is one of deliveries so far, where all that is on its way brings
what its tool does.  The world is of the kind in which tools do the same. -/
structure Underway (job : Job) (result : Nat → Tool → Execution) (r : Records)
    (Kind : World → Prop) (t : Timed World) : Prop where
  delivered : ∃ slots, Delivered job result (launch job 0 r) slots t.state
  kind : Kind t.world
  results : ∀ f ∈ t.flights, ∀ tool, f.slot.2 = some tool → f.result = result f.slot.1 tool

namespace Underway

variable {tools : List Tool} {Kind : World → Prop} {answer : String → Tool → Execution}
  {r : Records}

theorem kept {result : Nat → Tool → Execution} (here : job.Here tools)
    (underway : Underway job result r Kind t) : Kept job result [] t.state.pending t.state := by
  obtain ⟨slots, run⟩ := underway.delivered
  exact run.kept here (kept_launch here 0 r)

/-- A tool that starts brings what it does. -/
theorem depart (here : job.Here tools) (answering : Answering x job tools Kind answer)
    (underway : Underway job (answers job answer) r Kind t) {slot : Slot}
    (hslot : slot ∈ t.state.inFlight) :
    Underway job (answers job answer) r Kind (depart x t slot) := by
  have kept := underway.kept here
  obtain ⟨index, tool, rfl⟩ := kept.exists_tool hslot
  have hlisted := kept.listed_projectAt hslot
  obtain ⟨hstays, hresult⟩ := answering.tool _ (List.mem_of_getElem? hlisted) tool
    (kept.tool_mem here hslot) t.world underway.kind
  refine ⟨?_, hstays, fun f hf other hother => ?_⟩
  · rw [state_depart]
    exact underway.delivered
  · rcases List.mem_append.mp hf with hf | hf
    · exact underway.results f hf other hother
    · obtain rfl := List.mem_singleton.mp hf
      cases hother
      rw [answers_of_listed hlisted]
      exact hresult

/-- What lands is delivered. -/
theorem land {result : Nat → Tool → Execution} (here : job.Here tools)
    (underway : Underway job result r Kind t) {f : Flight} (hf : f ∈ t.flights)
    (hslot : f.slot ∈ t.state.inFlight) :
    Underway job result r Kind (land job t f) ∧
      burden job (Schedule.land job t f).state.pending (Schedule.land job t f).state <
        burden job t.state.pending t.state := by
  have kept := underway.kept here
  obtain ⟨index, tool, heq⟩ := kept.exists_tool hslot
  rw [heq] at hslot
  have hresult := underway.results f hf tool (by rw [heq])
  rw [heq] at hresult
  have hstate : (Schedule.land job t f).state =
      deliver job f.lands index tool (result index tool) t.state := by
    simp only [Schedule.land, heq, hresult]
  obtain ⟨slots, run⟩ := underway.delivered
  refine ⟨⟨⟨_, hstate ▸ run.snoc f.lands hslot⟩, underway.kind,
    fun g hg => underway.results g (List.mem_of_mem_filter hg)⟩, ?_⟩
  rw [hstate]
  exact burden_deliver_lt here kept f.lands _ hslot

end Underway

theorem underway_invariant {tools : List Tool} (here : job.Here tools) {Kind : World → Prop}
    {answer : String → Tool → Execution} (answering : Answering x job tools Kind answer)
    (r : Records) :
    Invariant x job (fun s => burden job s.pending s)
      (Underway job (answers job answer) r Kind) where
  drop _ _ underway := ⟨underway.delivered, underway.kind,
    fun f hf => underway.results f (List.mem_of_mem_filter hf)⟩
  depart _ _ underway hslot := underway.depart here answering hslot
  land _ _ underway hf hslot := underway.land here hf hslot

/-- **A run in this process is one of deliveries in some order**, after which nothing is at work;
and the world stays of the kind in which tools do the same whenever they are started. -/
theorem run_here {tools : List Tool} (here : job.Here tools) {Kind : World → Prop}
    {answer : String → Tool → Execution} (answering : Answering x job tools Kind answer)
    (r : Records) {w : World} (hw : Kind w) :
    (∃ slots, Delivered job (answers job answer) (launch job 0 r) slots (run x job r w).state) ∧
      (run x job r w).state.inFlight = [] ∧ Kind (run x job r w).world := by
  have hbound : burden job (launch job 0 r).pending (launch job 0 r) <
      (job.projects.map fun p => (job.audit p).tools.length + 1).foldr (· + ·) 0 + 1 := by
    refine Nat.lt_succ_of_le ((burden_launch_le here 0 r).trans ?_)
    simp only [here.tools, List.map_const', ← List.sum_eq_foldr, List.sum_replicate]
    exact Nat.mul_le_mul_left _ (Nat.le_succ _)
  obtain ⟨underway, hidle⟩ : Underway job (answers job answer) r Kind (run x job r w) ∧ _ :=
    (underway_invariant here answering r).runFor ⟨⟨[], .nil⟩, hw, by simp⟩ hbound
  exact ⟨underway.delivered, hidle, underway.kind⟩

end Clock

end LintLedger.Schedule
