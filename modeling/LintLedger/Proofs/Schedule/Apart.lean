import LintLedger.Proofs.Schedule.Progress

/-!
# Runs that audit projects in processes of their own

A run that is not to stop at failures gives every project to a process of its own, whatever the
others come to.  So what each process does for its project, and no other process undoes, is done
for all projects at the end.

## Main Definitions

* `Schedule.Job.Apart` -- runs with a process for every project, which no failure stops
* `Schedule.Attended` -- every project waits, is at work or is done
* `Schedule.Serving` -- processes that do something for their project, and undo nothing
* `Schedule.Cared` -- each project that is done or on its way was served

## Main Statements

* `Schedule.Attended.start`, `Schedule.Attended.deliverChild` -- no project is forgotten
* `Schedule.run_apart` -- at the end of a run every project was served
-/

namespace LintLedger.Schedule

variable {World : Type} {x : Executor World} {job : Job} {s : State}

/-- A run with a process for every project, which no failure stops. -/
structure Job.Apart (job : Job) : Prop where
  apart : job.apart = true
  outer : 0 < job.outer
  stopOnError : job.stopOnError = false

/-! ## No project is forgotten -/

/-- No error has ended the run, and every project waits, is at work in a process of its own or is
done. -/
structure Attended (job : Job) (waiting : List (Nat × String)) (s : State) : Prop where
  goes : s.error? = none
  waits : ∀ w ∈ waiting, job.projects[w.1]? = some w.2
  listed : ∀ a ∈ s.active, job.projects[a.index]? = some a.project
  child : ∀ a ∈ s.active, a.work = .child
  placed : ∀ index < job.projects.length,
    index ∈ waiting.map Prod.fst ∨ index ∈ s.active.map Active.index ∨ index ∈ s.done.map Prod.fst

theorem begin_of_apart (apart : job.Apart) (now index : Nat) (project : String) (s : State) :
    begin job now index project s =
      { s with active := s.active ++ [⟨index, project, .child⟩] } := by
  rw [begin, if_pos apart.apart]

theorem Attended.begin (apart : job.Apart) {index : Nat} {project : String}
    {rest : List (Nat × String)} (attended : Attended job ((index, project) :: rest) s)
    (now : Nat) : Attended job rest (begin job now index project s) := by
  rw [begin_of_apart apart]
  refine ⟨attended.goes, fun w hw => attended.waits w (List.mem_cons_of_mem _ hw), ?_, ?_, ?_⟩
  · intro a ha
    rcases List.mem_append.mp ha with ha | ha
    · exact attended.listed a ha
    · rw [List.mem_singleton.mp ha]
      exact attended.waits _ List.mem_cons_self
  · intro a ha
    rcases List.mem_append.mp ha with ha | ha
    · exact attended.child a ha
    · rw [List.mem_singleton.mp ha]
  · intro i hi
    have hplaced := attended.placed i hi
    rw [List.map_cons, List.mem_cons] at hplaced
    simp only [List.map_append, List.mem_append, List.map_cons, List.map_nil, List.mem_singleton]
    tauto

/-- Starting projects forgets none, and leaves as many that are waiting or at work. -/
theorem Attended.start (apart : job.Apart) {waiting : List (Nat × String)}
    (attended : Attended job waiting s) (now : Nat) :
    Attended job (start job now waiting s).pending (start job now waiting s) ∧
      (start job now waiting s).pending.length + (start job now waiting s).active.length =
        waiting.length + s.active.length ∧
      (start job now waiting s).done = s.done := by
  induction waiting generalizing s with
  | nil =>
    exact ⟨⟨attended.goes, attended.waits, attended.listed, attended.child, attended.placed⟩,
      rfl, rfl⟩
  | cons first rest ih =>
    obtain ⟨index, project⟩ := first
    unfold Schedule.start
    rw [if_neg (by simp [attended.goes])]
    split
    · exact ⟨⟨attended.goes, attended.waits, attended.listed, attended.child, attended.placed⟩,
        rfl, rfl⟩
    · obtain ⟨hattended, hload, hdone⟩ := ih (attended.begin apart now)
      refine ⟨hattended, hload.trans ?_, hdone.trans ?_⟩
      · rw [begin_of_apart apart]
        simp only [List.length_append, List.length_cons, List.length_nil]
        omega
      · rw [begin_of_apart apart]

/-- What is at work on a project in a process of its own is that process. -/
theorem Attended.exists_active {waiting : List (Nat × String)}
    (attended : Attended job waiting s) {slot : Slot} (hslot : slot ∈ s.inFlight) :
    ∃ a ∈ s.active, slot = (a.index, none) := by
  obtain ⟨a, ha, hunit⟩ := List.mem_flatMap.mp hslot
  rw [Active.units, attended.child a ha] at hunit
  exact ⟨a, ha, List.mem_singleton.mp hunit⟩

/-- A project at work is found by its place, or another with that place. -/
theorem exists_split? {active : List Active} {index : Nat}
    (h : index ∈ active.map Active.index) :
    ∃ before a after, split? index active = some (before, a, after) ∧
      active = before ++ a :: after ∧ a.index = index := by
  induction active with
  | nil => cases h
  | cons b rest ih =>
    by_cases hfirst : b.index = index
    · exact ⟨[], b, rest, by simp [split?, hfirst], rfl, hfirst⟩
    · have hrest : index ∈ rest.map Active.index := by
        simpa [Ne.symm hfirst] using h
      obtain ⟨before, a, after, hsplit, rfl, hindex⟩ := ih hrest
      exact ⟨b :: before, a, after, by simp [split?, hfirst, hsplit], rfl, hindex⟩

/-- The end of a process forgets no project: that of the process is done. -/
theorem Attended.deliverChild (apart : job.Apart) (attended : Attended job s.pending s)
    {index : Nat} (hflight : (index, none) ∈ s.inFlight) (now : Nat) (code : Int) :
    Attended job (deliverChild job now index code s).pending (deliverChild job now index code s) ∧
      (deliverChild job now index code s).pending.length +
          (deliverChild job now index code s).active.length <
        s.pending.length + s.active.length ∧
      (deliverChild job now index code s).done.map Prod.fst = s.done.map Prod.fst ++ [index] := by
  obtain ⟨a, ha, heq⟩ := attended.exists_active hflight
  cases heq
  obtain ⟨before, ⟨index', project, work⟩, after, hsplit, hactive, hindex⟩ :=
    exists_split? (List.mem_map_of_mem ha)
  obtain rfl : index' = a.index := hindex
  have hwork := attended.child ⟨a.index, project, work⟩ (by rw [hactive]; simp)
  obtain rfl : work = .child := hwork
  have hmem : ∀ b ∈ before ++ after, b ∈ s.active := by
    intro b hb
    rw [hactive]
    rcases List.mem_append.mp hb with hb | hb
    · exact List.mem_append_left _ hb
    · exact List.mem_append_right _ (List.mem_cons_of_mem _ hb)
  -- the run with the project done and before the next one is started
  let settled : State :=
    { s with
        active := before ++ after
        done := s.done ++ [(a.index, ⟨project, none, code⟩)]
        records := s.records.add project (.event (childEvent job project code)) }
  have hsettled : Attended job settled.pending settled := by
    refine ⟨attended.goes, attended.waits, fun b hb => attended.listed b (hmem b hb),
      fun b hb => attended.child b (hmem b hb), fun i hi => ?_⟩
    have hplaced := attended.placed i hi
    simp only [hactive, List.map_append, List.map_cons, List.mem_append, List.mem_cons,
      List.map_nil, List.not_mem_nil, or_false, settled] at hplaced ⊢
    tauto
  have hdeliver : Schedule.deliverChild job now a.index code s = fill job now settled := by
    rw [Schedule.deliverChild, hsplit]
    simp [settle, apart.stopOnError, settled]
  obtain ⟨hattended, hload, hdone⟩ := hsettled.start apart now
  rw [hdeliver]
  refine ⟨hattended, ?_, ?_⟩
  · unfold fill
    rw [hload, hactive]
    simp only [settled, List.length_append, List.length_cons]
    omega
  · unfold fill
    rw [hdone]
    simp [settled]

/-! ## Every project is served -/

/-- Processes that do something for their project, and leave what was done for others.  They keep
the world of some kind. -/
structure Serving (x : Executor World) (job : Job) (Kind : World → Prop)
    (Served : String → World → Prop) : Prop where
  kind : ∀ project ∈ job.projects, ∀ w, Kind w → Kind (x.child project w).1
  served : ∀ project ∈ job.projects, ∀ w, Kind w → Served project (x.child project w).1
  keeps : ∀ project ∈ job.projects, ∀ w, Kind w → ∀ other, Served other w →
    Served other (x.child project w).1

/-- A run against a clock of which no project is forgotten, where each that is done or on its way
was served. -/
structure Cared (job : Job) (Kind : World → Prop) (Served : String → World → Prop)
    (t : Timed World) : Prop where
  attended : Attended job t.state.pending t.state
  crowded : t.state.Crowded job
  kind : Kind t.world
  served : ∀ index, index ∈ t.state.done.map Prod.fst ∨ index ∈ t.flights.map (fun f => f.slot.1) →
    ∀ project, job.projects[index]? = some project → Served project t.world

variable {Kind : World → Prop} {Served : String → World → Prop}

/-- A process that starts serves its project and leaves what was done for others. -/
theorem Cared.depart (serving : Serving x job Kind Served) {t : Timed World}
    (cared : Cared job Kind Served t) {slot : Slot} (hslot : slot ∈ t.state.inFlight) :
    Cared job Kind Served (depart x t slot) := by
  obtain ⟨a, ha, rfl⟩ := cared.attended.exists_active hslot
  have hlisted := getElem?_projectAt cared.attended.listed ha
  have hproject := List.mem_of_getElem? hlisted
  refine ⟨cared.attended, cared.crowded, serving.kind _ hproject _ cared.kind,
    fun index hindex project hp => ?_⟩
  change index ∈ _ ∨ index ∈ (t.flights ++ [_]).map _ at hindex
  rw [List.map_append, List.mem_append, ← or_assoc] at hindex
  rcases hindex with hold | hnew
  · exact serving.keeps _ hproject _ cared.kind project (cared.served index hold project hp)
  · obtain rfl : index = a.index := by simpa using hnew
    obtain rfl : projectAt t.state a.index = project :=
      Option.some_injective _ (hlisted.symm.trans hp)
    exact serving.served _ hproject _ cared.kind

/-- A process that ended was on its way. -/
theorem Cared.land (apart : job.Apart) {t : Timed World} (cared : Cared job Kind Served t)
    {f : Flight} (hf : f ∈ t.flights) (hslot : f.slot ∈ t.state.inFlight) :
    Cared job Kind Served (land job t f) ∧
      (land job t f).state.pending.length + (land job t f).state.active.length <
        t.state.pending.length + t.state.active.length := by
  obtain ⟨a, ha, heq⟩ := cared.attended.exists_active hslot
  rw [heq] at hslot
  have hstate : (Schedule.land job t f).state =
      deliverChild job f.lands a.index f.code t.state := by
    simp only [Schedule.land, heq]
  obtain ⟨hattended, hless, hdone⟩ := cared.attended.deliverChild apart hslot f.lands f.code
  rw [← hstate] at hattended hless hdone
  refine ⟨⟨hattended, ?_, cared.kind, fun index hindex => cared.served index ?_⟩, hless⟩
  · rw [hstate]
    unfold deliverChild
    split
    · exact crowded_start _ _ _
    · exact cared.crowded
  · rw [hdone, List.mem_append, List.mem_singleton] at hindex
    rcases hindex with (hold | rfl) | hflies
    · exact .inl hold
    · exact .inr (List.mem_map.mpr ⟨f, hf, by rw [heq]⟩)
    · exact .inr ((List.filter_sublist.map _).subset hflies)

theorem cared_invariant (apart : job.Apart) (serving : Serving x job Kind Served) :
    Invariant x job (fun s => s.pending.length + s.active.length) (Cared job Kind Served) where
  drop _ _ cared := ⟨cared.attended, cared.crowded, cared.kind, fun index hindex =>
    cared.served index (hindex.imp_right fun h => (List.filter_sublist.map _).subset h)⟩
  depart _ _ cared hslot := cared.depart serving hslot
  land _ _ cared hf hslot := cared.land apart hf hslot

/-- At the start of a run no project is forgotten, and none is done. -/
theorem attended_launch (apart : job.Apart) (now : Nat) (r : Records) :
    Attended job (launch job now r).pending (launch job now r) ∧
      (launch job now r).pending.length + (launch job now r).active.length =
        job.projects.length ∧
      (launch job now r).done = [] := by
  have hbegun : Attended job (job.projects.zipIdx.map fun p => (p.2, p.1))
      { pending := job.projects.zipIdx.map fun p => (p.2, p.1), active := [], done := []
        error? := none, records := r } := by
    refine ⟨rfl, fun w hw => ?_, by simp, by simp, fun index hindex => .inl ?_⟩
    · obtain ⟨⟨project, index⟩, hmem, rfl⟩ := List.mem_map.mp hw
      exact List.mem_zipIdx_iff_getElem?.mp hmem
    · rw [List.map_map, show Prod.fst ∘ _ = (Prod.snd : String × Nat → Nat) from rfl,
        List.zipIdx_map_snd]
      simpa using hindex
  obtain ⟨hattended, hload, hdone⟩ := hbegun.start apart now
  exact ⟨hattended, hload.trans (by simp), hdone⟩

/-- Of a run in which nothing is at work any more every project is done. -/
theorem Cared.mem_done (apart : job.Apart) {t : Timed World} (cared : Cared job Kind Served t)
    (hidle : t.state.inFlight = []) {index : Nat} (hindex : index < job.projects.length) :
    index ∈ t.state.done.map Prod.fst := by
  have hactive : t.state.active = [] := by
    refine List.eq_nil_iff_forall_not_mem.mpr fun a ha => ?_
    have hunits := List.flatMap_eq_nil_iff.mp hidle a ha
    rw [Active.units, cared.attended.child a ha] at hunits
    cases hunits
  have hpending : t.state.pending = [] := by
    rcases cared.crowded with hpending | ⟨-, hroom⟩
    · exact hpending
    · have houter := apart.outer
      rw [hactive, List.length_nil] at hroom
      omega
  simpa [hactive, hpending] using cared.attended.placed index hindex

/-- **At the end of a run with a process for every project** each was served. -/
theorem run_apart (apart : job.Apart) (serving : Serving x job Kind Served) (r : Records)
    {w : World} (hw : Kind w) :
    Kind (run x job r w).world ∧
      ∀ project ∈ job.projects, Served project (run x job r w).world := by
  obtain ⟨hattended, hload, hdone⟩ := attended_launch apart 0 r
  have hbegun : Cared job Kind Served ⟨w, launch job 0 r, [], 0⟩ := by
    refine ⟨hattended, crowded_start 0 _ _, hw, fun index hindex => ?_⟩
    rw [hdone] at hindex
    simp at hindex
  have hbound : (launch job 0 r).pending.length + (launch job 0 r).active.length <
      (job.projects.map fun p => (job.audit p).tools.length + 1).foldr (· + ·) 0 + 1 := by
    rw [hload, ← List.sum_eq_foldr, Nat.lt_succ_iff]
    generalize job.projects = projects
    induction projects with
    | nil => simp
    | cons p rest ih =>
      simp only [List.length_cons, List.map_cons, List.sum_cons]
      omega
  obtain ⟨cared, hidle⟩ : Cared job Kind Served (run x job r w) ∧ _ :=
    (cared_invariant apart serving).runFor hbegun hbound
  refine ⟨cared.kind, fun project hproject => ?_⟩
  obtain ⟨index, hindex, rfl⟩ := List.mem_iff_getElem.mp hproject
  exact cared.served index (.inl (cared.mem_done apart hidle hindex)) _
    (List.getElem?_eq_getElem hindex)

end LintLedger.Schedule
