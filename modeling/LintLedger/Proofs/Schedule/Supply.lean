import LintLedger.Proofs.Audit.Supply
import LintLedger.Proofs.Schedule.Verdict

/-!
# What a run brings to a store

The audits of a run write to one store, each delivery to one of them a part of what its tools
bring.  At the end of a run that does not stop at failures the store has got what the tools of all
projects bring, and nothing else, in whatever order the tools have ended.

## Main Definitions

* `Schedule.crop` -- the batches that the tools of a run bring
* `Schedule.Stocked` -- how the store of a run stands to its projects

## Main Statements

* `Schedule.Stocked.place`, `Schedule.Stocked.start`, `Schedule.Stocked.deliver` -- what each step
  of a run does to the store
* `Schedule.Delivered.supply` -- what a run leaves in a store
-/

namespace LintLedger.Schedule

variable {job : Job} {tools : List Tool} {result : Nat → Tool → Execution} {s : State}
  {settings : ToolSettings} {base store store' : Store}

/-- The batches that the tools of a run bring, whatever their project. -/
def crop (job : Job) (result : Nat → Tool → Execution) : Store.Stock :=
  { batch | ∃ index project, job.projects[index]? = some project ∧
    batch ∈ Audit.crop (job.audit project) (result index) }

theorem crop_of_listed {index : Nat} {project : String}
    (hlisted : job.projects[index]? = some project) :
    Audit.crop (job.audit project) (result index) ⊆ crop job result :=
  fun _ hbatch => ⟨index, project, hlisted, hbatch⟩

/-- A run that reads the reports of its tools with the analyzers there are, and that no failure
stops. -/
structure Job.Thorough (job : Job) (settings : ToolSettings) : Prop where
  builtin : ∀ project, (job.audit project).analyzer = analyzerOf settings
  stopOnError : job.stopOnError = false

/-- The store of a run that began with the store `base`: no error ended the run, all that was
added is what tools bring, what the projects at work have stored so far is in it, and of those
that are done everything. -/
structure Stocked (job : Job) (result : Nat → Tool → Execution) (base : Store) (s : State)
    (store : Store) : Prop where
  goes : s.error? = none
  records : s.records.store? = some store
  drawn : Store.Drawn (crop job result) base store
  works : ∀ a ∈ s.active, ∃ audit, a.work = .here audit ∧
    Audit.Filed (job.audit a.project) (result a.index) audit store
  ended : ∀ d ∈ s.done, store.Supplied (Audit.crop (job.audit d.2.project) (result d.1))

namespace Stocked

/-- The audit in hand has left its part in the store, and is put back to work or done. -/
theorem place {before after : List Active} {index : Nat} {project : String} {m : Audit.Moment}
    (stocked : Stocked job result base { s with active := before ++ after } store)
    (hlisted : job.projects[index]? = some project)
    (leaves : Audit.Leaves (job.audit project) (result index) store m store') :
    Stocked job result base (place job before index project m after s) store' := by
  have hdrawn : Store.Drawn (crop job result) base store' :=
    stocked.drawn.trans (leaves.drawn.mono (crop_of_listed hlisted))
  have hworks : ∀ a ∈ before ++ after, ∃ audit, a.work = .here audit ∧
      Audit.Filed (job.audit a.project) (result a.index) audit store' := by
    intro a ha
    obtain ⟨audit, hwork, since, history, steps, hsupplied⟩ := stocked.works a ha
    exact ⟨audit, hwork, since, history, steps, leaves.drawn.supplied hsupplied⟩
  have hended : ∀ d ∈ s.done,
      store'.Supplied (Audit.crop (job.audit d.2.project) (result d.1)) :=
    fun d hd => leaves.drawn.supplied (stocked.ended d hd)
  unfold Schedule.place
  split
  · rename_i hopen
    refine ⟨stocked.goes, leaves.store, hdrawn, fun a ha => ?_, hended⟩
    rcases List.mem_append.mp ha with ha | ha
    · exact hworks a (List.mem_append_left _ ha)
    · rcases List.mem_cons.mp ha with rfl | ha
      · exact ⟨m.1, rfl, leaves.goes hopen⟩
      · exact hworks a (List.mem_append_right _ ha)
  · rename_i hend
    obtain ⟨⟨sum, hsum⟩, hall⟩ := leaves.ends (by simp [hend])
    cases hend.symm.trans hsum
    refine ⟨stocked.goes, leaves.store, hdrawn, hworks, fun d hd => ?_⟩
    rcases List.mem_append.mp hd with hd | hd
    · exact hended d hd
    · rw [List.mem_singleton.mp hd]
      exact hall

/-- Starting a project stores what its audit stores at once. -/
theorem begin (here : job.Here tools) (thorough : job.Thorough settings)
    (stocked : Stocked job result base s store) (hcomplete : base.Complete) {index : Nat}
    {project : String} (hlisted : job.projects[index]? = some project) (now : Nat) :
    ∃ store', Stocked job result base (begin job now index project s) store' := by
  obtain ⟨store', leaves⟩ : ∃ after, Audit.Leaves (job.audit project) (result index) store
      (Audit.launch (job.audit project) now s.records) after :=
    Audit.leaves_launch (thorough.builtin project) (here.tools project ▸ here.nodup)
      (by rw [here.stopOnError, thorough.stopOnError]) stocked.records
      (stocked.drawn.complete hcomplete) now
  have hand : Stocked job result base { s with active := s.active ++ [] } store := by
    rw [List.append_nil]
    exact stocked
  unfold Schedule.begin
  rw [if_neg (by simp [here.apart])]
  exact ⟨store', hand.place hlisted leaves⟩

theorem start (here : job.Here tools) (thorough : job.Thorough settings)
    (stocked : Stocked job result base s store) (hcomplete : base.Complete)
    {waiting : List (Nat × String)} (hlisted : ∀ w ∈ waiting, job.projects[w.1]? = some w.2)
    (now : Nat) : ∃ store', Stocked job result base (start job now waiting s) store' := by
  induction waiting generalizing s store with
  | nil =>
    exact ⟨store, stocked.goes, stocked.records, stocked.drawn, stocked.works, stocked.ended⟩
  | cons first rest ih =>
    obtain ⟨index, project⟩ := first
    have hrest := fun w hw => hlisted w (List.mem_cons_of_mem _ hw)
    unfold Schedule.start
    split
    · exact ⟨store, stocked.goes, stocked.records, stocked.drawn, stocked.works, stocked.ended⟩
    · split
      · exact ⟨store, stocked.goes, stocked.records, stocked.drawn, stocked.works, stocked.ended⟩
      · obtain ⟨store', stocked'⟩ :=
          stocked.begin here thorough hcomplete (hlisted _ List.mem_cons_self) now
        exact ih stocked' hrest

/-- A delivery stores what the audit of the project stores at it. -/
theorem deliver (here : job.Here tools) (thorough : job.Thorough settings)
    (stocked : Stocked job result base s store) (hcomplete : base.Complete)
    (kept : Kept job result [] s.pending s) (now : Nat) {index : Nat} {tool : Tool}
    (hflight : (index, some tool) ∈ s.inFlight) :
    ∃ store', Stocked job result base (deliver job now index tool (result index tool) s)
      store' := by
  obtain ⟨before, project, audit, after, hactive, hlisted, hopen, hrunning, stands, heq⟩ :=
    deliver_of_kept kept hflight
  obtain ⟨-, -, -, -, hsettled⟩ := stands.of_open hopen
  obtain ⟨_, hwork, filed⟩ :=
    stocked.works ⟨index, project, .here audit⟩ (by rw [hactive]; simp)
  cases hwork
  obtain ⟨store', leaves⟩ := Audit.leaves_deliver (m := (audit, s.records))
    (thorough.builtin project) (here.tools project ▸ here.nodup)
    (by rw [here.stopOnError, thorough.stopOnError]) hopen hsettled stocked.records
    (stocked.drawn.complete hcomplete) filed now hrunning
  have hand : Stocked job result base { s with active := before ++ after } store := by
    refine ⟨stocked.goes, stocked.records, stocked.drawn, fun a ha => stocked.works a ?_,
      stocked.ended⟩
    rw [hactive]
    rcases List.mem_append.mp ha with ha | ha
    · exact List.mem_append_left _ ha
    · exact List.mem_append_right _ (List.mem_cons_of_mem _ ha)
  have hplaced := hand.place hlisted leaves
  rw [heq]
  refine hplaced.start here thorough hcomplete (fun w hw => ?_) now
  rcases pending_place before index project
    (Audit.deliver (job.audit project) now tool (result index tool) (audit, s.records)) after s
    with hsame | ⟨hnone, -⟩
  · exact kept.waits w (hsame ▸ hw)
  · rw [hnone] at hw
    cases hw

end Stocked

theorem stocked_launch (here : job.Here tools) (thorough : job.Thorough settings) {r : Records}
    (hstore : r.store? = some base) (hcomplete : base.Complete) (now : Nat) :
    ∃ store, Stocked job result base (launch job now r) store := by
  unfold launch fill
  refine Stocked.start here thorough ⟨rfl, hstore, .refl _ _, by simp, by simp⟩ hcomplete
    (fun w hw => ?_) now
  obtain ⟨⟨project, index⟩, hmem, rfl⟩ := List.mem_map.mp hw
  exact List.mem_zipIdx_iff_getElem?.mp hmem

/-- **What a run leaves in a store.**  A run in which nothing is at work any more met no error; what
it added to the store is what the tools of its projects bring, and all of that is in the store. -/
theorem Delivered.supply (here : job.Here tools) (thorough : job.Thorough settings) {now : Nat}
    {r : Records} (hstore : r.store? = some base) (hcomplete : base.Complete) {slots : List Slot}
    (run : Delivered job result (launch job now r) slots s) (hidle : s.inFlight = []) :
    s.error? = none ∧ ∃ after, s.records.store? = some after ∧
      Store.Drawn (crop job result) base after ∧ after.Supplied (crop job result) := by
  have begun : Kept job result [] _ _ := kept_launch here now r
  obtain ⟨after, stocked⟩ : ∃ store, Stocked job result base s store := by
    clear hidle
    induction run with
    | nil => exact stocked_launch here thorough hstore hcomplete now
    | snoc now' before hflight ih =>
      obtain ⟨store, stocked⟩ := ih
      exact stocked.deliver here thorough hcomplete (before.kept here begun) now' hflight
  refine ⟨stocked.goes, after, stocked.records, stocked.drawn, ?_⟩
  obtain ⟨hactive, hpending⟩ := run.finished here hidle
  have kept := run.kept here begun
  have hplaced : (s.done.map Prod.fst).Perm (List.range job.projects.length) := by
    simpa [hactive, hpending] using kept.placed stocked.goes
  -- every project is done, and of those that are done everything is in the store
  rintro batch ⟨index, project, hlisted, hbatch⟩
  have hindex : index ∈ s.done.map Prod.fst :=
    hplaced.mem_iff.mpr (List.mem_range.mpr (List.getElem?_eq_some_iff.mp hlisted).1)
  obtain ⟨d, hd, rfl⟩ := List.mem_map.mp hindex
  have hproject : d.2.project = project :=
    Option.some_injective _ ((kept.ended d hd).listed.symm.trans hlisted)
  exact stocked.ended d hd batch (hproject ▸ hbatch)

end LintLedger.Schedule
