import LintLedger.Proofs.Audit.Harvest
import LintLedger.Proofs.Store.Stock

/-!
# What an audit brings to a store

An audit that finds every table in its store never loses it to an error of the store.  Whatever
else is written to the store meanwhile, each delivery adds to it only batches that tools of the
audit bring, and an audit that has come to its end has added all of them.

## Main Definitions

* `Audit.Equipped` -- the store has all its tables, and no error of it has ended the audit
* `Audit.crop` -- the batches that the tools of an audit bring
* `Audit.Filed` -- what an audit has stored so far is in a store
* `Audit.Leaves` -- what a step of an audit leaves in the store

## Main Statements

* `Audit.equipped_launch`, `Audit.Equipped.deliver` -- an audit never loses a complete store
* `Audit.leaves_launch`, `Audit.leaves_deliver` -- what is written at the start of an audit and at
  each delivery
-/

namespace LintLedger.Audit

variable {job : Job} {result : Tool → Execution} {settings : ToolSettings}

/-! ## Audits do not lose a complete store -/

/-- The store has all its tables, and no error of it has ended the audit. -/
structure Equipped (m : Moment) : Prop where
  store : ∃ s, m.2.store? = some s ∧ s.Complete
  fine : ∀ e, m.1.outcome? ≠ some (.error (.storage e))

namespace Equipped

variable {m m' : Moment}

theorem of_eq (h : Equipped m) (hstore : m'.2.store? = m.2.store?)
    (houtcome : m'.1.outcome? = m.1.outcome?) : Equipped m' :=
  ⟨hstore ▸ h.store, houtcome ▸ h.fine⟩

theorem start (h : Equipped m) (free : Nat) : Equipped (start job free m) := by
  induction free generalizing m with
  | zero => exact h
  | succ free ih =>
    cases hpending : m.1.pending with
    | nil =>
      rw [start_of_nil hpending]
      exact h
    | cons tool rest =>
      rw [start_of_cons hpending]
      exact ih (h.of_eq rfl rfl)

theorem fill (h : Equipped m) : Equipped (fill job m) := by
  unfold Audit.fill
  split
  · exact h
  · exact h.start _

theorem fail (h : Equipped m) (tool : Tool) (failure : ToolFailure) :
    Equipped (fail job tool failure m) := by
  have hcancelled (skipped : List Tool) (r : Records) :
      (skipped.foldl (fun r t => (Deed.cancelled t).mark job r) r).store? = r.store? := by
    induction skipped generalizing r with
    | nil => rfl
    | cons t rest ih => exact ih _
  rw [fail_eq]
  split
  · exact h.of_eq (hcancelled _ _) rfl
  · exact h.of_eq rfl rfl

/-- Reading the report of a tool: its findings are for a table that exists. -/
theorem process (h : Equipped m) (hbuiltin : job.analyzer = analyzerOf settings) (tool : Tool)
    (run : RunRecord) : Equipped (process job tool run m) := by
  obtain ⟨s, hstore, hcomplete⟩ := h.store
  simp only [Audit.process, tellTool, tell]
  split
  · refine Equipped.fail ?_ tool _
    exact h.of_eq rfl rfl
  · rename_i findings hread
    rw [hbuiltin] at hread
    have hknown : ∀ f ∈ findings, (Schema.table? f.table).isSome := by
      intro f hf
      rw [table_of_mem_read hread f hf, Schema.table?_tableName]
      rfl
    obtain ⟨⟨⟨id, inserted⟩, hanswer⟩, hdrawn, -⟩ := Store.Drawn.persist hcomplete hknown
      (Set.mem_singleton findings) job.mode (job.scan tool)
    rcases hpersist : s.persist job.mode (job.scan tool) findings with ⟨after, answer⟩
    rw [hpersist] at hanswer hdrawn
    obtain rfl : answer = .ok (id, inserted) := hanswer
    unfold Job.scan at hpersist
    simp only [keep, Records.add, hstore, hpersist]
    exact ⟨⟨after, rfl, hdrawn.complete hcomplete⟩, h.fine⟩

theorem processDeferred (h : Equipped m) (hbuiltin : job.analyzer = analyzerOf settings)
    (runs : List (Tool × RunRecord)) : Equipped (processDeferred job runs m) := by
  induction runs generalizing m with
  | nil => exact h
  | cons entry rest ih =>
    obtain ⟨tool, run⟩ := entry
    simp only [Audit.processDeferred]
    split
    · exact h.process hbuiltin tool run
    · exact ih (h.process hbuiltin tool run)

theorem close (h : Equipped m) (now : Nat) : Equipped (close job now m) := by
  refine ⟨h.store, fun e he => ?_⟩
  cases hstopped : m.1.stopped? with
  | none =>
    rw [close_outcome?_of_going job now hstopped] at he
    cases he
  | some stopper =>
    rw [close_outcome?_of_stopped job now hstopped] at he
    cases he

theorem conclude (h : Equipped m) (hbuiltin : job.analyzer = analyzerOf settings) (now : Nat) :
    Equipped (conclude job now m) := by
  have hheld : Equipped (hold [] m) := h.of_eq rfl rfl
  have hread := hheld.processDeferred hbuiltin m.1.deferred
  unfold Audit.conclude
  split
  · exact h.close now
  · dsimp only
    split
    · exact hread
    · exact hread.close now

theorem advance (h : Equipped m) (hbuiltin : job.analyzer = analyzerOf settings) (now : Nat) :
    Equipped (advance job now m) := by
  unfold Audit.advance
  split
  · exact h
  · dsimp only
    split
    · exact h.fill.conclude hbuiltin now
    · exact h.fill

theorem deliver (h : Equipped m) (hbuiltin : job.analyzer = analyzerOf settings) (now : Nat)
    (tool : Tool) (res : Execution) : Equipped (deliver job now tool res m) := by
  unfold Audit.deliver
  dsimp only
  split
  · have hparted : Equipped (parted tool m) := h.of_eq rfl rfl
    exact hparted.advance hbuiltin now
  · have hended (d : Deed) (hd : d.store? job m.2.store? = m.2.store?) :
        Equipped (m.1.ended (job.analyzer tool) tool res, d.mark job m.2) :=
      h.of_eq hd (State.ended_outcome? _ _ _ _)
    refine advance ?_ hbuiltin now
    change Equipped (take job tool res (parted tool m))
    rcases take_cases job tool res m with ⟨failure, -, heq⟩ | ⟨run, -, heq⟩
    · rw [heq]
      exact (hended _ rfl).fail tool failure
    · rw [heq]
      split
      · exact (hended _ rfl).of_eq rfl rfl
      · exact (hended _ rfl).process hbuiltin tool run

end Equipped

theorem equipped_launch (hbuiltin : job.analyzer = analyzerOf settings) {r : Records} {s : Store}
    (hstore : r.store? = some s) (hcomplete : s.Complete) (now : Nat) :
    Equipped (launch job now r) :=
  Equipped.advance ⟨⟨s, hstore, hcomplete⟩, fun _ he => by cases he⟩ hbuiltin now

/-! ## What an audit stores -/

/-- The batches that the tools of an audit bring. -/
def crop (job : Job) (result : Tool → Execution) : Store.Stock :=
  { batch | ∃ t ∈ job.tools, harvest job result t = .ok batch }

/-- The batches that were stored in a history. -/
def storedIn (history : List Deed) : Store.Stock :=
  { batch | ∃ t run inserted, .stored t run batch inserted ∈ history }

theorem storedIn_append (history more : List Deed) :
    storedIn (history ++ more) = storedIn history ∪ storedIn more := by
  ext batch
  simp only [storedIn, List.mem_append, Set.mem_ofPred_eq, Set.mem_union, exists_or]

/-- What is stored is what tools of the audit bring. -/
theorem Steps.storedIn_subset (coherent : Coherent job.analyzer) (hnodup : job.tools.Nodup)
    {since : Nat} {s : State} {history : List Deed}
    (steps : Steps job result (initial job since) history s) :
    storedIn history ⊆ crop job result := by
  rintro batch ⟨t, run, inserted, hmem⟩
  exact ⟨t, (steps.tracked hnodup).requested _ hmem, steps.harvests coherent hnodup _ hmem⟩

/-- A history of deeds adds to a complete store what it stores. -/
theorem Marked.drawn {stock : Store.Stock} {r r' : Records} {history : List Deed}
    (marked : Marked job r history r') {before : Store} (hstore : r.store? = some before)
    (hcomplete : before.Complete) (hstored : storedIn history ⊆ stock)
    (hknown : ∀ batch ∈ stock, ∀ f ∈ batch, (Schema.table? f.table).isSome) :
    ∃ after, r'.store? = some after ∧ Store.Drawn stock before after ∧
      after.Supplied (storedIn history) := by
  induction marked with
  | nil => exact ⟨before, hstore, .refl stock before, fun batch ⟨_, _, _, hmem⟩ => by cases hmem⟩
  | @snoc r' history d _ _ ih =>
    rw [storedIn_append, Set.union_subset_iff] at hstored
    obtain ⟨between, hbetween, hdrawn, hsupplied⟩ := ih hstored.1
    rw [storedIn_append]
    by_cases hd : ∃ t run batch inserted, d = .stored t run batch inserted
    · obtain ⟨t, run, batch, inserted, rfl⟩ := hd
      have hbatch : batch ∈ stock := hstored.2 ⟨t, run, inserted, List.mem_singleton_self _⟩
      obtain ⟨-, hmore, hnew⟩ := Store.Drawn.persist (hdrawn.complete hcomplete)
        (hknown batch hbatch) hbatch job.mode (job.scan t)
      refine ⟨_, by simp [Deed.mark, Deed.store?, hbetween], hdrawn.trans hmore, ?_⟩
      rintro other (hold | ⟨t', run', inserted', hmem⟩)
      · exact hmore.supplied hsupplied other hold
      · cases List.mem_singleton.mp hmem
        exact hnew batch rfl
    · have hsame : d.store? job r'.store? = r'.store? := by
        cases d with
        | stored t run batch inserted => exact absurd ⟨t, run, batch, inserted, rfl⟩ hd
        | _ => rfl
      refine ⟨between, hsame.trans hbetween, hdrawn, ?_⟩
      rintro other (hold | ⟨t', run', inserted', hmem⟩)
      · exact hsupplied other hold
      · exact absurd ⟨t', run', other, inserted', (List.mem_singleton.mp hmem).symm⟩ hd

/-- What tools of an audit bring is for tables that there are. -/
theorem known_of_mem_crop (hbuiltin : job.analyzer = analyzerOf settings) :
    ∀ batch ∈ crop job result, ∀ f ∈ batch, (Schema.table? f.table).isSome := by
  rintro batch ⟨t, -, hharvest⟩ f hf
  rw [table_of_mem_harvest hbuiltin hharvest f hf, Schema.table?_tableName]
  rfl

/-- What an audit has stored so far is in a store. -/
def Filed (job : Job) (result : Tool → Execution) (s : State) (store : Store) : Prop :=
  ∃ since history, Steps job result (initial job since) history s ∧
    store.Supplied (storedIn history)

/-- What a step of an audit leaves in the store that was `before`: it added batches that tools of
the audit bring, and all of them if the audit has come to its end. -/
structure Leaves (job : Job) (result : Tool → Execution) (before : Store) (m : Moment)
    (after : Store) : Prop where
  store : m.2.store? = some after
  drawn : Store.Drawn (crop job result) before after
  goes : m.1.outcome? = none → Filed job result m.1 after
  ends : m.1.outcome? ≠ none →
    (∃ sum, m.1.outcome? = some (.ok sum)) ∧ after.Supplied (crop job result)

/-- A moment with a course leaves what was stored on the way. -/
theorem Course.leaves (hbuiltin : job.analyzer = analyzerOf settings)
    (hnodup : job.tools.Nodup) (hgoes : job.stopOnError = false) {start m : Moment}
    (course : Course job result start m) (equipped : Equipped m) {before : Store}
    (hstore : start.2.store? = some before) (hcomplete : before.Complete)
    (filed : Filed job result start.1 before) :
    ∃ after, Leaves job result before m after := by
  have coherent : Coherent job.analyzer := hbuiltin ▸ coherent_analyzerOf settings
  obtain ⟨since, history, steps, hsupplied⟩ := filed
  -- a path from the start stores what tools bring, and all that was stored is in the store then
  have hpath {last : Moment} {more : List Deed} (path : Path job result start more last) :
      ∃ after, last.2.store? = some after ∧ Store.Drawn (crop job result) before after ∧
        Steps job result (initial job since) (history ++ more) last.1 ∧
        after.Supplied (storedIn (history ++ more)) := by
    have hsteps := steps.trans path.steps
    have hstored := hsteps.storedIn_subset coherent hnodup
    rw [storedIn_append, Set.union_subset_iff] at hstored
    obtain ⟨after, hafter, hdrawn, hnew⟩ := path.marked.drawn hstore hcomplete hstored.2
      (known_of_mem_crop hbuiltin)
    refine ⟨after, hafter, hdrawn, hsteps, ?_⟩
    rw [storedIn_append]
    exact fun batch hbatch => hbatch.elim (hdrawn.supplied hsupplied batch) (hnew batch)
  cases course with
  | going path hopen _ _ =>
    obtain ⟨after, hafter, hdrawn, hsteps, hall⟩ := hpath path
    exact ⟨after, hafter, hdrawn, fun _ => ⟨since, _, hsteps, hall⟩, fun h => absurd hopen h⟩
  | lost hlost =>
    obtain ⟨-, e, he⟩ := hlost
    exact absurd he (equipped.fine e)
  | @closed last _ now path hrunning hpending hdeferred _ houtcome hrecords =>
    obtain ⟨after, hafter, hdrawn, hsteps, hall⟩ := hpath path
    have hstopped : last.1.stopped? = none := hsteps.stopped?_eq_none hgoes
    have halted := hsteps.halted
    rw [hstopped] at halted
    rw [close_outcome?_of_going job now hstopped] at houtcome
    have hclosed : m.1.outcome? ≠ none := by simp [houtcome]
    refine ⟨after, hrecords ▸ hafter, hdrawn, fun hopen => absurd hopen hclosed,
      fun _ => ⟨⟨_, houtcome⟩, ?_⟩⟩
    rintro batch ⟨t, ht, hharvest⟩
    have hended := (hsteps.tracked hnodup).ended halted hpending hrunning (hdeferred hstopped) ht
    obtain ⟨run, inserted, hmem⟩ := hended.exists_stored
      (fun d hd => hsteps.harvests coherent hnodup d (mem_about.mp hd).1) hharvest
    exact hall batch ⟨t, run, inserted, (mem_about.mp hmem).1⟩

/-- **What the start of an audit leaves.** -/
theorem leaves_launch (hbuiltin : job.analyzer = analyzerOf settings) (hnodup : job.tools.Nodup)
    (hgoes : job.stopOnError = false) {r : Records} {before : Store}
    (hstore : r.store? = some before) (hcomplete : before.Complete) (now : Nat) :
    ∃ after, Leaves job result before (launch job now r) after := by
  have hcourse : Course job result (initial job now, r.add job.anchor .opened) (launch job now r) :=
    advance_course now (.refl _) rfl fun hsome => by cases hsome
  exact hcourse.leaves hbuiltin hnodup hgoes (equipped_launch hbuiltin hstore hcomplete now) hstore
    hcomplete ⟨now, [], .nil, fun _ ⟨_, _, _, hmem⟩ => by cases hmem⟩

/-- **What a delivery leaves.** -/
theorem leaves_deliver (hbuiltin : job.analyzer = analyzerOf settings) (hnodup : job.tools.Nodup)
    (hgoes : job.stopOnError = false) {m : Moment} (hopen : m.1.outcome? = none)
    (hsettled : m.1.Settled) {before : Store} (hstore : m.2.store? = some before)
    (hcomplete : before.Complete) (filed : Filed job result m.1 before) (now : Nat) {tool : Tool}
    (hrunning : tool ∈ m.1.running) :
    ∃ after, Leaves job result before (deliver job now tool (result tool) m) after := by
  have hcourse : Course job result m (deliver job now tool (result tool) m) :=
    deliver_course now (.refl m) hopen hsettled hrunning
  have hequipped : Equipped m := ⟨⟨before, hstore, hcomplete⟩, fun e he => by
    rw [hopen] at he
    cases he⟩
  exact hcourse.leaves hbuiltin hnodup hgoes (hequipped.deliver hbuiltin now tool (result tool))
    hstore hcomplete filed

end LintLedger.Audit
