import LintLedger.Proofs.Analyzer.Report
import LintLedger.Proofs.Audit.Completion
import LintLedger.Proofs.Store.Stock

/-!
# What each tool brings to an audit

With the analyzers of the program, what a tool brings to an audit depends on its own result, and
for ESLint on that of radon, but not on when either ends: by the time at which a report is read
that uses the complexity document, the document is settled.  The same goes for any analyzers of
which only radon provides the document and only those that wait for it look at it.

The audits of a run write to the same records, so that between two deliveries to one of them the
records are changed by the others.  Nothing else touches the state of an audit.  Hence how an
audit stands, and what it comes to, is told from its state alone.

## Main Definitions

* `Audit.Coherent` -- analyzers among which one provides the complexity document
* `Audit.document` -- the complexity document of an audit
* `Audit.harvest` -- what a tool brings to an audit
* `Audit.Fails` -- how a tool fails in an audit
* `Audit.Awaited` -- the document is awaited as long as its tool has not ended
* `Audit.Stands` -- the states of an audit, whatever happens to the records meanwhile

## Main Statements

* `Audit.exists_harvest_eq_error_iff` -- which tools bring a failure
* `Audit.Steps.awaited` -- a document that is not awaited is settled
* `Audit.Steps.harvests` -- every deed brings what its tool brings
* `Audit.stands_launch`, `Audit.Stands.deliver` -- the states that audits come to
* `Audit.Stands.harvest_of_ok`, `Audit.Stands.cause_of_error` -- what the end of an audit says of
  its tools
-/

namespace LintLedger.Audit

section Harvest

variable {job : Job} {result : Tool → Execution} {settings : ToolSettings}

/-! ## Analyzers that agree on the document -/

/-- Analyzers among which radon, and no other, provides the complexity document, and of which
those that do not wait for the document do not look at it. -/
structure Coherent (analyzer : Tool → Analyzer) : Prop where
  provides : ∀ t, (analyzer t).providesComplexity = true ↔ t = .radon
  reads : ∀ t, (analyzer t).usesComplexity = false →
    ∀ (run : RunRecord) (anchor? : Option String) (c c' : Option Json),
      (analyzer t).read run (.ofRun run anchor? c) = (analyzer t).read run (.ofRun run anchor? c')

/-- The analyzers of the program agree on the document, under any settings. -/
theorem coherent_analyzerOf (settings : ToolSettings) : Coherent (analyzerOf settings) where
  provides := providesComplexity_iff settings
  reads := by
    intro t ht run anchor? c c'
    refine read_withComplexity (fun heslint => ?_) run anchor? c c'
    rw [(usesComplexity_iff settings t).mpr heslint] at ht
    cases ht

/-! ## What a tool brings -/

/-- The complexity document of an audit: the payload of radon, if radon is asked for and goes
well. -/
def document (job : Job) (result : Tool → Execution) : Option Json :=
  if .radon ∈ job.tools then
    match verdict (job.analyzer .radon) (result .radon) with
    | .ok run => run.payload?
    | .error _ => none
  else none

/-- What a tool brings to an audit: its findings, or why there are none. -/
def harvest (job : Job) (result : Tool → Execution) (t : Tool) :
    Except ToolFailure (List Finding) :=
  match verdict (job.analyzer t) (result t) with
  | .error failure => .error failure
  | .ok run =>
    match (job.analyzer t).read run (job.context (document job result) run) with
    | .error fault => .error (faultOf run fault)
    | .ok findings => .ok findings

/-- How a tool fails in an audit. -/
inductive Fails (job : Job) (result : Tool → Execution) (t : Tool) : Prop where
  /-- Its exit code is not accepted. -/
  | refused {run : RunRecord} :
      result t = .ran run → (job.analyzer t).accepts run.exitCode = false → Fails job result t
  /-- Its time was up. -/
  | late {run : RunRecord} : result t = .ran run → run.exitCode = 124 → Fails job result t
  /-- It could not be run, … -/
  | impossible {e : ProcessError} : result t = .impossible e → Fails job result t
  /-- … or the attempt to run it broke down. -/
  | brokeDown {text : String} : result t = .brokeDown text → Fails job result t
  /-- Its report cannot be read. -/
  | unreadable {run : RunRecord} {fault : ReportFault} : result t = .ran run →
      (job.analyzer t).read run (job.context (document job result) run) = .error fault →
      Fails job result t

/-- A run goes well if its exit code is accepted and is not the one of a time that was up. -/
theorem wentWell_iff {a : Analyzer} {run : RunRecord} :
    wentWell a run = true ↔ a.accepts run.exitCode = true ∧ run.exitCode ≠ 124 := by
  simp [wentWell, RunRecord.timedOut, RunRecord.timeoutExit]

/-- **A tool brings a failure exactly if it fails** in one of these ways. -/
theorem exists_harvest_eq_error_iff {t : Tool} :
    (∃ failure, harvest job result t = .error failure) ↔ Fails job result t := by
  unfold harvest
  constructor
  · rintro ⟨failure, h⟩
    cases hresult : result t with
    | impossible e => exact .impossible hresult
    | brokeDown text => exact .brokeDown hresult
    | ran run =>
      rw [hresult, verdict] at h
      by_cases hwell : wentWell (job.analyzer t) run = true
      · rw [if_pos hwell] at h
        dsimp only at h
        split at h
        · rename_i fault hread
          exact .unreadable hresult hread
        · cases h
      · rw [wentWell_iff, not_and_or, Bool.not_eq_true, not_not] at hwell
        exact hwell.elim (.refused hresult) (.late hresult)
  · intro hfails
    cases hfails with
    | @refused run hresult hcode =>
      have hbad : ¬ wentWell (job.analyzer t) run = true := by simp [wentWell_iff, hcode]
      rw [hresult, verdict, if_neg hbad]
      exact ⟨_, rfl⟩
    | @late run hresult hcode =>
      have hbad : ¬ wentWell (job.analyzer t) run = true := by simp [wentWell_iff, hcode]
      rw [hresult, verdict, if_neg hbad]
      exact ⟨_, rfl⟩
    | impossible hresult => rw [hresult]; exact ⟨_, rfl⟩
    | brokeDown hresult => rw [hresult]; exact ⟨_, rfl⟩
    | @unreadable run fault hresult hread =>
      rw [hresult, verdict]
      split
      · exact ⟨_, rfl⟩
      · rename_i h
        split at h
        · cases h
          rw [hread]
          exact ⟨_, rfl⟩
        · cases h

/-! ## Waiting for the document -/

/-- The complexity document is awaited as long as its tool has not ended, and settled then. -/
structure Awaited (job : Job) (result : Tool → Execution) (s : State) : Prop where
  awaiting : s.awaiting = true ↔ .radon ∈ s.pending ∨ .radon ∈ s.running
  unsettled : s.awaiting = true → s.complexity? = none
  settled : s.awaiting = false → s.complexity? = document job result

theorem ended_of_provides {a : Analyzer} (h : a.providesComplexity = true) (tool : Tool)
    (res : Execution) (s : State) :
    (s.ended a tool res).awaiting = false ∧
      (s.ended a tool res).complexity? =
        match verdict a res with
        | .ok run => run.payload?
        | .error _ => s.complexity? := by
  unfold State.ended settleComplexity
  rw [if_pos h]
  exact ⟨rfl, rfl⟩

theorem ended_of_not_provides {a : Analyzer} (h : ¬ a.providesComplexity = true) (tool : Tool)
    (res : Execution) (s : State) :
    (s.ended a tool res).awaiting = s.awaiting ∧
      (s.ended a tool res).complexity? = s.complexity? := by
  unfold State.ended settleComplexity
  rw [if_neg h]
  exact ⟨rfl, rfl⟩

/-- The end of a tool settles the document, if it is the tool that provides it. -/
theorem Awaited.ended (coherent : Coherent job.analyzer) {s : State}
    {history : List Deed} (awaited : Awaited job result s) (tracked : Tracked job result history s)
    {tool : Tool} (hrunning : tool ∈ s.running) :
    Awaited job result (s.ended (job.analyzer tool) tool (result tool)) := by
  obtain ⟨htool, hone⟩ := tracked.of_running hrunning
  by_cases hradon : tool = .radon
  · subst hradon
    have hprovides : (job.analyzer .radon).providesComplexity = true := by
      rw [coherent.provides]
    obtain ⟨hawaiting, hcomplexity⟩ := ended_of_provides hprovides .radon (result .radon) s
    -- while the tool runs, the document is awaited and there is none
    have hnone := awaited.unsettled (awaited.awaiting.mpr (.inr hrunning))
    refine ⟨?_, fun h => ?_, fun _ => ?_⟩
    · have hpending : Tool.radon ∉ s.pending := by
        rw [tracked.pending, hone]
        exact fun h => by cases h.2
      simp [hawaiting, hpending, tracked.nodup_running.mem_erase_iff]
    · rw [hawaiting] at h
      cases h
    · rw [hcomplexity, hnone, document, if_pos htool]
  · have hprovides : ¬ (job.analyzer tool).providesComplexity = true := by
      rw [coherent.provides]
      exact hradon
    obtain ⟨hawaiting, hcomplexity⟩ := ended_of_not_provides hprovides tool (result tool) s
    have herase : Tool.radon ∈ s.running.erase tool ↔ Tool.radon ∈ s.running :=
      List.mem_erase_of_ne fun h => hradon h.symm
    refine ⟨?_, ?_, ?_⟩
    · rw [hawaiting, State.ended_pending, State.ended_running, herase]
      exact awaited.awaiting
    · rw [hawaiting, hcomplexity]
      exact awaited.unsettled
    · rw [hawaiting, hcomplexity]
      exact awaited.settled

theorem Awaited.step (coherent : Coherent job.analyzer) {s s' : State}
    {history : List Deed} {d : Deed} (awaited : Awaited job result s)
    (tracked : Tracked job result history s) (hstopped : s.stopped? = none)
    (step : Step job result s d s') : Awaited job result s' := by
  cases step with
  | @start tool rest _ hpending =>
    refine ⟨?_, awaited.unsettled, awaited.settled⟩
    have hplaces := awaited.awaiting
    rw [hpending] at hplaces
    simp only [List.mem_cons, List.mem_append, List.not_mem_nil, or_false] at hplaces ⊢
    tauto
  | finish _ hrunning =>
    have hended := awaited.ended coherent tracked hrunning
    exact ⟨hended.awaiting, hended.unsettled, hended.settled⟩
  | breakOff _ hrunning =>
    have hended := awaited.ended coherent tracked hrunning
    exact ⟨hended.awaiting, hended.unsettled, hended.settled⟩
  | refuse => exact ⟨awaited.awaiting, awaited.unsettled, awaited.settled⟩
  | store => exact ⟨awaited.awaiting, awaited.unsettled, awaited.settled⟩
  | cancel hsome =>
    rw [hstopped] at hsome
    cases hsome
  | discard hsome =>
    rw [hstopped] at hsome
    cases hsome

/-- An audit that is not stopped was not stopped before. -/
theorem Step.stopped?_eq_none {s s' : State} {d : Deed} (step : Step job result s d s')
    (h : s'.stopped? = none) : s.stopped? = none := by
  cases step with
  | start hstopped => exact hstopped
  | finish hstopped => exact hstopped
  | breakOff hstopped => exact hstopped
  | refuse hstopped => exact hstopped
  | store hstopped => exact hstopped
  | cancel => exact h
  | discard => exact h

/-- An audit that is not to stop is not stopped. -/
theorem Steps.stopped?_eq_none (hgoes : job.stopOnError = false) {now : Nat} {s : State}
    {history : List Deed} (steps : Steps job result (initial job now) history s) :
    s.stopped? = none := by
  have hhalted := steps.halted
  cases hstopped : s.stopped? with
  | none => rfl
  | some stopper =>
    rw [hstopped] at hhalted
    cases hhalted with
    | stopped hstop =>
      rw [hgoes] at hstop
      cases hstop

/-- **A document that is not awaited is settled**, as long as the audit was not stopped. -/
theorem Steps.awaited (coherent : Coherent job.analyzer) (hnodup : job.tools.Nodup) {now : Nat}
    {s : State} {history : List Deed} (steps : Steps job result (initial job now) history s)
    (hstopped : s.stopped? = none) : Awaited job result s := by
  induction steps with
  | nil =>
    have hany : (initial job now).awaiting = true ↔ Tool.radon ∈ job.tools := by
      simp [initial, coherent.provides]
    refine ⟨?_, fun _ => rfl, fun hfalse => ?_⟩
    · rw [hany]
      simp [initial]
    · have hradon : Tool.radon ∉ job.tools := by
        rw [← hany, hfalse]
        exact Bool.false_ne_true
      rw [document, if_neg hradon]
      rfl
  | snoc before step ih =>
    have hbefore := step.stopped?_eq_none hstopped
    exact (ih hbefore).step coherent (before.tracked hnodup) hbefore step

/-! ## Every deed brings what its tool brings -/

/-- What a deed takes of a tool is what the tool brings. -/
def Deed.Harvests (job : Job) (result : Tool → Execution) : Deed → Prop
  | .broke t _ failure => harvest job result t = .error failure
  | .refused t run fault => harvest job result t = .error (faultOf run fault)
  | .stored t _ findings _ => harvest job result t = .ok findings
  | _ => True

/-- A report that may be read is read with the settled document, if that matters. -/
theorem Awaited.read_eq (coherent : Coherent job.analyzer) {s : State}
    (awaited : Awaited job result s) {tool : Tool} (hreads : s.Reads (job.analyzer tool))
    (run : RunRecord) :
    (job.analyzer tool).read run (job.context s.complexity? run) =
      (job.analyzer tool).read run (job.context (document job result) run) := by
  cases huses : (job.analyzer tool).usesComplexity with
  | true =>
    cases hawaiting : s.awaiting with
    | false => rw [awaited.settled hawaiting]
    | true =>
      obtain ⟨hpending, hrunning⟩ := hreads huses hawaiting
      have hplaces := awaited.awaiting.mp hawaiting
      rw [hpending, hrunning] at hplaces
      rcases hplaces with h | h <;> cases h
  | false => exact coherent.reads tool huses run _ _ _

theorem Step.harvests (coherent : Coherent job.analyzer) {s s' : State} {history : List Deed}
    {d : Deed} (step : Step job result s d s')
    (awaited : s.stopped? = none → Awaited job result s) (tracked : Tracked job result history s) :
    d.Harvests job result := by
  cases step with
  | breakOff _ _ hverdict =>
    show harvest job result _ = _
    rw [harvest, hverdict]
  | @refuse tool run fault front back hstopped hdeferred hreads hread =>
    have hmem : (tool, run) ∈ s.deferred := by simp [hdeferred]
    rw [(awaited hstopped).read_eq coherent hreads] at hread
    show harvest job result _ = _
    rw [harvest, tracked.verdict_of_deferred hmem]
    dsimp only
    rw [hread]
  | @store tool run findings inserted front back hstopped hdeferred hreads hread =>
    have hmem : (tool, run) ∈ s.deferred := by simp [hdeferred]
    rw [(awaited hstopped).read_eq coherent hreads] at hread
    show harvest job result _ = _
    rw [harvest, tracked.verdict_of_deferred hmem]
    dsimp only
    rw [hread]
  | _ => exact trivial

/-- **Every deed brings what its tool brings.** -/
theorem Steps.harvests (coherent : Coherent job.analyzer) (hnodup : job.tools.Nodup) {now : Nat}
    {s : State} {history : List Deed} (steps : Steps job result (initial job now) history s) :
    ∀ d ∈ history, d.Harvests job result := by
  induction steps with
  | nil => simp
  | snoc before step ih =>
    intro d hd
    rcases List.mem_append.mp hd with hold | hnew
    · exact ih d hold
    · rw [List.mem_singleton.mp hnew]
      exact step.harvests coherent (before.awaited coherent hnodup) (before.tracked hnodup)

/-- A tool that came to its end and brings findings had them stored. -/
theorem Ended.exists_stored {t : Tool} {deeds : List Deed} (ended : Ended job result t deeds)
    (hharvests : ∀ d ∈ deeds, d.Harvests job result) {findings : List Finding}
    (h : harvest job result t = .ok findings) :
    ∃ run inserted, .stored t run findings inserted ∈ deeds := by
  cases ended with
  | @broke failure _ =>
    have hbrings : harvest job result t = .error failure :=
      hharvests (.broke t (result t) failure) (by simp)
    rw [h] at hbrings
    cases hbrings
  | @refused run fault _ =>
    have hbrings : harvest job result t = .error (faultOf run fault) :=
      hharvests (.refused t run fault) (by simp)
    rw [h] at hbrings
    cases hbrings
  | @stored run findings' inserted _ =>
    have hbrings : harvest job result t = .ok findings' :=
      hharvests (.stored t run findings' inserted) (by simp)
    rw [h] at hbrings
    cases hbrings
    exact ⟨run, inserted, by simp⟩

/-- What a tool brings is for its own table. -/
theorem table_of_mem_harvest (hbuiltin : job.analyzer = analyzerOf settings) {t : Tool}
    {findings : List Finding} (h : harvest job result t = .ok findings) :
    ∀ f ∈ findings, f.table = t.tableName := by
  unfold harvest at h
  split at h
  · cases h
  · split at h
    · cases h
    · rename_i hread
      cases h
      rw [hbuiltin] at hread
      exact table_of_mem_read hread

end Harvest

/-! ## Audits that share their records -/

section Shared

variable {job : Job} {result : Tool → Execution}

/-- The states of an audit whose tools end as `result` says, whatever happens to the records
meanwhile. -/
inductive Stands (job : Job) (result : Tool → Execution) (s : State) : Prop where
  /-- Tools run. -/
  | going {since : Nat} {history : List Deed} :
      Steps job result (initial job since) history s → s.outcome? = none → s.running ≠ [] →
      s.Settled → Stands job result s
  /-- The store failed. -/
  | lost {e : StoreError} : s.outcome? = some (.error (.storage e)) → Stands job result s
  /-- The audit ended when it had come to `last`, a moment that left nothing to do. -/
  | closed {since now : Nat} {history : List Deed} {last : Moment} :
      Steps job result (initial job since) history last.1 → last.1.running = [] →
      last.1.pending = [] → (last.1.stopped? = none → last.1.deferred = []) →
      s.outcome? = (close job now last).1.outcome? → Stands job result s

/-- What has a course after a history of deeds stands in one of the three ways. -/
theorem Course.stands {since : Nat} {before : List Deed} {start m : Moment}
    (steps : Steps job result (initial job since) before start.1)
    (course : Course job result start m) : Stands job result m.1 := by
  cases course with
  | going hpath houtcome hrunning hsettled =>
    exact .going (steps.trans hpath.steps) houtcome hrunning hsettled
  | lost hlost =>
    obtain ⟨-, e, he⟩ := hlost
    exact .lost he
  | closed hpath hrunning hpending hdeferred _ houtcome _ =>
    exact .closed (steps.trans hpath.steps) hrunning hpending hdeferred houtcome

theorem stands_launch (job : Job) (result : Tool → Execution) (now : Nat) (r : Records) :
    Stands job result (launch job now r).1 := by
  have hcourse : Course job result (initial job now, r.add job.anchor .opened) (launch job now r) :=
    advance_course now (.refl _) rfl fun hsome => by cases hsome
  exact hcourse.stands .nil

namespace Stands

variable {s : State}

/-- An audit that has not ended goes on. -/
theorem of_open (stands : Stands job result s) (hopen : s.outcome? = none) :
    ∃ since history, Steps job result (initial job since) history s ∧ s.running ≠ [] ∧
      s.Settled := by
  cases stands with
  | going steps _ hrunning hsettled => exact ⟨_, _, steps, hrunning, hsettled⟩
  | lost hlost =>
    rw [hopen] at hlost
    cases hlost
  | @closed _ now _ last _ _ _ _ hend =>
    have hclosed := isSome_close job now last
    rw [← hend, hopen] at hclosed
    cases hclosed

/-- A delivery leads from one such state to another. -/
theorem deliver {m : Moment} (stands : Stands job result m.1) (hopen : m.1.outcome? = none)
    (now : Nat) {tool : Tool} (hrunning : tool ∈ m.1.running) :
    Stands job result (deliver job now tool (result tool) m).1 := by
  obtain ⟨since, history, steps, -, hsettled⟩ := stands.of_open hopen
  exact (deliver_course now (.refl m) hopen hsettled hrunning).stands steps

/-- An audit that was to stop at the first failure and came to a summary met none: every tool
brought findings. -/
theorem harvest_of_ok (stands : Stands job result s) (coherent : Coherent job.analyzer)
    (hnodup : job.tools.Nodup) (hstop : job.stopOnError = true) {sum : Summary}
    (hend : s.outcome? = some (.ok sum)) :
    ∀ t ∈ job.tools, ∃ findings, harvest job result t = .ok findings := by
  cases stands with
  | going _ hopen =>
    rw [hend] at hopen
    cases hopen
  | lost hlost =>
    rw [hend] at hlost
    cases hlost
  | @closed _ now history last steps hrunning hpending hdeferred hclosed =>
    -- an audit that was stopped is closed with an error
    have hstopped : last.1.stopped? = none := by
      cases hgoes : last.1.stopped? with
      | none => rfl
      | some stopper =>
        rw [hend, close_outcome?_of_stopped job now hgoes] at hclosed
        cases hclosed
    have halted := steps.halted
    rw [hstopped] at halted
    -- it was to stop at the first failure, so that there was none
    have hfine : ∀ d ∈ history, d.failure? = none := by
      cases halted with
      | going hgoes =>
        intro d hd
        have hd' := hgoes d hd
        cases d <;> first | exact hd' hstop | exact absurd hd' id
    have hharvests := steps.harvests coherent hnodup
    have tracked := steps.tracked hnodup
    intro t ht
    have hended := tracked.ended halted hpending hrunning (hdeferred hstopped) ht
    have hmem : ∀ d ∈ about t history, d ∈ history := fun d hd => (mem_about.mp hd).1
    generalize about t history = deeds at hended hmem
    cases hended with
    | @broke failure => cases hfine (.broke t (result t) failure) (hmem _ (by simp))
    | @refused run fault => cases hfine (.refused t run fault) (hmem _ (by simp))
    | @stored run findings inserted =>
      exact ⟨findings, hharvests (.stored t run findings inserted) (hmem _ (by simp))⟩

/-- An audit that ended with an error met an error of the store, or it was to stop at the first
failure and one of its tools brought one. -/
theorem cause_of_error (stands : Stands job result s) (coherent : Coherent job.analyzer)
    (hnodup : job.tools.Nodup) {e : AuditError} (hend : s.outcome? = some (.error e)) :
    (∃ cause, e = .storage cause) ∨
      job.stopOnError = true ∧ ∃ t ∈ job.tools, ∃ failure,
        harvest job result t = .error failure ∧ e = .stopped t failure := by
  cases stands with
  | going _ hopen =>
    rw [hend] at hopen
    cases hopen
  | @lost cause hlost =>
    rw [hend] at hlost
    cases hlost
    exact .inl ⟨cause, rfl⟩
  | @closed _ now history last steps _ _ _ hclosed =>
    have halted := steps.halted
    rw [hend] at hclosed
    cases hstopped : last.1.stopped? with
    | none =>
      rw [close_outcome?_of_going job now hstopped] at hclosed
      cases hclosed
    | some stopper =>
      obtain ⟨t, failure⟩ := stopper
      rw [close_outcome?_of_stopped job now hstopped] at hclosed
      cases hclosed
      rw [hstopped] at halted
      cases halted with
      | @stopped before after d _ hstop hhistory hfailure =>
        have hmem : d ∈ history := by simp [hhistory]
        have hbrings := steps.harvests coherent hnodup d hmem
        refine .inr ⟨hstop, d.tool, (steps.tracked hnodup).requested d hmem, failure, ?_, rfl⟩
        cases d with
        | broke t res failure' =>
          cases hfailure
          exact hbrings
        | refused t run fault =>
          cases hfailure
          exact hbrings
        | _ => cases hfailure

end Stands

end Shared

end LintLedger.Audit
