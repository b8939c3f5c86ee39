import LintLedger.Proofs.Audit.Trace

/-!
# Audits that stop at a failure

An audit that is to stop at the first failure starts its tools in the order of the request up to
that failure, cancels the rest and reads nothing more, whatever runs at that moment.

## Main Definitions

* `Audit.Ordered` -- tools are started, and cancelled, in the order of the request
* `Audit.Halted` -- a history falls into what was before the failure and what came after it
* `Audit.StoppedTrace` -- the events of an audit that stopped

## Main Statements

* `Audit.Steps.ordered`, `Audit.Steps.halted` -- what every history keeps to
* `Audit.stopped_trace` -- what is true of every audit that stopped
-/

namespace LintLedger.Audit

variable {job : Job} {result : Tool → Execution}

/-! ## The order of the request -/

/-- Tools are started in the order of the request, and once the audit is stopped cancelled in
that order. -/
structure Ordered (job : Job) (history : List Deed) (s : State) : Prop where
  order : history.filterMap Deed.started? ++ (history.filterMap Deed.cancelled? ++ s.pending) =
    job.tools
  going : s.stopped? = none → history.filterMap Deed.cancelled? = []

/-- A deed that neither starts nor cancels keeps the order. -/
theorem Ordered.snoc_none {s s' : State} {history : List Deed} {d : Deed}
    (ordered : Ordered job history s) (hstarted : d.started? = none)
    (hcancelled : d.cancelled? = none) (hpending : s'.pending = s.pending)
    (hstopped : s'.stopped? = none → s.stopped? = none) :
    Ordered job (history ++ [d]) s' := by
  have hs : (history ++ [d]).filterMap Deed.started? = history.filterMap Deed.started? := by
    simp [hstarted]
  have hc : (history ++ [d]).filterMap Deed.cancelled? = history.filterMap Deed.cancelled? := by
    simp [hcancelled]
  refine ⟨?_, fun hnone => ?_⟩
  · rw [hs, hc, hpending]
    exact ordered.order
  · rw [hc]
    exact ordered.going (hstopped hnone)

theorem Ordered.step {s s' : State} {history : List Deed} {d : Deed}
    (ordered : Ordered job history s) (step : Step job result s d s') :
    Ordered job (history ++ [d]) s' := by
  cases step with
  | @start tool rest hstopped hpending =>
    have hnone := ordered.going hstopped
    have horder := ordered.order
    rw [hnone, hpending] at horder
    refine ⟨?_, fun _ => ?_⟩
    · simpa [List.filterMap_cons, Deed.started?, Deed.cancelled?, hnone] using horder
    · simpa [List.filterMap_cons, Deed.cancelled?] using hnone
  | finish hstopped => exact ordered.snoc_none rfl rfl (by simp) fun _ => hstopped
  | breakOff hstopped => exact ordered.snoc_none rfl rfl (by simp) fun _ => hstopped
  | refuse hstopped => exact ordered.snoc_none rfl rfl rfl fun _ => hstopped
  | store hstopped => exact ordered.snoc_none rfl rfl rfl fun _ => hstopped
  | @cancel tool rest hstopped hpending =>
    have horder := ordered.order
    rw [hpending] at horder
    refine ⟨?_, fun hnone => ?_⟩
    · simpa [List.filterMap_cons, Deed.started?, Deed.cancelled?] using horder
    · rw [show s.stopped? = none from hnone] at hstopped
      cases hstopped
  | discard => exact ordered.snoc_none rfl rfl rfl id

/-- **Tools are started in the order of the request.** -/
theorem Steps.ordered {now : Nat} {s : State} {history : List Deed}
    (steps : Steps job result (initial job now) history s) : Ordered job history s := by
  induction steps with
  | nil => exact ⟨rfl, fun _ => rfl⟩
  | snoc _ step ih => exact ih.step step

/-- Where nothing is pending, the first tools of the request were started … -/
theorem Ordered.take_eq {s : State} {history : List Deed} (ordered : Ordered job history s)
    (hpending : s.pending = []) :
    job.tools.take (history.filterMap Deed.started?).length =
      history.filterMap Deed.started? := by
  rw [← ordered.order, hpending, List.append_nil]
  exact List.take_left

/-- … and the others were cancelled. -/
theorem Ordered.drop_eq {s : State} {history : List Deed} (ordered : Ordered job history s)
    (hpending : s.pending = []) :
    job.tools.drop (history.filterMap Deed.started?).length =
      history.filterMap Deed.cancelled? := by
  rw [← ordered.order, hpending, List.append_nil]
  exact List.drop_left

/-! ## Before and after the failure -/

namespace Deed

/-- A deed of an audit that was not stopped before and is not stopped by it. -/
def Goes (job : Job) (d : Deed) : Prop :=
  match d with
  | .cancelled _ | .discarded _ => False
  | d => job.stopOnError = true → d.failure? = none

/-- A deed of an audit that was stopped. -/
def Winds : Deed → Prop
  | .cancelled _ | .discarded _ => True
  | _ => False

end Deed

/-- A history falls into what was before the failure that stopped the audit, that failure, and
what came after it. -/
inductive Halted (job : Job) (history : List Deed) : Option (Tool × ToolFailure) → Prop where
  | going : (∀ d ∈ history, d.Goes job) → Halted job history none
  | stopped {before after : List Deed} {d : Deed} {failure : ToolFailure} :
      job.stopOnError = true → history = before ++ d :: after → d.failure? = some failure →
      (∀ e ∈ before, e.Goes job) → (∀ e ∈ after, e.Winds) →
      Halted job history (some (d.tool, failure))

/-- A deed of an audit that was not stopped before and is not stopped by it. -/
theorem Halted.snoc_goes {history : List Deed} {d : Deed} (halted : Halted job history none)
    (hd : d.Goes job) : Halted job (history ++ [d]) none := by
  cases halted with
  | going hgoes =>
    refine .going fun e he => ?_
    rcases List.mem_append.mp he with hold | hnew
    · exact hgoes e hold
    · rw [List.mem_singleton.mp hnew]
      exact hd

/-- A failure stops the audit, if the audit is to stop at it. -/
theorem Halted.snoc_failure {history : List Deed} {d : Deed} {failure : ToolFailure}
    (halted : Halted job history none) (hd : d.failure? = some failure) :
    Halted job (history ++ [d]) (if job.stopOnError then some (d.tool, failure) else none) := by
  split
  · rename_i hstop
    cases halted with
    | going hgoes => exact .stopped hstop rfl hd hgoes (by simp)
  · rename_i hstop
    refine halted.snoc_goes ?_
    cases d <;> first | exact fun h => absurd h hstop | cases hd

/-- A deed of an audit that was stopped. -/
theorem Halted.snoc_winds {history : List Deed} {d : Deed} {stopper : Option (Tool × ToolFailure)}
    (halted : Halted job history stopper) (hsome : stopper.isSome) (hd : d.Winds) :
    Halted job (history ++ [d]) stopper := by
  cases halted with
  | going => cases hsome
  | @stopped before after first failure hstop heq hfailure hbefore hafter =>
    have hmore : history ++ [d] = before ++ first :: (after ++ [d]) := by simp [heq]
    refine .stopped hstop hmore hfailure hbefore fun e he => ?_
    rcases List.mem_append.mp he with hold | hnew
    · exact hafter e hold
    · rw [List.mem_singleton.mp hnew]
      exact hd

theorem Halted.step {s s' : State} {history : List Deed} {d : Deed}
    (halted : Halted job history s.stopped?) (step : Step job result s d s') :
    Halted job (history ++ [d]) s'.stopped? := by
  cases step with
  | start hstopped =>
    rw [hstopped] at halted
    simpa [hstopped] using halted.snoc_goes (d := .started _) fun _ => rfl
  | finish hstopped =>
    rw [hstopped] at halted
    simpa [hstopped] using halted.snoc_goes (d := .finished _ _) fun _ => rfl
  | breakOff hstopped =>
    rw [hstopped] at halted
    simpa [State.failed, Deed.tool, hstopped] using halted.snoc_failure rfl
  | refuse hstopped =>
    rw [hstopped] at halted
    simpa [State.failed, Deed.tool, hstopped] using halted.snoc_failure rfl
  | store hstopped =>
    rw [hstopped] at halted
    simpa [hstopped] using halted.snoc_goes (d := .stored _ _ _ _) fun _ => rfl
  | cancel hstopped => exact halted.snoc_winds hstopped trivial
  | discard hstopped => exact halted.snoc_winds hstopped trivial

/-- **Every history falls apart at the failure** that stopped the audit, if one did. -/
theorem Steps.halted {now : Nat} {s : State} {history : List Deed}
    (steps : Steps job result (initial job now) history s) : Halted job history s.stopped? := by
  induction steps with
  | nil => exact .going (by simp)
  | snoc _ step ih => exact ih.step step

/-! ## What comes after the failure -/

/-- Behind the failure there are the events of cancelling. -/
theorem events_of_winds {after : List Deed} (h : ∀ d ∈ after, d.Winds) :
    after.flatMap (Deed.events job) =
      (after.filterMap Deed.cancelled?).map fun t => toolEvent job t .cancelled := by
  induction after with
  | nil => rfl
  | cons d rest ih =>
    have hrest := ih fun e he => h e (List.mem_cons_of_mem _ he)
    have hd := h d List.mem_cons_self
    rw [List.flatMap_cons, hrest, List.filterMap_cons]
    cases d <;> first | rfl | cases hd

/-- Behind the failure the audit stays stopped by it. -/
theorem Steps.stopped?_of_winds {s s' : State} {after : List Deed}
    (steps : Steps job result s after s') (h : ∀ d ∈ after, d.Winds) :
    s'.stopped? = s.stopped? := by
  induction steps with
  | nil => rfl
  | @snoc _ _ history d _ step ih =>
    have hd := h d (by simp)
    rw [← ih fun e he => h e (by simp [he])]
    cases step <;> first | rfl | cases hd

/-- Behind the failure nothing is stored. -/
theorem Marked.store?_of_winds {r r' : Records} {after : List Deed}
    (marked : Marked job r after r') (h : ∀ d ∈ after, d.Winds) : r'.store? = r.store? := by
  induction marked with
  | nil => rfl
  | @snoc r' history d _ _ ih =>
    have hd := h d (by simp)
    rw [← ih fun e he => h e (by simp [he])]
    cases d <;> first | rfl | cases hd

/-- The events of an audit that stopped at the failure of a tool, when the first `count` tools of
the request had been submitted. -/
structure StoppedTrace (job : Job) (tool : Tool) (failure : ToolFailure) (count : Nat)
    (before : List Event) (first last : Event) (trace : List Event) : Prop where
  /-- The first failure is followed by the cancellation of what was not submitted. -/
  shape : trace = before ++
    first :: ((job.tools.drop count).map fun t => toolEvent job t .cancelled) ++ [last]
  submitted : (trace.filter fun e => e.kind = .submitted) =
    (job.tools.take count).map fun t => toolEvent job t .submitted
  cancelled : ∀ t ∈ job.tools.drop count,
    (trace.filter fun e => e.tool = t.name) = [toolEvent job t .cancelled]
  uncancelled : ∀ t ∈ job.tools.take count, ∀ e ∈ trace, e.tool = t.name → e.kind ≠ .cancelled
  unfailed : ∀ e ∈ before, tellsFailure e.kind = false
  first_tool : first.tool = tool.name
  first_kind : first.kind = eventOf failure.kind
  first_message : first.message? = some failure.message
  last_kind : last.kind = .completedWithErrors
  /-- The last event is the only one about the audit as a whole. -/
  alone : (trace.filter fun e => e.tool = allTools) = [last]

/-- What was cancelled was cancelled behind the failure. -/
theorem filterMap_cancelled? {before after : List Deed} {d : Deed} {failure : ToolFailure}
    (hfailure : d.failure? = some failure) (hbefore : ∀ e ∈ before, e.Goes job) :
    (before ++ d :: after).filterMap Deed.cancelled? = after.filterMap Deed.cancelled? := by
  have hnone : before.filterMap Deed.cancelled? = [] := by
    refine List.filterMap_eq_nil_iff.mpr fun e he => ?_
    have hgoes := hbefore e he
    cases e <;> first | rfl | cases hgoes
  have hd : d.cancelled? = none := by
    cases d <;> first | rfl | cases hfailure
  rw [List.filterMap_append, hnone, List.nil_append, List.filterMap_cons_none hd]

/-- A tool that was started is not cancelled. -/
theorem Tracked.kind_ne_cancelled (hnames : NamesTools result) {history : List Deed} {s : State}
    (tracked : Tracked job result history s) {tool : Tool} (hstarted : .started tool ∈ history)
    {e : Event} (he : e ∈ history.flatMap (Deed.events job)) (htool : e.tool = tool.name) :
    e.kind ≠ .cancelled := by
  intro hkind
  obtain ⟨d, hd, hevent⟩ := List.mem_flatMap.mp he
  have hcancelled : e ∈ (d.events job).filter fun e => e.kind = .cancelled :=
    List.mem_filter.mpr ⟨hevent, by simp [hkind]⟩
  rw [Deed.filter_cancelled] at hcancelled
  cases d with
  | cancelled t =>
    have hname := Deed.tool_of_mem_events hnames (tracked.meant _ hd) hevent
    obtain rfl : t = tool := Tool.name_injective (hname.symm.trans htool)
    have habout := tracked.about_of_cancelled hd
    have hboth : Deed.started t ∈ about t history := mem_about.mpr ⟨hstarted, rfl⟩
    rw [habout, List.mem_singleton] at hboth
    cases hboth
  | _ => cases hcancelled

/-- The trace of a history that stopped. -/
theorem stoppedTrace_of_history (hnames : NamesTools result) {s : State}
    {before after : List Deed} {d : Deed} {failure : ToolFailure}
    (tracked : Tracked job result (before ++ d :: after) s)
    (ordered : Ordered job (before ++ d :: after) s)
    (hpending : s.pending = []) (hstop : job.stopOnError = true)
    (hfailure : d.failure? = some failure) (hbefore : ∀ e ∈ before, e.Goes job)
    (hafter : ∀ e ∈ after, e.Winds) (hstopped : s.stopped? = some (d.tool, failure)) :
    ∃ count earlier first,
      StoppedTrace job d.tool failure count earlier first (lastEvent job s)
        ((before ++ d :: after).flatMap (Deed.events job) ++ [lastEvent job s]) ∧
      (before ++ [d]).flatMap (Deed.events job) = earlier ++ [first] := by
  have hmem : d ∈ before ++ d :: after := by simp
  obtain ⟨quiet, first, hevents, hquiet, hfirst, hkind, hmessage⟩ :=
    Deed.events_of_failure hnames (tracked.meant d hmem) hfailure
  set history := before ++ d :: after with hhistory
  have hlast := lastEvent_tool job s
  have hkindlast : (lastEvent job s).kind = .completedWithErrors := by
    rw [lastEvent, hstopped]
  refine ⟨(history.filterMap Deed.started?).length, before.flatMap (Deed.events job) ++ quiet,
    first, ⟨?_, ?_, ?_, ?_, ?_, hfirst, hkind, hmessage, hkindlast, ?_⟩, ?_⟩
  -- what is cancelled is what was not started, and behind the failure nothing else happens
  · rw [ordered.drop_eq hpending, hhistory, filterMap_cancelled? hfailure hbefore,
      ← events_of_winds hafter]
    simp [hevents]
  · have hsubmits : (lastEvent job s).kind ≠ .submitted := by
      rw [hkindlast]
      exact fun h => by cases h
    rw [ordered.take_eq hpending, List.filter_append, filter_submitted]
    simp [hsubmits]
  · intro t ht
    rw [ordered.drop_eq hpending] at ht
    obtain ⟨e, he, hcancelled⟩ := List.mem_filterMap.mp ht
    have hcancel : .cancelled t ∈ history := by
      cases e <;> cases hcancelled
      exact he
    rw [List.filter_append, filter_events hnames tracked.meant, tracked.about_of_cancelled hcancel]
    simp [hlast, allTools_ne_name, Deed.events, Deed.notes, Note.event?]
  · intro t ht e he htool
    rw [ordered.take_eq hpending] at ht
    obtain ⟨e', he', hstarted⟩ := List.mem_filterMap.mp ht
    have hstart : .started t ∈ history := by
      cases e' <;> cases hstarted
      exact he'
    -- a tool that was started has a life without a cancellation
    rcases List.mem_append.mp he with hdeed | hend
    · exact tracked.kind_ne_cancelled hnames hstart hdeed htool
    · rw [List.mem_singleton.mp hend, hlast] at htool
      exact absurd htool (allTools_ne_name t)
  · intro e he
    rcases List.mem_append.mp he with hold | hnew
    · obtain ⟨d', hd', hevent⟩ := List.mem_flatMap.mp hold
      have hgoes := hbefore d' hd'
      refine Deed.tellsFailure_eq_false ?_ hevent
      cases d' <;> first | exact hgoes hstop | cases hgoes
    · exact hquiet e hnew
  · rw [List.filter_append, filter_allTools hnames tracked]
    simp [hlast]
  · simp [hevents]

/-- **An audit that stopped**, whatever its tools did and in whatever order they ended: its
events, and the moment of the failure, after which nothing was stored. -/
theorem stopped_trace {names : List String} (hresolve : resolveTools names = .ok job.tools)
    (hnames : NamesTools result) {r : Records} {m : Moment} (hm : Reached job result r m)
    {tool : Tool} {failure : ToolFailure}
    (hend : m.1.outcome? = some (.error (.stopped tool failure))) :
    ∃ count before first last trace,
      m.2.events = r.events ++ trace ∧
      StoppedTrace job tool failure count before first last trace ∧
      ∃ since now failed final history more,
        Path job result (initial job since, r.add job.anchor .opened) history failed ∧
        failed.1.stopped? = some (tool, failure) ∧
        failed.2.events = r.events ++ before ++ [first] ∧
        Path job result failed more final ∧
        m.2 = (close job now final).2 ∧ m.2.store? = failed.2.store? := by
  obtain ⟨since, history, final, now, hpath, -, hpending, -, houtcome, hrecords⟩ :=
    hm.closed hend fun e h => by cases h
  have hnodup := nodup_of_resolveTools hresolve
  have hstopped : final.1.stopped? = some (tool, failure) := by
    rw [hend] at houtcome
    cases hgoes : final.1.stopped? with
    | none =>
      rw [close_outcome?_of_going job now hgoes] at houtcome
      cases houtcome
    | some stopper =>
      rw [close_outcome?_of_stopped job now hgoes] at houtcome
      cases houtcome
      rfl
  have htracked := hpath.steps.tracked hnodup
  have hordered := hpath.steps.ordered
  have hhalted := hpath.steps.halted
  rw [hstopped] at hhalted
  cases hhalted with
  | @stopped before after d _ hstop hhistory hfailure hbefore hafter =>
    subst hhistory
    obtain ⟨count, earlier, first, htrace, hevents⟩ := stoppedTrace_of_history hnames htracked
      hordered hpending hstop hfailure hbefore hafter hstopped
    -- the path is cut behind the failure, and what comes then stores nothing
    have hcut : before ++ d :: after = (before ++ [d]) ++ after := by simp
    obtain ⟨failed, hfailed, hmore⟩ := (hcut ▸ hpath).split
    have hstore : final.2.store? = failed.2.store? := hmore.marked.store?_of_winds hafter
    refine ⟨count, earlier, first, _, _, ?_, htrace, since, now, failed, final, _, _, hfailed, ?_,
      ?_, hmore, hrecords, ?_⟩
    · rw [hrecords, close_events, hpath.events, List.append_assoc]
    · rw [← hmore.steps.stopped?_of_winds hafter]
      exact hstopped
    · rw [hfailed.events, hevents, List.append_assoc]
    · rw [hrecords, close_store?, hstore]

/-- One tool at a time, the first of which cannot be run. -/
theorem stopped_trace_of_crash :
    let job : Job :=
      { target := "/p", anchor := "/p", tools := [.bandit, .mypy]
        analyzer := analyzerOf {}, jobs := 1, stopOnError := true, mode := .bulk
        timestamp := "2026-01-01T00:00:00Z" }
    let result : Tool → Execution := fun t => .impossible (.emptyCommand t.name)
    let r : Records := ⟨some Store.empty.seed, []⟩
    let m := deliver job 7 .bandit (result .bandit) (launch job 3 r)
    let failure : ToolFailure := ⟨.crashed, -1, crashMessage (result .bandit)⟩
    resolveTools ["Bandit", "mypy"] = .ok job.tools ∧ NamesTools result ∧ Reached job result r m ∧
      m.1.outcome? = some (.error (.stopped .bandit failure)) ∧
      ∃ count before first last trace,
        m.2.events = r.events ++ trace ∧
        StoppedTrace job .bandit failure count before first last trace ∧
        ∃ since now failed final history more,
          Path job result (initial job since, r.add job.anchor .opened) history failed ∧
          failed.1.stopped? = some (.bandit, failure) ∧
          failed.2.events = r.events ++ before ++ [first] ∧
          Path job result failed more final ∧
          m.2 = (close job now final).2 ∧ m.2.store? = failed.2.store? := by
  intro job result r m failure
  have hresolve : resolveTools ["Bandit", "mypy"] = .ok job.tools := by decide
  have hnames : NamesTools result := fun _ _ h => by cases h
  have hm : Reached job result r m := .deliver 7 (.launch 3) (by decide)
  have hend : m.1.outcome? = some (.error (.stopped .bandit failure)) := rfl
  exact ⟨hresolve, hnames, hm, hend, stopped_trace hresolve hnames hm hend⟩

end LintLedger.Audit
