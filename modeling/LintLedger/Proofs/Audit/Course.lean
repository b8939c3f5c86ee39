import LintLedger.Proofs.Audit.Deed

/-!
# The course of an audit

Whatever tools end in whatever order, each function of an audit does nothing but a history of
deeds, unless the store fails.  From this follows what every moment of an audit looks like: it
goes on, it was lost to an error of the store, or it ended after a history of deeds that left
nothing to do.

## Main Definitions

* `Audit.Reached` -- the moments of an audit, for every order in which tools end
* `Audit.Closed` -- how an audit stands that came to its end
* `Audit.Course` -- what can be said of any moment

## Main Statements

* `Audit.process_cases` -- what reading a report comes to
* `Audit.take_path`, `Audit.fill_path` -- the functions of an audit do nothing but deeds
* `Audit.Reached.course` -- every moment of an audit has a course
* `Audit.Reached.isSome_outcome` -- an audit of which nothing runs any more has ended
* `Audit.Reached.closed` -- an audit that ended came to an end of its deeds
-/

namespace LintLedger.Audit

variable {job : Job} {result : Tool → Execution}

/-! ## Deeds keep what they do not touch -/

theorem Step.outcome?_eq {s s' : State} {d : Deed} (step : Step job result s d s') :
    s'.outcome? = s.outcome? := by
  cases step <;> simp

theorem Steps.outcome?_eq {s s' : State} {history : List Deed}
    (steps : Steps job result s history s') : s'.outcome? = s.outcome? := by
  induction steps with
  | nil => rfl
  | snoc _ step ih => rw [step.outcome?_eq, ih]

/-! ## Starting tools -/

/-- The moment after the first pending tool was started. -/
def begun (job : Job) (tool : Tool) (rest : List Tool) (m : Moment) : Moment :=
  ({ m.1 with pending := rest, running := m.1.running ++ [tool] },
    (Deed.started tool).mark job m.2)

theorem start_of_nil {m : Moment} (h : m.1.pending = []) (free : Nat) :
    start job free m = m := by
  cases free with
  | zero => rfl
  | succ free => rw [start, h]

theorem start_of_cons {m : Moment} {tool : Tool} {rest : List Tool}
    (h : m.1.pending = tool :: rest) (free : Nat) :
    start job (free + 1) m = start job free (begun job tool rest m) := by
  rw [start, h]
  rfl

theorem start_stopped? (free : Nat) (m : Moment) :
    (start job free m).1.stopped? = m.1.stopped? := by
  induction free generalizing m with
  | zero => rfl
  | succ free ih =>
    cases hpending : m.1.pending with
    | nil => rw [start_of_nil hpending]
    | cons tool rest => rw [start_of_cons hpending, ih, begun]

/-- Starting tools is a history of deeds. -/
theorem start_path (free : Nat) (m : Moment) (hstopped : m.1.stopped? = none)
    (hfree : m.1.running.length + free ≤ job.workers) :
    ∃ history, Path job result m history (start job free m) := by
  induction free generalizing m with
  | zero => exact ⟨[], .refl m⟩
  | succ free ih =>
    cases hpending : m.1.pending with
    | nil => exact ⟨[], by rw [start_of_nil hpending]; exact .refl m⟩
    | cons tool rest =>
      have hone : Path job result m [.started tool] (begun job tool rest m) :=
        .single (.start hstopped hpending (by omega)) trivial rfl
      have hlength : (begun job tool rest m).1.running.length + free ≤ job.workers := by
        rw [begun, List.length_append, List.length_singleton]
        omega
      obtain ⟨history, hmore⟩ := ih (begun job tool rest m) hstopped hlength
      rw [start_of_cons hpending]
      exact ⟨_, hone.trans hmore⟩

/-- What runs goes on running when more is started. -/
theorem running_prefix_start (job : Job) (free : Nat) (m : Moment) :
    m.1.running <+: (start job free m).1.running := by
  induction free generalizing m with
  | zero => exact List.prefix_rfl
  | succ free ih =>
    cases hpending : m.1.pending with
    | nil =>
      have hsame : (start job (free + 1) m).1.running = m.1.running := by
        rw [start_of_nil hpending]
      exact hsame ▸ List.prefix_rfl
    | cons tool rest =>
      rw [start_of_cons hpending]
      exact (List.prefix_append m.1.running [tool]).trans (ih (begun job tool rest m))

/-- Where something may be started and nothing runs then, nothing was to be started. -/
theorem pending_eq_nil_of_start {free : Nat} {m : Moment} (hfree : 0 < free)
    (h : (start job free m).1.running = []) : m.1.pending = [] := by
  cases hpending : m.1.pending with
  | nil => rfl
  | cons tool rest =>
    obtain ⟨free, rfl⟩ := Nat.exists_eq_add_of_lt hfree
    rw [Nat.zero_add, start_of_cons hpending] at h
    have hgrows := running_prefix_start job free (begun job tool rest m)
    rw [h, List.prefix_nil] at hgrows
    simp [begun] at hgrows

/-- In an audit that was stopped nothing is pending. -/
def State.Settled (s : State) : Prop := s.stopped?.isSome → s.pending = []

theorem fill_path (job : Job) (result : Tool → Execution) (m : Moment) :
    ∃ history, Path job result m history (fill job m) := by
  unfold fill
  split
  · exact ⟨[], .refl m⟩
  · rename_i hstopped
    rw [Bool.not_eq_true, Option.isSome_eq_false_iff, Option.isNone_iff_eq_none] at hstopped
    by_cases hfull : m.1.running.length ≤ job.workers
    · exact start_path _ m hstopped (by omega)
    · rw [Nat.sub_eq_zero_of_le (by omega)]
      exact ⟨[], .refl m⟩

theorem settled_fill {m : Moment} (h : m.1.Settled) : (fill job m).1.Settled := by
  unfold fill
  split
  · exact h
  · rename_i hstopped
    intro hsome
    rw [start_stopped?] at hsome
    exact absurd hsome hstopped

/-- If nothing runs although as much as may run was started, nothing is pending. -/
theorem pending_fill_eq_nil {m : Moment} (h : m.1.Settled)
    (hrunning : (fill job m).1.running = []) : (fill job m).1.pending = [] := by
  unfold fill at hrunning ⊢
  split at hrunning
  · rename_i hstopped
    rw [if_pos hstopped]
    exact h hstopped
  · rename_i hstopped
    rw [if_neg hstopped]
    have hgrows := running_prefix_start job (job.workers - m.1.running.length) m
    rw [hrunning, List.prefix_nil] at hgrows
    have hworkers : 0 < job.workers := by
      unfold Job.workers
      omega
    have hfree : 0 < job.workers - m.1.running.length := by
      rw [hgrows, List.length_nil]
      omega
    have hpending := pending_eq_nil_of_start hfree hrunning
    rw [start_of_nil hpending, hpending]

/-! ## Failures -/

/-- The moment in which other runs wait to be read. -/
def hold (runs : List (Tool × RunRecord)) (m : Moment) : Moment :=
  ({ m.1 with deferred := runs }, m.2)

@[simp] theorem hold_fst_deferred (runs : List (Tool × RunRecord)) (m : Moment) :
    (hold runs m).1.deferred = runs := rfl

@[simp] theorem hold_fst_stopped? (runs : List (Tool × RunRecord)) (m : Moment) :
    (hold runs m).1.stopped? = m.1.stopped? := rfl

theorem hold_of_eq {runs : List (Tool × RunRecord)} {m : Moment} (h : m.1.deferred = runs) :
    hold runs m = m := by
  subst h
  rfl

/-- The moment in which nothing is pending any more because all of it was cancelled. -/
def dropped (job : Job) (m : Moment) : Moment :=
  ({ m.1 with pending := [] }, m.1.pending.foldl (fun r t => (Deed.cancelled t).mark job r) m.2)

/-- What is pending is cancelled tool by tool. -/
theorem cancel_path (skipped : List Tool) (s : State) (r : Records)
    (hstopped : s.stopped?.isSome) (hpending : s.pending = skipped) :
    Path job result (s, r) (skipped.map .cancelled)
      ({ s with pending := [] }, skipped.foldl (fun r t => (Deed.cancelled t).mark job r) r) := by
  induction skipped generalizing s r with
  | nil =>
    obtain ⟨pending, _⟩ := s
    cases hpending
    exact .refl _
  | cons tool rest ih =>
    have hone : Path job result (s, r) [.cancelled tool]
        ({ s with pending := rest }, (Deed.cancelled tool).mark job r) :=
      .single (.cancel hstopped hpending) trivial rfl
    exact hone.trans (ih { s with pending := rest } _ hstopped rfl)

/-- A failure is taken, and in an audit that stops at it what is pending is cancelled. -/
theorem fail_eq (tool : Tool) (failure : ToolFailure) (m : Moment) :
    fail job tool failure m =
      if job.stopOnError then dropped job (m.1.failed job tool failure, m.2)
      else (m.1.failed job tool failure, m.2) := by
  have hfold : ∀ (skipped : List Tool) (s : State) (r : Records),
      skipped.foldl (fun m t => tellTool job t .cancelled m) (s, r) =
        (s, skipped.foldl (fun r t => (Deed.cancelled t).mark job r) r) := by
    intro skipped
    induction skipped with
    | nil => exact fun _ _ => rfl
    | cons t rest ih => exact fun s r => ih s _
  unfold fail
  split
  · rename_i hstop
    simp only [stop, hfold, dropped, State.failed, hstop, if_true]
  · rename_i hstop
    simp only [State.failed, hstop]
    rfl

theorem fail_path (job : Job) (result : Tool → Execution) (tool : Tool) (failure : ToolFailure)
    (m : Moment) :
    ∃ history, ∀ runs, Path job result (hold runs (m.1.failed job tool failure, m.2)) history
      (hold runs (fail job tool failure m)) := by
  rw [fail_eq]
  split
  · rename_i hstop
    refine ⟨m.1.pending.map .cancelled, fun runs => ?_⟩
    have hstopped : (m.1.failed job tool failure).stopped?.isSome := by
      simp [State.failed, hstop]
    exact cancel_path m.1.pending { m.1.failed job tool failure with deferred := runs } m.2
      hstopped rfl
  · exact ⟨[], fun runs => .refl _⟩

/-- The same tools run and the same runs wait as before, and if the audit is stopped now, nothing
is pending. -/
structure Undisturbed (m m' : Moment) : Prop where
  running : m'.1.running = m.1.running
  deferred : m'.1.deferred = m.1.deferred
  settled : m'.1.Settled
  pending : m.1.pending = [] → m'.1.pending = []

theorem fail_undisturbed (job : Job) (tool : Tool) (failure : ToolFailure) (m : Moment)
    (hstopped : m.1.stopped? = none) : Undisturbed m (fail job tool failure m) := by
  rw [fail_eq]
  split
  · exact ⟨rfl, rfl, fun _ => rfl, fun _ => rfl⟩
  · rename_i hstop
    refine ⟨rfl, rfl, fun hsome => ?_, id⟩
    simp [State.failed, hstop, hstopped] at hsome

/-! ## Reading reports -/

/-- The store failed, which ended the audit. -/
def Lost (m : Moment) : Prop :=
  m.1.running = [] ∧ ∃ e, m.1.outcome? = some (.error (.storage e))

theorem Lost.isSome {m : Moment} (h : Lost m) : m.1.outcome?.isSome := by
  obtain ⟨-, e, he⟩ := h
  rw [he]
  rfl

/-- **Reading a report** comes to one of three things: the store fails, the report is refused, or
its findings are stored. -/
theorem process_cases (tool : Tool) (run : RunRecord) (m : Moment) :
    Lost (process job tool run m) ∨
      (∃ fault, (job.analyzer tool).read run (job.context m.1.complexity? run) = .error fault ∧
        process job tool run m = fail job tool (faultOf run fault)
          (m.1, (Deed.refused tool run fault).mark job m.2)) ∨
      ∃ findings inserted,
        (job.analyzer tool).read run (job.context m.1.complexity? run) = .ok findings ∧
        (Deed.stored tool run findings inserted).Counted job m.2.store? ∧
        process job tool run m =
          ({ m.1 with summary := m.1.summary.addResult tool findings.length inserted },
            (Deed.stored tool run findings inserted).mark job m.2) := by
  obtain ⟨s, r⟩ := m
  simp only [process, tellTool, tell, Job.context]
  cases hread : (job.analyzer tool).read run (PathContext.ofRun run (some job.anchor)
      s.complexity?) with
  | error fault =>
    refine .inr (.inl ⟨fault, rfl, ?_⟩)
    simp [Deed.mark, Deed.notes, Deed.store?, Records.add, faultOf, toolEvent]
  | ok findings =>
    simp only [keep, Records.add]
    cases hstore : r.store? with
    | none =>
      refine .inr (.inr ⟨findings, 0, rfl, rfl, ?_⟩)
      simp [Deed.mark, Deed.notes, Deed.store?, toolEvent, hstore]
    | some store =>
      -- only a store that refuses the findings loses the audit
      rcases hpersist : store.persist job.mode (job.scan tool) findings with
        ⟨store', e | ⟨id, inserted⟩⟩
      · unfold Job.scan at hpersist
        simp only [hpersist]
        exact .inl ⟨rfl, e, rfl⟩
      · refine .inr (.inr ⟨findings, inserted, rfl, ⟨id, congrArg Prod.snd hpersist⟩, ?_⟩)
        unfold Job.scan at hpersist
        simp [Deed.mark, Deed.notes, Deed.store?, Job.scan, toolEvent, hstore, hpersist]

/-- Reading a report that may be read is a history of deeds, whatever else waits. -/
theorem process_path (job : Job) (result : Tool → Execution) (tool : Tool) (run : RunRecord)
    (m : Moment) (hstopped : m.1.stopped? = none)
    (hreads : m.1.Reads (job.analyzer tool)) :
    Lost (process job tool run m) ∨
      (∃ history, ∀ front back, Path job result (hold (front ++ (tool, run) :: back) m) history
        (hold (front ++ back) (process job tool run m))) ∧
      Undisturbed m (process job tool run m) := by
  rcases process_cases tool run m with hlost | ⟨fault, hread, heq⟩ |
    ⟨findings, inserted, hread, hcounted, heq⟩
  · exact .inl hlost
  · rw [heq]
    -- the deed itself, and then what its failure leads to
    obtain ⟨history, hfail⟩ := fail_path job result tool (faultOf run fault)
      (m.1, (Deed.refused tool run fault).mark job m.2)
    have hundisturbed := fail_undisturbed job tool (faultOf run fault)
      (m.1, (Deed.refused tool run fault).mark job m.2) hstopped
    refine .inr ⟨⟨.refused tool run fault :: history, fun front back => ?_⟩, ?_⟩
    · have hone : Path job result (hold (front ++ (tool, run) :: back) m)
          [.refused tool run fault]
          (hold (front ++ back) (m.1.failed job tool (faultOf run fault),
            (Deed.refused tool run fault).mark job m.2)) :=
        .single (.refuse hstopped rfl hreads hread) trivial rfl
      exact hone.trans (hfail (front ++ back))
    · exact ⟨hundisturbed.running, hundisturbed.deferred, hundisturbed.settled,
        hundisturbed.pending⟩
  · rw [heq]
    refine .inr ⟨⟨[.stored tool run findings inserted], fun front back => ?_⟩, rfl, rfl, ?_, id⟩
    · exact .single (.store hstopped rfl hreads hread) hcounted rfl
    · intro hsome
      rw [hstopped] at hsome
      cases hsome

/-- The deferred runs are read one by one, up to a failure that stops the audit. -/
theorem processDeferred_path (job : Job) (result : Tool → Execution)
    (runs : List (Tool × RunRecord)) (m : Moment)
    (hstopped : m.1.stopped? = none) (houtcome : m.1.outcome? = none)
    (hrunning : m.1.running = []) (hpending : m.1.pending = []) :
    let m' := processDeferred job runs m
    Lost m' ∨ ∃ history rest, Path job result (hold runs m) history (hold rest m') ∧
      m'.1.running = [] ∧ m'.1.pending = [] ∧ (m'.1.stopped? = none → rest = []) := by
  induction runs generalizing m with
  | nil => exact .inr ⟨[], [], .refl _, hrunning, hpending, fun _ => rfl⟩
  | cons entry rest ih =>
    obtain ⟨tool, run⟩ := entry
    -- nothing runs or waits any more, so that every report may be read
    have hreads : m.1.Reads (job.analyzer tool) := fun _ _ => ⟨hpending, hrunning⟩
    simp only [processDeferred]
    rcases process_path job result tool run m hstopped hreads with
      hlost | ⟨⟨history, hpath⟩, hsame⟩
    · have hover : (process job tool run m).1.isOver = true := by
        simp [State.isOver, hlost.isSome]
      rw [if_pos hover]
      exact .inl hlost
    · have hread := hpath [] rest
      have hrunning' := hsame.running.trans hrunning
      have hpending' := hsame.pending hpending
      split
      · rename_i hover
        refine .inr ⟨history, rest, hread, hrunning', hpending', fun hnone => ?_⟩
        have hopen : (process job tool run m).1.outcome? = none :=
          hread.steps.outcome?_eq.trans houtcome
        simp [State.isOver, hnone, hopen] at hover
      · rename_i hover
        rw [State.isOver, Bool.or_eq_true, not_or] at hover
        obtain ⟨hstopped', houtcome'⟩ := hover
        rcases ih (process job tool run m) (by simpa using hstopped') (by simpa using houtcome')
            hrunning' hpending' with hlost | ⟨more, left, hmore, hend⟩
        · exact .inl hlost
        · exact .inr ⟨history ++ more, left, hread.trans hmore, hend⟩

/-! ## Taking results -/

/-- The moment after a tool has ended, its result not yet taken. -/
def parted (tool : Tool) (m : Moment) : Moment :=
  ({ m.1 with running := m.1.running.erase tool }, m.2)

/-- **Taking a result** is taking a failure, or a run that is deferred or read. -/
theorem take_cases (job : Job) (tool : Tool) (res : Execution) (m : Moment) :
    let a := job.analyzer tool
    let s := m.1.ended a tool res
    (∃ failure, verdict a res = .error failure ∧
      take job tool res (parted tool m) =
        fail job tool failure (s, (Deed.broke tool res failure).mark job m.2)) ∨
    ∃ run, verdict a res = .ok run ∧
      take job tool res (parted tool m) =
        if a.usesComplexity && s.awaiting then
          (hold (s.deferred ++ [(tool, run)]) (s, (Deed.finished tool run).mark job m.2))
        else process job tool run (s, (Deed.finished tool run).mark job m.2) := by
  intro a s
  have hadd : ∀ (r : Records) (first second : Note),
      (r.add job.anchor first).add job.anchor second =
        ⟨r.store?, r.notes ++ [(job.anchor, first), (job.anchor, second)]⟩ := by
    intro r first second
    simp [Records.add]
  cases res with
  | ran run =>
    cases hwell : wentWell a run with
    | true =>
      have hverdict : verdict a (.ran run) = .ok run := by simp [verdict, hwell]
      refine .inr ⟨run, hverdict, ?_⟩
      simp only [parted, s, take, receive, State.ended, hverdict, hwell, a, if_true, tell, timed,
        hadd]
      rfl
    | false =>
      have hverdict : verdict a (.ran run) = .error (failureOf run) := by simp [verdict, hwell]
      refine .inl ⟨failureOf run, hverdict, ?_⟩
      simp only [parted, s, take, receive, State.ended, hverdict, hwell, a, tell, timed, hadd]
      rfl
  | impossible e => exact .inl ⟨_, rfl, rfl⟩
  | brokeDown text => exact .inl ⟨_, rfl, rfl⟩

/-- Taking the result of a running tool is a history of deeds. -/
theorem take_path (job : Job) (result : Tool → Execution) (tool : Tool) (m : Moment)
    (hstopped : m.1.stopped? = none)
    (hrunning : tool ∈ m.1.running) :
    let taken := take job tool (result tool) (parted tool m)
    Lost taken ∨ (∃ history, Path job result m history taken) ∧ taken.1.Settled := by
  intro taken
  rcases take_cases job tool (result tool) m with ⟨failure, hverdict, heq⟩ | ⟨run, hverdict, heq⟩
  · let ended : Moment := (m.1.ended (job.analyzer tool) tool (result tool),
      (Deed.broke tool (result tool) failure).mark job m.2)
    have hended : ended.1.stopped? = none := by rw [State.ended_stopped?, hstopped]
    have hdeferred : ended.1.deferred = m.1.deferred := State.ended_deferred _ _ _ _
    have hone : Path job result m [.broke tool (result tool) failure]
        (ended.1.failed job tool failure, ended.2) :=
      .single (.breakOff hstopped hrunning hverdict) trivial rfl
    obtain ⟨history, hfail⟩ := fail_path job result tool failure ended
    have hsame := fail_undisturbed job tool failure ended hended
    have hheld : hold m.1.deferred (ended.1.failed job tool failure, ended.2) =
        (ended.1.failed job tool failure, ended.2) := hold_of_eq hdeferred
    have hmore := hfail m.1.deferred
    rw [hheld, hold_of_eq (hsame.deferred.trans hdeferred)] at hmore
    rw [← heq] at hmore hsame
    exact .inr ⟨⟨_, hone.trans hmore⟩, hsame.settled⟩
  · let ended : Moment := (m.1.ended (job.analyzer tool) tool (result tool),
      (Deed.finished tool run).mark job m.2)
    have hended : ended.1.stopped? = none := by rw [State.ended_stopped?, hstopped]
    have hdeferred : ended.1.deferred = m.1.deferred := State.ended_deferred _ _ _ _
    have hone : Path job result m [.finished tool run]
        (hold (m.1.deferred ++ [(tool, run)]) ended) :=
      .single (.finish hstopped hrunning hverdict) trivial rfl
    split at heq
    · rw [State.ended_deferred] at heq
      rw [← heq] at hone
      have hnone : taken.1.stopped? = none := by
        rw [show taken = _ from heq]
        exact hended
      refine .inr ⟨⟨_, hone⟩, fun hsome => ?_⟩
      rw [hnone] at hsome
      cases hsome
    · rename_i hwaits
      -- a run that is not deferred may be read at once
      have hreads : ended.1.Reads (job.analyzer tool) := by
        intro huses hawaiting
        rw [huses, hawaiting] at hwaits
        exact absurd rfl hwaits
      rcases process_path job result tool run ended hended hreads with
        hlost | ⟨⟨history, hpath⟩, hsame⟩
      · rw [← heq] at hlost
        exact .inl hlost
      · have hmore := hpath m.1.deferred []
        rw [List.append_nil, hold_of_eq (hsame.deferred.trans hdeferred)] at hmore
        rw [← heq] at hmore hsame
        exact .inr ⟨⟨_, hone.trans hmore⟩, hsame.settled⟩

/-! ## The moments of an audit -/

/-- The moments of an audit that begins with the records `r`, for every order in which its tools
end, where `result` says how each ends. -/
inductive Reached (job : Job) (result : Tool → Execution) (r : Records) : Moment → Prop where
  | launch (now : Nat) : Reached job result r (launch job now r)
  | deliver {m : Moment} (now : Nat) {tool : Tool} :
      Reached job result r m → tool ∈ m.1.running →
      Reached job result r (deliver job now tool (result tool) m)

/-- What can be said of a moment of an audit that began with `start`. -/
inductive Course (job : Job) (result : Tool → Execution) (start : Moment) : Moment → Prop where
  /-- Tools run. -/
  | going {m : Moment} {history : List Deed} :
      Path job result start history m → m.1.outcome? = none → m.1.running ≠ [] → m.1.Settled →
      Course job result start m
  | lost {m : Moment} : Lost m → Course job result start m
  /-- The audit ended when it had come to `last`, a moment that left nothing to do. -/
  | closed {m last : Moment} {history : List Deed} {now : Nat} :
      Path job result start history last → last.1.running = [] → last.1.pending = [] →
      (last.1.stopped? = none → last.1.deferred = []) →
      m.1.running = [] → m.1.outcome? = (close job now last).1.outcome? →
      m.2 = (close job now last).2 → Course job result start m

theorem conclude_of_going {m : Moment} (now : Nat) (hstopped : m.1.stopped? = none) :
    conclude job now m =
      if (processDeferred job m.1.deferred (hold [] m)).1.outcome?.isSome
      then processDeferred job m.1.deferred (hold [] m)
      else close job now (processDeferred job m.1.deferred (hold [] m)) := by
  unfold conclude
  rw [hstopped]
  rfl

/-- An audit in which nothing runs and nothing is pending comes to its end. -/
theorem conclude_course {start m : Moment} {history : List Deed} (now : Nat)
    (hpath : Path job result start history m) (houtcome : m.1.outcome? = none)
    (hrunning : m.1.running = []) (hpending : m.1.pending = []) :
    Course job result start (conclude job now m) := by
  cases hstopped : m.1.stopped? with
  | some stopper =>
    have hclose : conclude job now m = close job now m := by
      unfold conclude
      rw [hstopped]
      rfl
    rw [hclose]
    refine .closed hpath hrunning hpending (fun hnone => ?_) hrunning rfl rfl
    rw [hnone] at hstopped
    cases hstopped
  | none =>
    rw [conclude_of_going now hstopped]
    rcases processDeferred_path job result m.1.deferred (hold [] m) hstopped houtcome hrunning
        hpending with hlost | ⟨more, rest, hmore, hrunning', hpending', hrest⟩
    · rw [if_pos hlost.isSome]
      exact .lost hlost
    · have hopen : (processDeferred job m.1.deferred (hold [] m)).1.outcome? = none :=
        hmore.steps.outcome?_eq.trans houtcome
      rw [if_neg (by simp [hopen])]
      exact .closed (hpath.trans hmore) hrunning' hpending' hrest hrunning' rfl rfl

/-- What comes after a step has a course if the step left one to go on with. -/
theorem advance_course {start m : Moment} {history : List Deed} (now : Nat)
    (hpath : Path job result start history m) (houtcome : m.1.outcome? = none)
    (hsettled : m.1.Settled) : Course job result start (advance job now m) := by
  have hopen : ¬ m.1.outcome?.isSome := by simp [houtcome]
  obtain ⟨more, hfill⟩ := fill_path job result m
  have houtcome' : (fill job m).1.outcome? = none := hfill.steps.outcome?_eq.trans houtcome
  unfold advance
  rw [if_neg hopen]
  dsimp only
  split
  · rename_i hempty
    have hrunning : (fill job m).1.running = [] := List.isEmpty_iff.mp hempty
    exact conclude_course now (hpath.trans hfill) houtcome' hrunning
      (pending_fill_eq_nil hsettled hrunning)
  · rename_i hsome
    refine .going (hpath.trans hfill) houtcome' (fun hrunning => ?_) (settled_fill hsettled)
    rw [hrunning] at hsome
    exact hsome rfl

/-- A delivery to an audit that goes on leaves it with a course. -/
theorem deliver_course {start m : Moment} {history : List Deed} (now : Nat) {tool : Tool}
    (hpath : Path job result start history m) (houtcome : m.1.outcome? = none)
    (hsettled : m.1.Settled) (hrunning : tool ∈ m.1.running) :
    Course job result start (deliver job now tool (result tool) m) := by
  unfold Audit.deliver
  dsimp only
  split
  · rename_i hstopped
    have hone : Path job result m [.discarded tool] (parted tool m) :=
      .single (.discard hstopped hrunning) trivial
        (by simp [parted, Deed.mark, Deed.notes, Deed.store?])
    exact advance_course now (hpath.trans hone) houtcome hsettled
  · rename_i hstopped
    have hnone : m.1.stopped? = none := by simpa using hstopped
    rcases take_path job result tool m hnone hrunning with
      hlost | ⟨⟨more, hmore⟩, hsettled'⟩
    · have hstays : advance job now (take job tool (result tool) (parted tool m)) =
          take job tool (result tool) (parted tool m) := if_pos hlost.isSome
      change Course job result _ (advance job now (take job tool (result tool) (parted tool m)))
      rw [hstays]
      exact .lost hlost
    · exact advance_course now (hpath.trans hmore)
        (hmore.steps.outcome?_eq.trans houtcome) hsettled'

/-- **Every moment of an audit** has a course. -/
theorem Reached.course {r : Records} {m : Moment} (h : Reached job result r m) :
    ∃ now, Course job result (initial job now, r.add job.anchor .opened) m := by
  induction h with
  | launch now =>
    refine ⟨now, advance_course now (.refl _) rfl fun hsome => ?_⟩
    cases hsome
  | deliver now hreached hrunning ih =>
    obtain ⟨since, hcourse⟩ := ih
    refine ⟨since, ?_⟩
    cases hcourse with
    | lost hlost =>
      rw [hlost.1] at hrunning
      cases hrunning
    | closed _ _ _ _ hempty =>
      rw [hempty] at hrunning
      cases hrunning
    | going hpath houtcome _ hsettled => exact deliver_course now hpath houtcome hsettled hrunning

/-- What is closed has an outcome. -/
theorem isSome_close (job : Job) (now : Nat) (m : Moment) :
    (close job now m).1.outcome?.isSome := by
  cases hstopped : m.1.stopped? with
  | none => simp [close, tell, hstopped]
  | some stopper => simp [close, tell, hstopped]

/-- An audit of which nothing runs any more has ended. -/
theorem Reached.isSome_outcome {r : Records} {m : Moment} (h : Reached job result r m)
    (hrunning : m.1.running = []) : m.1.outcome?.isSome := by
  obtain ⟨since, hcourse⟩ := h.course
  cases hcourse with
  | going _ _ hruns => exact absurd hrunning hruns
  | lost hlost => exact hlost.isSome
  | closed _ _ _ _ _ hend =>
    rw [hend]
    exact isSome_close job _ _

/-- An audit that ended, and not by an error of the store, came to an end of its deeds. -/
theorem Reached.closed {r : Records} {m : Moment} (h : Reached job result r m)
    {outcome : Except AuditError Summary} (houtcome : m.1.outcome? = some outcome)
    (hstorage : ∀ e, outcome ≠ .error (.storage e)) :
    ∃ since history last now,
      Path job result (initial job since, r.add job.anchor .opened) history last ∧
        last.1.running = [] ∧ last.1.pending = [] ∧
        (last.1.stopped? = none → last.1.deferred = []) ∧
        m.1.outcome? = (close job now last).1.outcome? ∧ m.2 = (close job now last).2 := by
  obtain ⟨since, hcourse⟩ := h.course
  cases hcourse with
  | going _ hopen =>
    rw [hopen] at houtcome
    cases houtcome
  | lost hlost =>
    obtain ⟨-, e, he⟩ := hlost
    rw [he, Option.some.injEq] at houtcome
    exact absurd houtcome.symm (hstorage e)
  | closed hpath hrunning hpending hdeferred _ hend hrecords =>
    exact ⟨since, _, _, _, hpath, hrunning, hpending, hdeferred, hend, hrecords⟩

end LintLedger.Audit
