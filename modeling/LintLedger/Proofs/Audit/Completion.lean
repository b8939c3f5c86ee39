import LintLedger.Proofs.Audit.Stopping
import LintLedger.Proofs.Audit.Tally
import LintLedger.Proofs.Store.Persist
import Mathlib.Algebra.GroupWithZero.Nat

/-!
# Audits that come to a summary

An audit that was not stopped takes every tool to its end.  Its summary, its events and the
store then tell the same story: which tools went well, how many findings each brought, and how
many of them were new.

## Main Definitions

* `Audit.Ended` -- the ways of a tool that came to its end
* `Audit.Grown` -- what a history adds to a store
* `Audit.CompleteAudit` -- summary, events and store of an audit that was not stopped

## Main Statements

* `Audit.Tracked.ended` -- where nothing is left to do, every tool came to its end
* `Audit.Marked.grown` -- what every history adds to a store
* `Audit.complete_of_outcome` -- what is true of every audit that came to a summary
-/

namespace LintLedger.Audit

variable {job : Job} {result : Tool → Execution}

/-! ## Every tool comes to its end -/

/-- The ways of a tool that came to its end. -/
inductive Ended (job : Job) (result : Tool → Execution) (tool : Tool) : List Deed → Prop where
  | broke {failure : ToolFailure} :
      verdict (job.analyzer tool) (result tool) = .error failure →
      Ended job result tool [.started tool, .broke tool (result tool) failure]
  | refused {run : RunRecord} {fault : ReportFault} :
      verdict (job.analyzer tool) (result tool) = .ok run →
      Ended job result tool [.started tool, .finished tool run, .refused tool run fault]
  | stored {run : RunRecord} {findings : List Finding} {inserted : Nat} :
      verdict (job.analyzer tool) (result tool) = .ok run →
      Ended job result tool
        [.started tool, .finished tool run, .stored tool run findings inserted]

/-- **Where nothing is left to do**, every tool came to its end. -/
theorem Tracked.ended {s : State} {history : List Deed} (tracked : Tracked job result history s)
    (halted : Halted job history none) (hpending : s.pending = []) (hrunning : s.running = [])
    (hdeferred : s.deferred = []) {tool : Tool} (htool : tool ∈ job.tools) :
    Ended job result tool (about tool history) := by
  have hlife := tracked.life tool
  have hgoes : ∀ d ∈ about tool history, d.Goes job := by
    cases halted with
    | going hgoes => exact fun d hd => hgoes d (mem_about.mp hd).1
  cases hall : about tool history with
  | nil =>
    have hmem := (tracked.pending tool).mpr ⟨htool, hall⟩
    rw [hpending] at hmem
    cases hmem
  | cons d rest =>
    rw [hall] at hlife hgoes
    cases hlife with
    | running =>
      have hmem := (tracked.running tool).mpr hall
      rw [hrunning] at hmem
      cases hmem
    | @waiting run _ =>
      have hmem := (tracked.deferred tool run).mpr hall
      rw [hdeferred] at hmem
      cases hmem
    | broke hverdict => exact .broke hverdict
    | refused hverdict => exact .refused hverdict
    | stored hverdict => exact .stored hverdict
    | cancelled => exact absurd (hgoes _ List.mem_cons_self) id
    | discarded => exact absurd (hgoes (.discarded tool) (by simp)) id

/-- The kinds of the events of a tool that came to its end. -/
def courses : List (List EventKind) :=
  [[.submitted, .failed], [.submitted, .crashed],
    [.submitted, .finished, .processingStarted, .processingFinished],
    [.submitted, .finished, .processingStarted, .parsingFailed]]

theorem Ended.kinds_mem_courses {tool : Tool} {deeds : List Deed}
    (ended : Ended job result tool deeds) :
    ((deeds.flatMap (Deed.events job)).map Event.kind) ∈ courses := by
  have hfailed : [EventKind.submitted, .failed] ∈ courses := by decide
  have hcrashed : [EventKind.submitted, .crashed] ∈ courses := by decide
  cases ended with
  | broke _ =>
    cases result tool with
    | ran run => exact hfailed
    | impossible e => exact hcrashed
    | brokeDown text => exact hcrashed
  | refused _ =>
    have hrefused : [EventKind.submitted, .finished, .processingStarted, .parsingFailed] ∈
        courses := by decide
    exact hrefused
  | stored _ =>
    have hstored : [EventKind.submitted, .finished, .processingStarted, .processingFinished] ∈
        courses := by decide
    exact hstored

/-! ## What a history adds to a store -/

/-- What a history adds to a store: a scan for each tool whose findings it stored, and as many
rows as it counts. -/
structure Grown (history : List Deed) (before after : Store) : Prop where
  scans : ∃ scans, after.scans = before.scans ++ scans ∧
    scans.map Scan.tool? = (history.filterMap Deed.ok?).map some
  rows : ∃ rows, after.rows = before.rows ++ rows ∧
    rows.length = ((history.filterMap Deed.inserted?).map Prod.snd).sum
  /-- No more findings are new than there are. -/
  bounded : ∀ t run findings inserted,
    .stored t run findings inserted ∈ history → inserted ≤ findings.length

/-- A deed that stores nothing adds nothing. -/
theorem Grown.snoc_none {history : List Deed} {before after : Store}
    (grown : Grown history before after) {d : Deed} (hok : d.ok? = none)
    (hinserted : d.inserted? = none) : Grown (history ++ [d]) before after := by
  obtain ⟨hscans, hrows, hbounded⟩ := grown
  refine ⟨by simpa [hok] using hscans, by simpa [hinserted] using hrows, ?_⟩
  intro t run findings inserted hmem
  rcases List.mem_append.mp hmem with hold | hnew
  · exact hbounded t run findings inserted hold
  · rw [← List.mem_singleton.mp hnew] at hok
    cases hok

/-- Storing the findings of a tool adds its scan and the new rows. -/
theorem Grown.snoc_stored {history : List Deed} {before after : Store}
    (grown : Grown history before after) {tool : Tool} {run : RunRecord}
    {findings : List Finding} {inserted : Nat} {id : Int}
    (hpersist : (after.persist job.mode (job.scan tool) findings).2 = .ok (id, inserted)) :
    Grown (history ++ [.stored tool run findings inserted]) before
      (after.persist job.mode (job.scan tool) findings).1 := by
  obtain ⟨hwritten, hcount⟩ := Store.persist_eq_written hpersist
  rw [hwritten]
  obtain ⟨⟨scans, hscans, htools⟩, ⟨rows, hrows, hlength⟩, hbounded⟩ := grown
  let scan : Scan := ⟨after.lastId + 1, job.timestamp, some tool.name, some job.target⟩
  refine ⟨⟨scans ++ [scan], ?_, ?_⟩,
    ⟨rows ++ after.newRows (after.lastId + 1) findings, ?_, ?_⟩, ?_⟩
  · rw [Store.written, hscans, List.append_assoc]
    rfl
  · rw [List.map_append, htools, List.filterMap_append, List.map_append]
    rfl
  · rw [Store.written, hrows, List.append_assoc]
  · rw [List.length_append, hlength, ← hcount, List.filterMap_append, List.map_append,
      List.sum_append]
    rfl
  · intro t run' findings' inserted' hmem
    rcases List.mem_append.mp hmem with hold | hnew
    · exact hbounded t run' findings' inserted' hold
    · cases List.mem_singleton.mp hnew
      rw [hcount]
      exact Store.length_newRows_le _ _ _

/-- **What every history adds to a store.** -/
theorem Marked.grown {r r' : Records} {history : List Deed} (marked : Marked job r history r')
    {before : Store} (hstore : r.store? = some before) :
    ∃ after, r'.store? = some after ∧ Grown history before after := by
  induction marked with
  | nil =>
    exact ⟨before, hstore, ⟨[], by simp, rfl⟩, ⟨[], by simp, rfl⟩, by simp⟩
  | @snoc r' history d _ counted ih =>
    obtain ⟨after, hafter, hgrown⟩ := ih
    cases d with
    | stored tool run findings inserted =>
      simp only [Deed.Counted, hafter] at counted
      obtain ⟨id, hpersist⟩ := counted
      refine ⟨_, ?_, hgrown.snoc_stored hpersist⟩
      rw [Deed.mark, Deed.store?, hafter, Option.map_some]
    | _ => exact ⟨after, hafter, hgrown.snoc_none rfl rfl⟩

/-! ## What a summary says of the tools -/

theorem Tallied.mem_ok {history : List Deed} {sum : Summary} (tallied : Tallied job history sum)
    {tool : Tool} : tool.name ∈ sum.ok ↔ ∃ d ∈ about tool history, d.ok?.isSome := by
  rw [tallied.ok, List.mem_filterMap]
  constructor
  · rintro ⟨d, hd, hok⟩
    cases d with
    | stored t run findings inserted =>
      have htool : t = tool := Tool.name_injective (by simpa [Deed.ok?] using hok)
      exact ⟨_, mem_about.mpr ⟨hd, htool⟩, rfl⟩
    | _ => cases hok
  · rintro ⟨d, hd, hok⟩
    obtain ⟨hmem, rfl⟩ := mem_about.mp hd
    refine ⟨d, hmem, ?_⟩
    cases d <;> first | rfl | cases hok

theorem Tallied.mem_failed {history : List Deed} {sum : Summary}
    (tallied : Tallied job history sum) {tool : Tool} :
    tool.name ∈ sum.failed.keys ↔ ∃ d ∈ about tool history, d.failure?.isSome := by
  have hkeys := (tallied.failed.perm.map Prod.fst).mem_iff (a := tool.name)
  rw [Assoc.keys, hkeys, List.mem_map]
  constructor
  · rintro ⟨p, hp, hname⟩
    obtain ⟨d, hd, hfailed⟩ := List.mem_filterMap.mp hp
    have htool : d.tool = tool :=
      Tool.name_injective ((Deed.name_of_failed? d p hfailed).symm.trans hname)
    obtain ⟨failure, hfailure, -⟩ := Option.map_eq_some_iff.mp hfailed
    exact ⟨d, mem_about.mpr ⟨hd, htool⟩, by rw [hfailure]; rfl⟩
  · rintro ⟨d, hd, hfailure⟩
    obtain ⟨hmem, rfl⟩ := mem_about.mp hd
    obtain ⟨failure, hsome⟩ := Option.isSome_iff_exists.mp hfailure
    exact ⟨(d.tool.name, failure), List.mem_filterMap.mpr ⟨d, hmem, by simp [Deed.failed?, hsome]⟩,
      rfl⟩

/-- A tool that came to its end went well or failed, and not both. -/
theorem Ended.ok_xor_failed {tool : Tool} {deeds : List Deed}
    (ended : Ended job result tool deeds) :
    ((∃ d ∈ deeds, d.ok?.isSome) ∧ ¬ ∃ d ∈ deeds, d.failure?.isSome) ∨
      (¬ (∃ d ∈ deeds, d.ok?.isSome) ∧ ∃ d ∈ deeds, d.failure?.isSome) := by
  cases ended <;> simp [Deed.ok?, Deed.failure?]

theorem Tallied.keys_rows {history : List Deed} {sum : Summary}
    (tallied : Tallied job history sum) : sum.rows.keys.Perm sum.ok :=
  tallied.ok ▸ tallied.rows.keys_perm Deed.map_fst_rows?

theorem Tallied.keys_inserted {history : List Deed} {sum : Summary}
    (tallied : Tallied job history sum) : sum.inserted.keys.Perm sum.ok :=
  tallied.ok ▸ tallied.inserted.keys_perm Deed.map_fst_inserted?

/-- No tool went well twice. -/
theorem Tallied.nodup_ok {history : List Deed} {sum : Summary}
    (tallied : Tallied job history sum) : sum.ok.Nodup :=
  tallied.keys_rows.nodup_iff.mp (Assoc.nodup_keys_of_ascending tallied.rows.ascending)

/-- The tools that went well were asked for, so that putting them in the order of the request
loses none. -/
theorem Tallied.inOrder_perm {history : List Deed} {sum : Summary} {s : State}
    (tallied : Tallied job history sum) (tracked : Tracked job result history s)
    (hnodup : job.tools.Nodup) : sum.inOrder.ok.Perm sum.ok := by
  have hrequested : sum.requested.Nodup := by
    rw [tallied.requested]
    exact hnodup.map Tool.name_injective
  refine (List.perm_ext_iff_of_nodup (hrequested.filter _) tallied.nodup_ok).mpr fun name => ?_
  rw [List.mem_filter, List.contains_iff_mem]
  refine ⟨And.right, fun hmem => ⟨?_, hmem⟩⟩
  rw [tallied.ok, List.mem_filterMap] at hmem
  obtain ⟨d, hd, hname⟩ := hmem
  rw [tallied.requested, List.mem_map]
  refine ⟨d.tool, tracked.requested d hd, ?_⟩
  cases d <;> cases hname
  rfl

theorem Tallied.exists_of_rows {history : List Deed} {sum : Summary}
    (tallied : Tallied job history sum) {name : String} {n : Nat}
    (h : sum.rows.find? name = some n) :
    ∃ tool run findings inserted, .stored tool run findings inserted ∈ history ∧
      tool.name = name ∧ findings.length = n := by
  have hmem := (Assoc.find?_eq_some_iff tallied.rows.ascending).mp h
  obtain ⟨d, hd, hrows⟩ := List.mem_filterMap.mp (tallied.rows.perm.mem_iff.mp hmem)
  cases d <;> cases hrows
  exact ⟨_, _, _, _, hd, rfl, rfl⟩

theorem Tallied.exists_of_inserted {history : List Deed} {sum : Summary}
    (tallied : Tallied job history sum) {name : String} {n : Nat}
    (h : sum.inserted.find? name = some n) :
    ∃ tool run findings, .stored tool run findings n ∈ history ∧ tool.name = name := by
  have hmem := (Assoc.find?_eq_some_iff tallied.inserted.ascending).mp h
  obtain ⟨d, hd, hinserted⟩ := List.mem_filterMap.mp (tallied.inserted.perm.mem_iff.mp hmem)
  cases d <;> cases hinserted
  exact ⟨_, _, _, hd, rfl⟩

/-! ## Audits that were not stopped -/

/-- Summary, events and store of an audit that was not stopped. -/
structure CompleteAudit (job : Job) (sum : Summary) (before after : Store) (body : List Event)
    (last : Event) : Prop where
  requested : sum.requested = job.tools.map Tool.name
  /-- Each tool went well or failed, and not both. -/
  settled : ∀ t ∈ job.tools,
    (t.name ∈ sum.ok ∧ t.name ∉ sum.failed.keys) ∨ (t.name ∉ sum.ok ∧ t.name ∈ sum.failed.keys)
  ordered : sum.ok.Sublist sum.requested
  rows_keys : ∀ name, name ∈ sum.rows.keys ↔ name ∈ sum.ok
  inserted_keys : ∀ name, name ∈ sum.inserted.keys ↔ name ∈ sum.ok
  bounded : ∀ name n k,
    sum.inserted.find? name = some n → sum.rows.find? name = some k → n ≤ k
  /-- There is one scan more for each tool that went well … -/
  scans : ∃ scans, after.scans = before.scans ++ scans ∧
    (scans.map Scan.tool?).Perm (sum.ok.map some)
  /-- … and as many rows more as the summary says. -/
  rows : ∃ rows, after.rows = before.rows ++ rows ∧ rows.length = sum.inserted.values.sum
  events : ∀ t ∈ job.tools,
    ((body ++ [last]).filter fun e => e.tool = t.name).map Event.kind ∈ courses
  last_kind : last.kind = .completed ∨ last.kind = .completedWithErrors
  clean : last.kind = .completed ↔ sum.failed = []
  /-- The last event is the only one about the audit as a whole. -/
  alone : ((body ++ [last]).filter fun e => e.tool = allTools) = [last]

/-- The summary, the events and the store of a history that left nothing to do. -/
theorem completeAudit_of_history (hnodup : job.tools.Nodup) (hnames : NamesTools result)
    {history : List Deed} {s : State} (tracked : Tracked job result history s)
    (tallied : Tallied job history s.summary) (hstopped : s.stopped? = none)
    (hended : ∀ t ∈ job.tools, Ended job result t (about t history)) {before after : Store}
    (grown : Grown history before after) (elapsed : Float) :
    CompleteAudit job { s.summary.inOrder with elapsed := elapsed } before after
      (history.flatMap (Deed.events job)) (lastEvent job s) where
  requested := tallied.requested
  settled := by
    intro t ht
    have hperm := tallied.inOrder_perm tracked hnodup
    simp only [hperm.mem_iff]
    rw [tallied.mem_ok, show s.summary.inOrder.failed = s.summary.failed from rfl,
      tallied.mem_failed]
    exact (hended t ht).ok_xor_failed
  ordered := List.filter_sublist
  rows_keys := by
    intro name
    have hperm := tallied.inOrder_perm tracked hnodup
    exact (tallied.keys_rows.trans hperm.symm).mem_iff
  inserted_keys := by
    intro name
    have hperm := tallied.inOrder_perm tracked hnodup
    exact (tallied.keys_inserted.trans hperm.symm).mem_iff
  bounded := by
    intro name n k hn hk
    obtain ⟨t, run, findings, hstored, rfl⟩ := tallied.exists_of_inserted hn
    obtain ⟨t', run', findings', n', hstored', hname, rfl⟩ := tallied.exists_of_rows hk
    obtain rfl := Tool.name_injective hname
    -- both numbers come from one deed, since a report is stored once
    obtain ⟨-, rfl, -⟩ := tracked.stored_unique hstored hstored'
    exact grown.bounded _ _ _ _ hstored
  scans := by
    obtain ⟨scans, hscans, htools⟩ := grown.scans
    refine ⟨scans, hscans, ?_⟩
    rw [htools, ← tallied.ok]
    exact ((tallied.inOrder_perm tracked hnodup).map some).symm
  rows := by
    obtain ⟨rows, hrows, hlength⟩ := grown.rows
    refine ⟨rows, hrows, ?_⟩
    rw [hlength]
    exact (tallied.inserted.perm.map Prod.snd).sum_eq.symm
  events := by
    intro t ht
    -- the last event is about all tools, so it is no event of this one
    have hlast : (lastEvent job s).tool ≠ t.name := by
      rw [lastEvent_tool]
      exact allTools_ne_name t
    have hnone : [lastEvent job s].filter (fun e => e.tool = t.name) = [] := by
      simp [hlast]
    rw [List.filter_append, filter_events hnames tracked.meant, hnone, List.append_nil]
    exact (hended t ht).kinds_mem_courses
  last_kind := by
    unfold lastEvent
    rw [hstopped]
    cases s.summary.hasFailures
    · exact .inl rfl
    · exact .inr rfl
  clean := by
    have hempty : s.summary.hasFailures = true ↔ s.summary.failed ≠ [] := by
      simp [Summary.hasFailures]
    unfold lastEvent
    rw [hstopped]
    by_cases hfailed : s.summary.failed = []
    · simp [hempty, hfailed, Summary.inOrder]
    · simp [hempty, hfailed, Summary.inOrder]
  alone := by
    rw [List.filter_append, filter_allTools hnames tracked]
    simp [lastEvent_tool]

/-- **An audit that came to a summary**, whatever its tools did and in whatever order they
ended. -/
theorem complete_of_outcome {names : List String} (hresolve : resolveTools names = .ok job.tools)
    (hnames : NamesTools result) {r : Records} {m : Moment} (hm : Reached job result r m)
    {before : Store} (hstore : r.store? = some before) {sum : Summary}
    (hend : m.1.outcome? = some (.ok sum)) :
    ∃ after body last, m.2.store? = some after ∧ m.2.events = r.events ++ (body ++ [last]) ∧
      CompleteAudit job sum before after body last := by
  obtain ⟨since, history, final, now, hpath, hrunning, hpending, hdeferred, houtcome, hrecords⟩ :=
    hm.closed hend fun e h => by cases h
  have hnodup := nodup_of_resolveTools hresolve
  have hstopped : final.1.stopped? = none := by
    cases hgoes : final.1.stopped? with
    | none => rfl
    | some stopper =>
      rw [hend, close_outcome?_of_stopped job now hgoes] at houtcome
      cases houtcome
  rw [hend, close_outcome?_of_going job now hstopped, Option.some.injEq, Except.ok.injEq]
    at houtcome
  have htracked := hpath.steps.tracked hnodup
  have hhalted := hpath.steps.halted
  rw [hstopped] at hhalted
  have hended : ∀ t ∈ job.tools, Ended job result t (about t history) := fun t ht =>
    htracked.ended hhalted hpending hrunning (hdeferred hstopped) ht
  obtain ⟨after, hafter, hgrown⟩ := hpath.marked.grown hstore
  refine ⟨after, history.flatMap (Deed.events job), lastEvent job final.1, ?_, ?_, ?_⟩
  · rw [hrecords, close_store?, hafter]
  · rw [hrecords, close_events, hpath.events, List.append_assoc]
  · rw [houtcome]
    exact completeAudit_of_history hnodup hnames htracked (hpath.steps.tallied hnodup) hstopped
      hended hgrown _

/-- Two tools at once, the second of which ends first and could not be run. -/
theorem complete_of_outcome_of_crash :
    let job : Job :=
      { target := "/p", anchor := "/p", tools := [.bandit, .mypy]
        analyzer := analyzerOf {}, jobs := 2, stopOnError := false, mode := .perRow
        timestamp := "2026-01-01T00:00:00Z" }
    let report : RunRecord :=
      { tool := "bandit", cmd := ["bandit"], cwd := "/p", exitCode := 0, duration := 0.5
        stdout := "", stderr := "", payload? := some (.obj [("results", .arr [])]) }
    let result : Tool → Execution := fun t =>
      if t = .bandit then .ran report else .impossible (.emptyCommand t.name)
    let before : Store := Store.empty.seed
    let r : Records := ⟨some before, []⟩
    let m := deliver job 9 .bandit (result .bandit)
      (deliver job 7 .mypy (result .mypy) (launch job 3 r))
    resolveTools ["bandit", "mypy", "BANDIT"] = .ok job.tools ∧ NamesTools result ∧
      Reached job result r m ∧ r.store? = some before ∧
      ∃ sum, m.1.outcome? = some (.ok sum) ∧
        ∃ after body last, m.2.store? = some after ∧
          m.2.events = r.events ++ (body ++ [last]) ∧
          CompleteAudit job sum before after body last := by
  intro job report result before r m
  have hresolve : resolveTools ["bandit", "mypy", "BANDIT"] = .ok job.tools := by
    decide
  have hnames : NamesTools result := by
    intro t run h
    by_cases ht : t = .bandit
    · subst ht
      cases h
      rfl
    · simp only [result, if_neg ht] at h
      cases h
  have hm : Reached job result r m :=
    .deliver 9 (.deliver 7 (.launch 3) (by decide)) (by decide)
  have hok : m.1.outcome?.any Except.toBool = true := by decide
  obtain ⟨outcome, hend, hsum⟩ := (Option.any_eq_true _ _).mp hok
  cases outcome with
  | error e => cases hsum
  | ok sum =>
    exact ⟨hresolve, hnames, hm, rfl, sum, hend, complete_of_outcome hresolve hnames hm rfl hend⟩

end LintLedger.Audit
