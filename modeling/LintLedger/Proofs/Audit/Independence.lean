import LintLedger.Proofs.Audit.Progress
import LintLedger.Proofs.Audit.Supply

/-!
# Audits do not depend on the order of their tools

The summary and the tables that an audit leaves behind can be told from what each tool brings.
Since that depends neither on the number of workers nor on the order in which tools end, the
audit depends on neither.

## Main Definitions

* `Audit.Filled` -- what a history adds to each table of a store
* `Audit.Accounted` -- summary and tables told from what each tool brings
* `Audit.Agree` -- summaries and tables that say the same
* `Audit.EslintStored` -- what is said and stored of a run of ESLint

## Main Statements

* `Audit.Marked.filled` -- what every history adds to each table
* `Audit.Reached.accounted` -- summary and tables of every audit that was not to stop
* `Audit.results_independent` -- audits do not depend on the order of their tools
-/

namespace LintLedger.Audit

variable {job : Job} {result : Tool → Execution} {settings : ToolSettings}

/-! ## Tables -/

/-- What a history adds to each table of a store: nothing, or the findings of the tool. -/
structure Filled (history : List Deed) (before after : Store) : Prop where
  untouched : ∀ t, t.name ∉ history.filterMap Deed.ok? → after.rowsOf t = before.rowsOf t
  filled : ∀ t run findings inserted, .stored t run findings inserted ∈ history →
    (after.rowsOf t).map Row.unowned =
      (before.rowsOf t ++ before.newRows 0 findings).map Row.unowned ∧
    inserted = (before.newRows 0 findings).length

/-- A deed that stores nothing adds nothing. -/
theorem Filled.snoc_none {history : List Deed} {before after : Store}
    (filled : Filled history before after) {d : Deed} (hok : d.ok? = none) :
    Filled (history ++ [d]) before after := by
  refine ⟨fun t ht => filled.untouched t (by simpa [hok] using ht), ?_⟩
  intro t run findings inserted hmem
  rcases List.mem_append.mp hmem with hold | hnew
  · exact filled.filled t run findings inserted hold
  · rw [← List.mem_singleton.mp hnew] at hok
    cases hok

/-- Storing the findings of a tool fills its table. -/
theorem Filled.snoc_stored {history : List Deed} {before after : Store}
    (filled : Filled history before after) {tool : Tool} {run : RunRecord}
    {findings : List Finding} {inserted : Nat} {id : Int}
    (hpersist : (after.persist job.mode (job.scan tool) findings).2 = .ok (id, inserted))
    (hnew : tool.name ∉ history.filterMap Deed.ok?)
    (htable : ∀ f ∈ findings, f.table = tool.tableName) :
    Filled (history ++ [.stored tool run findings inserted]) before
      (after.persist job.mode (job.scan tool) findings).1 := by
  obtain ⟨hwritten, hcount⟩ := Store.persist_eq_written hpersist
  have huntouched := filled.untouched tool hnew
  have hrows := Store.unowned_newRows_of_rowsOf htable huntouched (after.lastId + 1) 0
  rw [hwritten]
  refine ⟨fun t ht => ?_, fun t run' findings' inserted' hmem => ?_⟩
  · rw [List.filterMap_append, List.mem_append, not_or] at ht
    have hne : t ≠ tool := by
      rintro rfl
      exact ht.2 (by simp [Deed.ok?])
    rw [Store.rowsOf_written_of_ne htable hne]
    exact filled.untouched t ht.1
  · rcases List.mem_append.mp hmem with hold | hlast
    · have hne : t ≠ tool := by
        rintro rfl
        exact hnew (List.mem_filterMap.mpr ⟨_, hold, rfl⟩)
      rw [Store.rowsOf_written_of_ne htable hne]
      exact filled.filled t run' findings' inserted' hold
    · cases List.mem_singleton.mp hlast
      refine ⟨?_, ?_⟩
      · rw [Store.rowsOf_written_self htable, huntouched, List.map_append, List.map_append, hrows]
      · rw [hcount, ← List.length_map (f := Row.unowned), hrows, List.length_map]

/-- **What every history adds to each table**, if each tool is stored once and brings findings
for its own table. -/
theorem Marked.filled {r r' : Records} {history : List Deed} (marked : Marked job r history r')
    {before : Store} (hstore : r.store? = some before)
    (honce : (history.filterMap Deed.ok?).Nodup)
    (htable : ∀ t run findings inserted, .stored t run findings inserted ∈ history →
      ∀ f ∈ findings, f.table = t.tableName) :
    ∃ after, r'.store? = some after ∧ Filled history before after := by
  induction marked with
  | nil => exact ⟨before, hstore, fun _ _ => rfl, by simp⟩
  | @snoc r' history d _ counted ih =>
    rw [List.filterMap_append, List.nodup_append] at honce
    obtain ⟨honce, -, hdisjoint⟩ := honce
    obtain ⟨after, hafter, hfilled⟩ := ih honce fun t run findings inserted hmem =>
      htable t run findings inserted (List.mem_append_left _ hmem)
    cases d with
    | stored tool run findings inserted =>
      simp only [Deed.Counted, hafter] at counted
      obtain ⟨id, hpersist⟩ := counted
      have hnew : tool.name ∉ history.filterMap Deed.ok? := fun hmem =>
        hdisjoint _ hmem tool.name (by simp [Deed.ok?]) rfl
      refine ⟨_, ?_, hfilled.snoc_stored hpersist hnew (htable tool run findings inserted ?_)⟩
      · rw [Deed.mark, Deed.store?, hafter, Option.map_some]
      · exact List.mem_append_right _ List.mem_cons_self
    | _ => exact ⟨after, hafter, hfilled.snoc_none rfl⟩

/-- Without a store nothing is stored and no finding is new. -/
theorem Marked.unstored {r r' : Records} {history : List Deed} (marked : Marked job r history r')
    (hstore : r.store? = none) :
    r'.store? = none ∧ ∀ t run findings inserted,
      .stored t run findings inserted ∈ history → inserted = 0 := by
  induction marked with
  | nil => exact ⟨hstore, by simp⟩
  | @snoc r' history d _ counted ih =>
    obtain ⟨hnone, hzero⟩ := ih
    refine ⟨?_, fun t run findings inserted hmem => ?_⟩
    · cases d with
      | stored => rw [Deed.mark, Deed.store?, hnone, Option.map_none]
      | _ => exact hnone
    · rcases List.mem_append.mp hmem with hold | hnew
      · exact hzero t run findings inserted hold
      · rw [← List.mem_singleton.mp hnew] at counted
        simpa only [Deed.Counted, hnone] using counted

/-! ## Summaries told from what tools bring -/

/-- A tool that came to its end and brings a failure had it taken. -/
theorem Ended.exists_failure {t : Tool} {deeds : List Deed} (ended : Ended job result t deeds)
    (hharvests : ∀ d ∈ deeds, d.Harvests job result) {failure : ToolFailure}
    (h : harvest job result t = .error failure) :
    ∃ d ∈ deeds, d.tool = t ∧ d.failure? = some failure := by
  cases ended with
  | @broke failure' _ =>
    have hbrings : harvest job result t = .error failure' :=
      hharvests (.broke t (result t) failure') (by simp)
    rw [h] at hbrings
    cases hbrings
    exact ⟨.broke t (result t) failure, by simp, rfl, rfl⟩
  | @refused run fault _ =>
    have hbrings : harvest job result t = .error (faultOf run fault) :=
      hharvests (.refused t run fault) (by simp)
    rw [h] at hbrings
    cases hbrings
    exact ⟨.refused t run fault, by simp, rfl, rfl⟩
  | @stored run findings inserted _ =>
    have hbrings : harvest job result t = .ok findings :=
      hharvests (.stored t run findings inserted) (by simp)
    rw [h] at hbrings
    cases hbrings

/-- How many of some findings are new in a store; without a store none is. -/
def newCount (before? : Option Store) (findings : List Finding) : Nat :=
  (before?.map fun s => (s.newRows 0 findings).length).getD 0

/-- The rows that a tool brings to its table. -/
def brought (job : Job) (result : Tool → Execution) (s : Store) (t : Tool) : List Row :=
  if t ∈ job.tools then
    match harvest job result t with
    | .ok findings => s.newRows 0 findings
    | .error _ => []
  else []

theorem brought_of_ok {t : Tool} (ht : t ∈ job.tools) {findings : List Finding}
    (h : harvest job result t = .ok findings) (s : Store) :
    brought job result s t = s.newRows 0 findings := by
  rw [brought, if_pos ht, h]

theorem brought_eq_nil {t : Tool}
    (h : ¬ ∃ findings, t ∈ job.tools ∧ harvest job result t = .ok findings) (s : Store) :
    brought job result s t = [] := by
  unfold brought
  split
  · rename_i ht
    split
    · rename_i findings hfindings
      exact absurd ⟨findings, ht, hfindings⟩ h
    · rfl
  · rfl

/-- The rows of a table, whichever scans brought them. -/
def tableOf? (store? : Option Store) (t : Tool) : Option (List Row) :=
  store?.map fun s => (s.rowsOf t).map Row.unowned

/-- Summary and tables of an audit, told from what each tool brings. -/
structure Accounted (job : Job) (result : Tool → Execution) (before? after? : Option Store)
    (sum : Summary) : Prop where
  ok : sum.ok = (job.tools.filter fun t => (harvest job result t).isOk).map Tool.name
  ascending : sum.failed.Ascending ∧ sum.rows.Ascending ∧ sum.inserted.Ascending
  failed : ∀ p, p ∈ sum.failed ↔
    ∃ t ∈ job.tools, harvest job result t = .error p.2 ∧ t.name = p.1
  rows : ∀ p, p ∈ sum.rows ↔
    ∃ t ∈ job.tools, ∃ findings, harvest job result t = .ok findings ∧
      (t.name, findings.length) = p
  inserted : ∀ p, p ∈ sum.inserted ↔
    ∃ t ∈ job.tools, ∃ findings, harvest job result t = .ok findings ∧
      (t.name, newCount before? findings) = p
  tables : ∀ t, tableOf? after? t =
    before?.map fun s => (s.rowsOf t ++ brought job result s t).map Row.unowned

/-- What is known of a history that came to its end in an audit that was not to stop. -/
structure Through (job : Job) (result : Tool → Execution) (history : List Deed) : Prop where
  ended : ∀ t ∈ job.tools, Ended job result t (about t history)
  harvests : ∀ d ∈ history, d.Harvests job result
  requested : ∀ d ∈ history, d.tool ∈ job.tools

/-- Findings are brought by the tools that had them stored. -/
theorem Through.harvest_ok_iff {history : List Deed} (through : Through job result history)
    {t : Tool} {findings : List Finding} :
    (t ∈ job.tools ∧ harvest job result t = .ok findings) ↔
      ∃ run inserted, .stored t run findings inserted ∈ history := by
  constructor
  · rintro ⟨ht, hbrings⟩
    have hharvests : ∀ d ∈ about t history, d.Harvests job result :=
      fun d hd => through.harvests d (mem_about.mp hd).1
    obtain ⟨run, inserted, hmem⟩ := (through.ended t ht).exists_stored hharvests hbrings
    exact ⟨run, inserted, (mem_about.mp hmem).1⟩
  · rintro ⟨run, inserted, hmem⟩
    exact ⟨through.requested _ hmem, through.harvests _ hmem⟩

/-- Failures are brought by the tools of which they were taken. -/
theorem Through.harvest_error_iff {history : List Deed} (through : Through job result history)
    {t : Tool} {failure : ToolFailure} :
    (t ∈ job.tools ∧ harvest job result t = .error failure) ↔
      ∃ d ∈ history, d.tool = t ∧ d.failure? = some failure := by
  constructor
  · rintro ⟨ht, hbrings⟩
    have hharvests : ∀ d ∈ about t history, d.Harvests job result :=
      fun d hd => through.harvests d (mem_about.mp hd).1
    obtain ⟨d, hd, htool, hfailure⟩ := (through.ended t ht).exists_failure hharvests hbrings
    exact ⟨d, (mem_about.mp hd).1, htool, hfailure⟩
  · rintro ⟨d, hd, rfl, hfailure⟩
    have hbrings := through.harvests d hd
    refine ⟨through.requested d hd, ?_⟩
    cases d <;> cases hfailure <;> exact hbrings

/-- Each table is left alone or filled by its own tool. -/
theorem Through.filled {history : List Deed} (through : Through job result history)
    (hbuiltin : job.analyzer = analyzerOf settings) {r r' : Records}
    (marked : Marked job r history r') (honce : (history.filterMap Deed.ok?).Nodup)
    {before : Store} (hstore : r.store? = some before) :
    ∃ after, r'.store? = some after ∧ Filled history before after := by
  refine marked.filled hstore honce fun t run findings inserted hmem => ?_
  exact table_of_mem_harvest hbuiltin (through.harvest_ok_iff.mpr ⟨run, inserted, hmem⟩).2

/-- The numbers that deeds tell are those of the store from which the audit began. -/
theorem Through.inserted_eq {history : List Deed} (through : Through job result history)
    (hbuiltin : job.analyzer = analyzerOf settings) {r r' : Records}
    (marked : Marked job r history r') (honce : (history.filterMap Deed.ok?).Nodup) :
    ∀ t run findings inserted, .stored t run findings inserted ∈ history →
      inserted = newCount r.store? findings := by
  intro t run findings inserted hmem
  cases hstore : r.store? with
  | none => exact (marked.unstored hstore).2 t run findings inserted hmem
  | some before =>
    obtain ⟨after, -, hfilled⟩ := through.filled hbuiltin marked honce hstore
    exact (hfilled.filled t run findings inserted hmem).2

/-- Each table gains what its tool brings. -/
theorem Through.tableOf?_eq {history : List Deed} (through : Through job result history)
    (hbuiltin : job.analyzer = analyzerOf settings) {r r' : Records}
    (marked : Marked job r history r') (honce : (history.filterMap Deed.ok?).Nodup) (t : Tool) :
    tableOf? r'.store? t =
      r.store?.map fun s => (s.rowsOf t ++ brought job result s t).map Row.unowned := by
  cases hstore : r.store? with
  | none =>
    rw [(marked.unstored hstore).1]
    rfl
  | some before =>
    obtain ⟨after, hafter, hfilled⟩ := through.filled hbuiltin marked honce hstore
    rw [hafter, tableOf?, Option.map_some, Option.map_some, Option.some.injEq]
    by_cases hbrings : ∃ findings, t ∈ job.tools ∧ harvest job result t = .ok findings
    · obtain ⟨findings, ht, hfindings⟩ := hbrings
      obtain ⟨run, inserted, hmem⟩ := through.harvest_ok_iff.mp ⟨ht, hfindings⟩
      rw [brought_of_ok ht hfindings]
      exact (hfilled.filled t run findings inserted hmem).1
    · have hnone : t.name ∉ history.filterMap Deed.ok? := by
        intro hmem
        obtain ⟨d, hd, hok⟩ := List.mem_filterMap.mp hmem
        cases d with
        | stored t' run findings inserted =>
          obtain rfl : t' = t := Tool.name_injective (by simpa [Deed.ok?] using hok)
          exact hbrings ⟨findings, through.harvest_ok_iff.mpr ⟨run, inserted, hd⟩⟩
        | _ => cases hok
      rw [brought_eq_nil hbrings, List.append_nil, hfilled.untouched t hnone]

/-- A tool is among those that went well if it brings findings. -/
theorem Through.contains_ok {history : List Deed} (through : Through job result history)
    {sum : Summary} (tallied : Tallied job history sum) {t : Tool} (ht : t ∈ job.tools) :
    sum.ok.contains t.name = (harvest job result t).isOk := by
  rw [Bool.eq_iff_iff, List.contains_iff_mem, tallied.mem_ok]
  constructor
  · rintro ⟨d, hd, hsome⟩
    obtain ⟨hmem, rfl⟩ := mem_about.mp hd
    cases d with
    | stored t run findings inserted =>
      have hbrings : harvest job result t = .ok findings := through.harvests _ hmem
      change (harvest job result t).isOk = true
      rw [hbrings]
      rfl
    | _ => cases hsome
  · intro hisOk
    cases hbrings : harvest job result t with
    | error failure =>
      rw [hbrings] at hisOk
      cases hisOk
    | ok findings =>
      obtain ⟨run, inserted, hmem⟩ := through.harvest_ok_iff.mp ⟨ht, hbrings⟩
      exact ⟨_, mem_about.mpr ⟨hmem, rfl⟩, rfl⟩

/-- The entries of the tools that bring findings, in a map that counts them. -/
theorem Through.mem_counts_iff {history : List Deed} (through : Through job result history)
    {field? : Deed → Option (String × Nat)} {count : List Finding → Nat}
    (hkeys : ∀ d, (field? d).map Prod.fst = d.ok?)
    (hcount : ∀ t run findings inserted, .stored t run findings inserted ∈ history →
      field? (.stored t run findings inserted) = some (t.name, count findings))
    (p : String × Nat) :
    p ∈ history.filterMap field? ↔
      ∃ t ∈ job.tools, ∃ findings, harvest job result t = .ok findings ∧
        (t.name, count findings) = p := by
  rw [List.mem_filterMap]
  constructor
  · rintro ⟨d, hd, hfield⟩
    cases d with
    | stored t run findings inserted =>
      rw [hcount t run findings inserted hd, Option.some.injEq] at hfield
      obtain ⟨ht, hbrings⟩ := through.harvest_ok_iff.mpr ⟨run, inserted, hd⟩
      exact ⟨t, ht, findings, hbrings, hfield⟩
    | _ =>
      rw [Deed.eq_none_of_ok? hkeys rfl] at hfield
      cases hfield
  · rintro ⟨t, ht, findings, hbrings, rfl⟩
    obtain ⟨run, inserted, hmem⟩ := through.harvest_ok_iff.mp ⟨ht, hbrings⟩
    exact ⟨_, hmem, hcount t run findings inserted hmem⟩

/-- The entries of the tools that bring failures. -/
theorem Through.mem_failures_iff {history : List Deed} (through : Through job result history)
    (p : String × ToolFailure) :
    p ∈ history.filterMap Deed.failed? ↔
      ∃ t ∈ job.tools, harvest job result t = .error p.2 ∧ t.name = p.1 := by
  rw [List.mem_filterMap]
  constructor
  · rintro ⟨d, hd, hfailed⟩
    obtain ⟨failure, hfailure, rfl⟩ := Option.map_eq_some_iff.mp hfailed
    obtain ⟨ht, hbrings⟩ := through.harvest_error_iff.mpr ⟨d, hd, rfl, hfailure⟩
    exact ⟨d.tool, ht, hbrings, rfl⟩
  · rintro ⟨t, ht, hbrings, hname⟩
    obtain ⟨d, hd, rfl, hfailure⟩ := through.harvest_error_iff.mp ⟨ht, hbrings⟩
    refine ⟨d, hd, ?_⟩
    rw [Deed.failed?, hfailure, Option.map_some, hname]

/-- A history that came to its end is told from what each tool brings. -/
theorem Through.accounted {history : List Deed} (through : Through job result history)
    (hbuiltin : job.analyzer = analyzerOf settings) {r r' : Records}
    (marked : Marked job r history r') {sum : Summary} (tallied : Tallied job history sum)
    (elapsed : Float) :
    Accounted job result r.store? r'.store? { sum.inOrder with elapsed := elapsed } := by
  have honce : (history.filterMap Deed.ok?).Nodup := tallied.ok ▸ tallied.nodup_ok
  have hinserted := through.inserted_eq hbuiltin marked honce
  refine ⟨?_, ⟨tallied.failed.ascending, tallied.rows.ascending, tallied.inserted.ascending⟩,
    ?_, ?_, ?_, through.tableOf?_eq hbuiltin marked honce⟩
  · change sum.requested.filter sum.ok.contains = _
    rw [tallied.requested, List.filter_map]
    exact congrArg (List.map Tool.name)
      (List.filter_congr fun t ht => through.contains_ok tallied ht)
  · intro p
    rw [← through.mem_failures_iff p]
    exact tallied.failed.perm.mem_iff
  · intro p
    rw [← through.mem_counts_iff Deed.map_fst_rows? (fun _ _ _ _ _ => rfl) p]
    exact tallied.rows.perm.mem_iff
  · intro p
    have hcount : ∀ t run findings inserted, .stored t run findings inserted ∈ history →
        (Deed.stored t run findings inserted).inserted? =
          some (t.name, newCount r.store? findings) := by
      intro t run findings inserted hmem
      rw [Deed.inserted?, hinserted t run findings inserted hmem]
    rw [← through.mem_counts_iff Deed.map_fst_inserted? hcount p]
    exact tallied.inserted.perm.mem_iff

/-! ## Audits that are not to stop -/

/-- **Summary and tables of every audit that was not to stop** and came to its end. -/
theorem Reached.accounted {r : Records} {m : Moment} (hm : Reached job result r m)
    (hnodup : job.tools.Nodup) (hbuiltin : job.analyzer = analyzerOf settings)
    (hgoes : job.stopOnError = false) (hdone : m.1.running = [])
    (hstorage : ∀ e, m.1.outcome? ≠ some (.error (.storage e))) :
    ∃ sum, m.1.outcome? = some (.ok sum) ∧ Accounted job result r.store? m.2.store? sum := by
  obtain ⟨o, hend⟩ := Option.isSome_iff_exists.mp (hm.isSome_outcome hdone)
  have hnone : ∀ e, o ≠ .error (.storage e) := by
    rintro e rfl
    exact hstorage e hend
  obtain ⟨since, history, final, now, hpath, hrunning, hpending, hdeferred, houtcome, hrecords⟩ :=
    hm.closed hend hnone
  have hstopped := hpath.steps.stopped?_eq_none hgoes
  have htracked := hpath.steps.tracked hnodup
  have hhalted := hpath.steps.halted
  rw [hstopped] at hhalted
  have through : Through job result history :=
    ⟨fun t ht => htracked.ended hhalted hpending hrunning (hdeferred hstopped) ht,
      hpath.steps.harvests (hbuiltin ▸ coherent_analyzerOf settings) hnodup, htracked.requested⟩
  rw [close_outcome?_of_going job now hstopped] at houtcome
  refine ⟨_, houtcome, ?_⟩
  rw [hrecords, close_store?]
  exact through.accounted hbuiltin hpath.marked (hpath.steps.tallied hnodup) _

/-- Two audits agree: their summaries say the same of every tool, and their tables hold the same
rows, up to the scans that brought them. -/
structure Agree (sum sum' : Summary) (after? after'? : Option Store) : Prop where
  ok : sum'.ok = sum.ok
  failed : sum'.failed = sum.failed
  rows : sum'.rows = sum.rows
  inserted : sum'.inserted = sum.inserted
  tables : ∀ t, tableOf? after'? t = tableOf? after? t

/-- Audits that bring the same agree. -/
theorem Accounted.agree {before? after? after'? : Option Store} {sum sum' : Summary}
    (h : Accounted job result before? after? sum) (h' : Accounted job result before? after'? sum') :
    Agree sum sum' after? after'? := by
  obtain ⟨hfailed, hrows, hinserted⟩ := h.ascending
  obtain ⟨hfailed', hrows', hinserted'⟩ := h'.ascending
  refine ⟨h'.ok.trans h.ok.symm, ?_, ?_, ?_, fun t => (h'.tables t).trans (h.tables t).symm⟩
  · exact Assoc.eq_of_mem_iff hfailed' hfailed fun p => (h'.failed p).trans (h.failed p).symm
  · exact Assoc.eq_of_mem_iff hrows' hrows fun p => (h'.rows p).trans (h.rows p).symm
  · exact Assoc.eq_of_mem_iff hinserted' hinserted fun p =>
      (h'.inserted p).trans (h.inserted p).symm

/-- What a tool brings does not depend on the number of workers. -/
theorem Accounted.of_jobs {jobs : Nat} {before? after? : Option Store} {sum : Summary}
    (h : Accounted { job with jobs := jobs } result before? after? sum) :
    Accounted job result before? after? sum :=
  ⟨h.ok, h.ascending, h.failed, h.rows, h.inserted, h.tables⟩

/-- What an audit says and stores of a run of ESLint: its findings, where the row of each file
has the maintainability index that the complexity document states. -/
structure EslintStored (ctx : PathContext) (run : RunRecord) (before? after? : Option Store)
    (sum : Summary) : Prop where
  rows : sum.rows.find? Tool.eslint.name = some (Eslint.findings run ctx).length
  file_row : ∀ e ∈ Eslint.entriesOf run.document,
    ∃ f ∈ Eslint.findings run ctx, Eslint.IsFileRow ctx e f
  file_rows : ∀ f ∈ Eslint.findings run ctx, f.column? "row_type" = some (.str "file") →
    ∃ e ∈ Eslint.entriesOf run.document, Eslint.IsFileRow ctx e f
  table : tableOf? after? .eslint = before?.map fun s =>
    (s.rowsOf .eslint ++ s.newRows 0 (Eslint.findings run ctx)).map Row.unowned

/-- ESLint brings its findings, read with the complexity document of the audit. -/
theorem Accounted.eslint {before? after? : Option Store} {sum : Summary}
    (h : Accounted job result before? after? sum) (hbuiltin : job.analyzer = analyzerOf settings)
    {run : RunRecord} (htool : .eslint ∈ job.tools)
    (hverdict : verdict (job.analyzer .eslint) (result .eslint) = .ok run) :
    EslintStored (job.context (document job result) run) run before? after? sum := by
  have hbrings : harvest job result .eslint =
      .ok (Eslint.findings run (job.context (document job result) run)) := by
    rw [harvest, hverdict, hbuiltin]
    rfl
  refine ⟨?_, fun e he => Eslint.exists_isFileRow he,
    fun f hf hfile => Eslint.isFileRow_of_mem hf hfile, ?_⟩
  · exact (Assoc.find?_eq_some_iff h.ascending.2.1).mpr
      ((h.rows _).mpr ⟨.eslint, htool, _, hbrings, rfl⟩)
  · rw [h.tables .eslint]
    simp only [brought_of_ok htool hbrings]

/-- **Audits do not depend on the number of workers or on the order in which tools end.**  Of two
audits that were not to stop, met no error of the store and began with the same records, both come
to a summary, and they agree.  ESLint takes its maintainability indices from the report of radon in
both of them. -/
theorem results_independent {names : List String} (hresolve : resolveTools names = .ok job.tools)
    (hbuiltin : job.analyzer = analyzerOf settings) (hgoes : job.stopOnError = false) {jobs : Nat}
    {r : Records} {m m' : Moment} (hm : Reached job result r m)
    (hm' : Reached { job with jobs := jobs } result r m') (hdone : m.1.running = [])
    (hdone' : m'.1.running = []) (hstorage : ∀ e, m.1.outcome? ≠ some (.error (.storage e)))
    (hstorage' : ∀ e, m'.1.outcome? ≠ some (.error (.storage e))) :
    ∃ sum sum', m.1.outcome? = some (.ok sum) ∧ m'.1.outcome? = some (.ok sum') ∧
      Agree sum sum' m.2.store? m'.2.store? ∧
      ∀ run, .eslint ∈ job.tools → verdict (job.analyzer .eslint) (result .eslint) = .ok run →
        EslintStored (job.context (document job result) run) run r.store? m.2.store? sum := by
  have hnodup := nodup_of_resolveTools hresolve
  obtain ⟨sum, hsum, haccounted⟩ := hm.accounted hnodup hbuiltin hgoes hdone hstorage
  obtain ⟨sum', hsum', hjobs⟩ := hm'.accounted hnodup hbuiltin hgoes hdone' hstorage'
  have haccounted' : Accounted job result r.store? m'.2.store? sum' := hjobs.of_jobs
  refine ⟨sum, sum', hsum, hsum', haccounted.agree haccounted', ?_⟩
  intro run htool hverdict
  exact haccounted.eslint hbuiltin htool hverdict

/-! ## Two orders -/

namespace TwoOrders

/-- ESLint and radon run on one project. -/
def audit (jobs : Nat) : Job where
  target := "/p"
  anchor := "/p"
  tools := [.eslint, .radon]
  analyzer := analyzerOf {}
  jobs := jobs
  stopOnError := false
  mode := .perRow
  timestamp := "2026-01-01T00:00:00Z"

/-- A run that went well. -/
def report (t : Tool) (payload : Json) : RunRecord where
  tool := t.name
  cmd := [t.name]
  cwd := "/p"
  exitCode := 0
  duration := 0.5
  stdout := ""
  stderr := ""
  payload? := some payload

/-- What radon states for a file. -/
def index : Json := .obj [("mi", .num (.real 80.5)), ("rank", .str "A")]

/-- What ESLint states for the file. -/
def entry : Json :=
  .obj [("errorCount", .num (.int 0)), ("filePath", .str "/p/a.js"), ("messages", .arr []),
    ("warningCount", .num (.int 0))]

/-- The complexity document of radon. -/
def payload : Json := .obj [("mi", .obj [("/p/a.js", index)])]

/-- How the tools end. -/
def ending (t : Tool) : Execution :=
  if t = .radon then .ran (report .radon payload) else .ran (report .eslint (.arr [entry]))

/-- The records at the beginning. -/
def records : Records := ⟨some Store.empty.seed, []⟩

/-- One worker has ended ESLint, whose report waits for that of radon. -/
def waiting : Moment := deliver (audit 1) 7 .eslint (ending .eslint) (launch (audit 1) 3 records)

/-- Two workers have ended radon. -/
def ahead : Moment := deliver (audit 2) 5 .radon (ending .radon) (launch (audit 2) 3 records)

theorem reached_waiting : Reached (audit 1) ending records waiting :=
  .deliver 7 (.launch 3) (by decide)

theorem reached_ahead : Reached (audit 2) ending records ahead :=
  .deliver 5 (.launch 3) (by decide)

theorem equipped_seeded (jobs : Nat) : Equipped (launch (audit jobs) 3 records) :=
  equipped_launch (show (audit jobs).analyzer = analyzerOf {} from rfl) rfl (Store.complete_seed _) 3

/-- Radon ends as the last one. -/
def radonLast : Moment := deliver (audit 1) 9 .radon (ending .radon) waiting

/-- ESLint ends as the last one. -/
def eslintLast : Moment := deliver (audit 2) 8 .eslint (ending .eslint) ahead

theorem running_waiting : Tool.radon ∈ waiting.1.running ∧ waiting.1.load = 1 := by decide

theorem running_ahead : Tool.eslint ∈ ahead.1.running ∧ ahead.1.load = 1 := by decide

/-- What the reader of ESLint is told. -/
def ctx : PathContext := (audit 1).context (some payload) (report .eslint (.arr [entry]))

/-- The row of the file. -/
def fileRow : Finding :=
  Eslint.fileRow ctx (ctx.filePath "/p/a.js") (ctx.root ["/p/a.js"]) ⟨"/p/a.js", entry⟩

/-- The row that is stored for it. -/
def storedRow : Row := Row.ofFinding (Schema.tableOf .eslint) 0 fileRow.pk fileRow

theorem storedRow_mem_newRows :
    storedRow ∈ Store.empty.seed.newRows 0
      (Eslint.findings (report .eslint (.arr [entry])) ctx) := by
  have hfindings : Eslint.findings (report .eslint (.arr [entry])) ctx =
      [fileRow, Eslint.scanRow ctx (ctx.root ["/p/a.js"]) [⟨"/p/a.js", entry⟩]] := rfl
  refine Store.mem_newRows.mpr ⟨fileRow, Schema.tableOf .eslint, ?_, List.not_mem_nil, rfl, rfl⟩
  rw [hfindings, List.find?_cons_of_pos (by simp)]

theorem columns_fileRow : fileRow.column? "mi" = some (.num (.real 80.5)) ∧
    fileRow.column? "mi_rank" = some (.str "A") := by
  have hstates : Radon.States payload ctx.cwd? "/p/a.js" 80.5 (some "A") :=
    ⟨index, .num (.real 80.5), ⟨[], "/p/a.js", [], rfl, rfl, by simp⟩, rfl, .number _, rfl⟩
  have hrow := (Eslint.isFileRow ctx (ctx.root ["/p/a.js"]) ⟨"/p/a.js", entry⟩).stated payload
    80.5 (some "A") rfl hstates
  rwa [if_pos (by decide)] at hrow

/-- What the row shows of the file. -/
theorem cells_storedRow : storedRow.cell? "row_type" = some (.text "file") ∧
    (∃ x, storedRow.cell? "mi" = some (.real x) ∧ (80.5 == x) = true) ∧
    storedRow.cell? "mi_rank" = some (.text "A") := by
  have hshows : storedRow.ShowsFields fileRow := Row.showsFields_ofFinding ..
  have htype : fileRow.fields.find? "row_type" = some (.str "file") :=
    (Eslint.isFileRow ctx (ctx.root ["/p/a.js"]) ⟨"/p/a.js", entry⟩).row_type
  obtain ⟨hmi, hrank⟩ := columns_fileRow
  refine ⟨?_, ?_, ?_⟩
  · obtain ⟨cell, hcell, hcellShows⟩ := hshows.exists_cell? (c := ⟨"row_type", .text⟩) (by decide)
    rw [htype] at hcellShows
    rw [hcell, hcellShows.eq_text]
  · obtain ⟨cell, hcell, hcellShows⟩ := hshows.exists_cell? (c := ⟨"mi", .real⟩) (by decide)
    rw [show fileRow.fields.find? "mi" = _ from hmi] at hcellShows
    obtain ⟨x, rfl, hx⟩ := hcellShows.exists_real (by decide)
    exact ⟨x, hcell, hx⟩
  · obtain ⟨cell, hcell, hcellShows⟩ := hshows.exists_cell? (c := ⟨"mi_rank", .text⟩) (by decide)
    rw [show fileRow.fields.find? "mi_rank" = _ from hrank] at hcellShows
    rw [hcell, hcellShows.eq_text]

/-- One worker and two, of which the second ends the tools in the other order: the report of ESLint
waits for that of radon, or finds it there.  In both tables the row of the one file has the index
and the rank that radon states for it. -/
theorem results_independent_of_two_orders :
    resolveTools ["eslint", "radon"] = .ok (audit 1).tools ∧
      Reached (audit 1) ending records radonLast ∧ Reached (audit 2) ending records eslintLast ∧
      ∃ sum sum', radonLast.1.outcome? = some (.ok sum) ∧ eslintLast.1.outcome? = some (.ok sum') ∧
        Agree sum sum' radonLast.2.store? eslintLast.2.store? ∧
        (∀ run, .eslint ∈ (audit 1).tools →
          verdict ((audit 1).analyzer .eslint) (ending .eslint) = .ok run →
          EslintStored ((audit 1).context (Audit.document (audit 1) ending) run) run records.store?
            radonLast.2.store? sum) ∧
        ∃ rows, tableOf? radonLast.2.store? .eslint = some rows ∧
          tableOf? eslintLast.2.store? .eslint = some rows ∧
          ∃ row ∈ rows, row.cell? "row_type" = some (.text "file") ∧
            (∃ x, row.cell? "mi" = some (.real x) ∧ (80.5 == x) = true) ∧
            row.cell? "mi_rank" = some (.text "A") := by
  have hresolve : resolveTools ["eslint", "radon"] = .ok (audit 1).tools := by decide
  have hm : Reached (audit 1) ending records radonLast :=
    reached_waiting.deliver 9 running_waiting.1
  have hm' : Reached (audit 2) ending records eslintLast := reached_ahead.deliver 8 running_ahead.1
  have hdone : radonLast.1.running = [] := by
    rw [radonLast]
    exact reached_waiting.running_deliver_eq_nil 9 running_waiting.1 running_waiting.2
  have hdone' : eslintLast.1.running = [] := by
    rw [eslintLast]
    exact reached_ahead.running_deliver_eq_nil 8 running_ahead.1 running_ahead.2
  have hequipped : Equipped radonLast :=
    ((equipped_seeded 1).deliver rfl 7 .eslint (ending .eslint)).deliver rfl 9 .radon
      (ending .radon)
  have hequipped' : Equipped eslintLast :=
    ((equipped_seeded 2).deliver rfl 5 .radon (ending .radon)).deliver rfl 8 .eslint
      (ending .eslint)
  obtain ⟨sum, sum', hsum, hsum', hagree, heslint⟩ := results_independent hresolve rfl rfl hm hm'
    hdone hdone' hequipped.fine hequipped'.fine
  have hdocument : Audit.document (audit 1) ending = some payload := rfl
  have htable := (heslint (report .eslint (.arr [entry])) (by decide) rfl).table
  rw [hdocument] at htable
  change _ = some ((Store.empty.seed.rowsOf .eslint ++ Store.empty.seed.newRows 0
    (Eslint.findings (report .eslint (.arr [entry])) ctx)).map Row.unowned) at htable
  refine ⟨hresolve, hm, hm', sum, sum', hsum, hsum', hagree, heslint, _, htable,
    (hagree.tables .eslint).trans htable, storedRow, ?_, cells_storedRow⟩
  exact List.mem_map.mpr ⟨storedRow, List.mem_append_right _ storedRow_mem_newRows,
    Row.unowned_ofFinding ..⟩

end TwoOrders

end LintLedger.Audit
