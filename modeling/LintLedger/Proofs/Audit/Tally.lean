import LintLedger.Proofs.Audit.Standing
import LintLedger.Proofs.Data.Assoc

/-!
# What a summary says of a history

The summary of an audit is written while tools end and reports are read.  At any moment it says
the same as the history of the audit: one entry for each deed that brought one.

## Main Definitions

* `Audit.Deed.rows?`, `Audit.Deed.inserted?`, `Audit.Deed.failed?` -- the entries that a deed makes
* `Audit.Tallied` -- a summary says the same as a history

## Main Statements

* `Audit.Steps.tallied` -- summaries say the same as histories
-/

namespace LintLedger

namespace Audit

variable {job : Job} {result : Tool → Execution}

/-! ## Entries -/

namespace Deed

/-- The tool whose findings a deed took. -/
def ok? : Deed → Option String
  | .stored t _ _ _ => some t.name
  | _ => none

/-- The number of findings that a deed took. -/
def rows? : Deed → Option (String × Nat)
  | .stored t _ findings _ => some (t.name, findings.length)
  | _ => none

/-- The number of findings that a deed took and that were new. -/
def inserted? : Deed → Option (String × Nat)
  | .stored t _ _ inserted => some (t.name, inserted)
  | _ => none

/-- The failure of a tool by its name. -/
def failed? (d : Deed) : Option (String × ToolFailure) :=
  d.failure?.map fun failure => (d.tool.name, failure)

end Deed

/-- The entries that a history makes in one of the maps of a summary. -/
structure Entries {α : Type} (field? : Deed → Option (String × α)) (history : List Deed)
    (m : Assoc α) : Prop where
  ascending : m.Ascending
  perm : m.Perm (history.filterMap field?)

namespace Entries

variable {α : Type} {field? : Deed → Option (String × α)} {history : List Deed} {m : Assoc α}

theorem nil : Entries field? [] [] := ⟨Assoc.ascending_nil, List.Perm.refl _⟩

/-- A deed without an entry changes nothing. -/
theorem snoc_none (h : Entries field? history m) {d : Deed} (hd : field? d = none) :
    Entries field? (history ++ [d]) m := by
  refine ⟨h.ascending, ?_⟩
  rw [List.filterMap_append, List.filterMap_cons_none hd, List.filterMap_nil, List.append_nil]
  exact h.perm

/-- The entry of a deed is added, if there was none for its tool. -/
theorem snoc_some (h : Entries field? history m) {d : Deed} {name : String} {v : α}
    (hd : field? d = some (name, v)) (hnew : name ∉ m.keys) :
    Entries field? (history ++ [d]) (m.insert name v) := by
  refine ⟨Assoc.ascending_insert h.ascending, ?_⟩
  have hfront : ((name, v) :: m).Perm ((name, v) :: history.filterMap field?) := h.perm.cons _
  rw [List.filterMap_append, List.filterMap_cons_some hd, List.filterMap_nil]
  exact ((Assoc.insert_perm_cons hnew).trans hfront).trans (List.perm_append_singleton _ _).symm

/-- A tool about which no deed has an entry has none in the map. -/
theorem notMem_keys (h : Entries field? history m)
    (hnamed : ∀ d p, field? d = some p → p.1 = d.tool.name) {tool : Tool}
    (hnone : ∀ d ∈ about tool history, field? d = none) : tool.name ∉ m.keys := by
  intro hmem
  obtain ⟨p, hp, hname⟩ := List.mem_map.mp hmem
  obtain ⟨d, hd, hentry⟩ := List.mem_filterMap.mp (h.perm.mem_iff.mp hp)
  have htool : d.tool = tool := Tool.name_injective ((hnamed d p hentry).symm.trans hname)
  rw [hnone d (mem_about.mpr ⟨hd, htool⟩)] at hentry
  cases hentry

/-- A map with an entry for each tool whose findings were taken has these tools as its keys. -/
theorem keys_perm (h : Entries field? history m) (hkeys : ∀ d, (field? d).map Prod.fst = d.ok?) :
    m.keys.Perm (history.filterMap Deed.ok?) := by
  have hperm := h.perm.map Prod.fst
  rw [List.map_filterMap] at hperm
  exact hperm.trans (List.Perm.of_eq (List.filterMap_congr fun d _ => hkeys d))

end Entries

theorem Deed.map_fst_rows? (d : Deed) : d.rows?.map Prod.fst = d.ok? := by
  cases d <;> rfl

theorem Deed.map_fst_inserted? (d : Deed) : d.inserted?.map Prod.fst = d.ok? := by
  cases d <;> rfl

/-- Deeds that took no findings have no entry in the maps of counts. -/
theorem Deed.eq_none_of_ok? {α : Type} {field? : Deed → Option (String × α)}
    (hkeys : ∀ d, (field? d).map Prod.fst = d.ok?) {d : Deed} (h : d.ok? = none) :
    field? d = none :=
  Option.map_eq_none_iff.mp ((hkeys d).trans h)

theorem Deed.name_of_rows? (d : Deed) (p : String × Nat) (h : d.rows? = some p) :
    p.1 = d.tool.name := by
  cases d <;> cases h
  rfl

theorem Deed.name_of_inserted? (d : Deed) (p : String × Nat) (h : d.inserted? = some p) :
    p.1 = d.tool.name := by
  cases d <;> cases h
  rfl

theorem Deed.name_of_failed? (d : Deed) (p : String × ToolFailure) (h : d.failed? = some p) :
    p.1 = d.tool.name := by
  obtain ⟨failure, -, rfl⟩ := Option.map_eq_some_iff.mp h
  rfl

/-! ## Summaries -/

/-- A summary says the same as a history. -/
structure Tallied (job : Job) (history : List Deed) (sum : Summary) : Prop where
  requested : sum.requested = job.tools.map Tool.name
  ok : sum.ok = history.filterMap Deed.ok?
  failed : Entries Deed.failed? history sum.failed
  rows : Entries Deed.rows? history sum.rows
  inserted : Entries Deed.inserted? history sum.inserted

/-- The time of a tool is an entry of its own. -/
theorem Tallied.timed {history : List Deed} {sum : Summary} (tallied : Tallied job history sum)
    (tool : Tool) (res : Execution) : Tallied job history (timed tool res sum) := by
  obtain ⟨hrequested, hok, hfailed, hrows, hinserted⟩ := tallied
  cases res <;> exact ⟨hrequested, hok, hfailed, hrows, hinserted⟩

/-- A deed that is no entry leaves the summary as it is. -/
theorem Tallied.snoc_none {history : List Deed} {sum : Summary}
    (tallied : Tallied job history sum) {d : Deed} (hok : d.ok? = none) (hfailed : d.failed? = none)
    (hrows : d.rows? = none) (hinserted : d.inserted? = none) :
    Tallied job (history ++ [d]) sum where
  requested := tallied.requested
  ok := by
    rw [List.filterMap_append, List.filterMap_cons_none hok, List.filterMap_nil, List.append_nil]
    exact tallied.ok
  failed := tallied.failed.snoc_none hfailed
  rows := tallied.rows.snoc_none hrows
  inserted := tallied.inserted.snoc_none hinserted

/-- The failure of a tool is one entry, if the tool has none. -/
theorem Tallied.addFailure {history : List Deed} {sum : Summary}
    (tallied : Tallied job history sum) {d : Deed} {failure : ToolFailure}
    (hd : d.failure? = some failure)
    (hnone : ∀ e ∈ about d.tool history, e.failure? = none) :
    Tallied job (history ++ [d]) (sum.addFailure d.tool failure) where
  requested := tallied.requested
  ok := by
    have hok : d.ok? = none := by cases d <;> first | rfl | cases hd
    rw [List.filterMap_append, List.filterMap_cons_none hok, List.filterMap_nil, List.append_nil]
    exact tallied.ok
  failed := by
    refine tallied.failed.snoc_some ?_ (tallied.failed.notMem_keys Deed.name_of_failed? ?_)
    · rw [Deed.failed?, hd, Option.map_some]
    · intro e he
      rw [Deed.failed?, hnone e he, Option.map_none]
  rows := tallied.rows.snoc_none (by cases d <;> first | rfl | cases hd)
  inserted := tallied.inserted.snoc_none (by cases d <;> first | rfl | cases hd)

/-- The findings of a tool are one entry in each map, if the tool has none. -/
theorem Tallied.addResult {history : List Deed} {sum : Summary}
    (tallied : Tallied job history sum) {tool : Tool} {run : RunRecord} {findings : List Finding}
    {inserted : Nat} (hnone : ∀ e ∈ about tool history, e.ok? = none) :
    Tallied job (history ++ [.stored tool run findings inserted])
      (sum.addResult tool findings.length inserted) where
  requested := tallied.requested
  ok := by
    rw [List.filterMap_append]
    exact congrArg (· ++ [tool.name]) tallied.ok
  failed := tallied.failed.snoc_none rfl
  rows := by
    refine tallied.rows.snoc_some rfl (tallied.rows.notMem_keys Deed.name_of_rows? ?_)
    exact fun e he => Deed.eq_none_of_ok? Deed.map_fst_rows? (hnone e he)
  inserted := by
    refine tallied.inserted.snoc_some rfl
      (tallied.inserted.notMem_keys Deed.name_of_inserted? ?_)
    exact fun e he => Deed.eq_none_of_ok? Deed.map_fst_inserted? (hnone e he)

/-- **A deed and its summary** say the same again. -/
theorem Tallied.step {s s' : State} {history : List Deed} {d : Deed}
    (tallied : Tallied job history s.summary) (tracked : Tracked job result history s)
    (step : Step job result s d s') : Tallied job (history ++ [d]) s'.summary := by
  cases step with
  | start => exact tallied.snoc_none rfl rfl rfl rfl
  | finish =>
    simp only [State.ended_summary]
    exact (tallied.timed _ _).snoc_none rfl rfl rfl rfl
  | @breakOff tool failure _ hrunning =>
    simp only [State.failed_summary, State.ended_summary]
    obtain ⟨-, hone⟩ := tracked.of_running hrunning
    refine (tallied.timed tool (result tool)).addFailure rfl ?_
    simp [Deed.tool, hone, Deed.failure?]
  | @refuse tool run fault front back _ hdeferred =>
    obtain ⟨-, htwo, -⟩ := tracked.of_deferred hdeferred
    refine tallied.addFailure rfl ?_
    simp [Deed.tool, htwo, Deed.failure?]
  | @store tool run findings inserted front back _ hdeferred =>
    obtain ⟨-, htwo, -⟩ := tracked.of_deferred hdeferred
    refine tallied.addResult ?_
    simp [htwo, Deed.ok?]
  | cancel => exact tallied.snoc_none rfl rfl rfl rfl
  | discard => exact tallied.snoc_none rfl rfl rfl rfl

/-- **Summaries say the same as histories**, if no tool is asked for twice. -/
theorem Steps.tallied (hnodup : job.tools.Nodup) {now : Nat} {s : State} {history : List Deed}
    (steps : Steps job result (initial job now) history s) : Tallied job history s.summary := by
  induction steps with
  | nil => exact ⟨rfl, rfl, .nil, .nil, .nil⟩
  | snoc before step ih => exact ih.step (before.tracked hnodup) step

end Audit

end LintLedger
