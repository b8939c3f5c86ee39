import LintLedger.Proofs.Store.Reachable

/-!
# Stores filled from a stock

Several audits write their batches of findings in an order that nobody knows, and more than once
perhaps.  What they leave is told by the stock of batches alone: every key of the stock has its row,
and every row that is new is one that the stock asks for.  Two stores that were filled from one
stock differ in the scans that brought the rows, and in nothing else.

A scan whose findings are all for one table touches that table only, and what it brings there
depends on that table only.  Scans of different tables can therefore be written in any order:
the rows are the same but for the scans that own them.

## Main Definitions

* `Row.unowned` -- a row, whichever scan brought it
* `Store.Complete` -- every table of the schema exists
* `Store.Stock` -- batches of findings
* `Store.Drawn` -- all that was added to a store comes from a stock
* `Store.Supplied` -- every finding of a stock has its key in a store
* `Store.Stock.Consistent` -- what a stock asks for under one key is one row

## Main Statements

* `Store.rowsOf_written_of_ne` -- the tables of other tools are as they were
* `Store.unowned_newRows_of_rowsOf` -- what a scan brings depends on its own table only
* `Store.Reachable.complete_or_eq_empty` -- the tables of reachable stores
* `Store.Drawn.persist` -- writing a batch of the stock
* `Store.Drawn.rows_perm` -- two stores filled from one stock
-/

namespace LintLedger

/-- A row, whichever scan brought it. -/
def Row.unowned (r : Row) : Row := { r with owner := 0 }

/-- The key of a row does not depend on its owner. -/
@[simp] theorem Row.key_unowned (r : Row) : r.unowned.key = r.key := rfl

theorem Row.unowned_ofFinding (table : Schema.Table) (pk : String) (f : Finding) :
    (Row.ofFinding table 0 pk f).unowned = Row.ofFinding table 0 pk f := rfl

namespace Store

/-! ## Scans and single tables -/

section Tables

variable {s s' : Store} {findings : List Finding} {tool : Tool}

/-- Whoever owns it, a finding becomes the same row. -/
theorem Keyed.unowned_row? (owner owner' : Int) (k : Keyed) :
    (k.row? owner).map Row.unowned = (k.row? owner').map Row.unowned := by
  unfold Keyed.row?
  cases Schema.table? k.finding.table <;> rfl

/-- Of rows with the same keys the same are kept, if the same keys are taken. -/
theorem unowned_filter_rows {kept : List Keyed} (owner owner' : Int)
    (h : ∀ k ∈ kept, k.key ∈ s.keys ↔ k.key ∈ s'.keys) :
    ((kept.filterMap (Keyed.row? owner)).filter fun r => !s.keys.contains r.key).map
        Row.unowned =
      ((kept.filterMap (Keyed.row? owner')).filter fun r => !s'.keys.contains r.key).map
        Row.unowned := by
  induction kept with
  | nil => rfl
  | cons k rest ih =>
    have hrest := ih fun j hj => h j (List.mem_cons_of_mem _ hj)
    have hsame := k.unowned_row? owner owner'
    rw [List.filterMap_cons, List.filterMap_cons]
    cases hrow : k.row? owner with
    | none =>
      rw [hrow, Option.map_none, eq_comm, Option.map_eq_none_iff] at hsame
      rw [hsame]
      exact hrest
    | some r =>
      rw [hrow, Option.map_some, eq_comm] at hsame
      obtain ⟨r', hrow', hunowned⟩ := Option.map_eq_some_iff.mp hsame
      have hkey : r.key ∈ s.keys ↔ r'.key ∈ s'.keys := by
        rw [Keyed.key_of_row?_eq_some hrow, Keyed.key_of_row?_eq_some hrow']
        exact h k List.mem_cons_self
      rw [hrow']
      dsimp only
      by_cases htaken : r.key ∈ s.keys
      · rw [List.filter_cons_of_neg (by simpa using htaken),
          List.filter_cons_of_neg (by simpa using hkey.mp htaken)]
        exact hrest
      · rw [List.filter_cons_of_pos (by simpa using htaken),
          List.filter_cons_of_pos (by simpa using fun h' => htaken (hkey.mpr h')),
          List.map_cons, List.map_cons, hunowned, hrest]

/-- What a scan brings depends on the taken keys of its findings only. -/
theorem unowned_newRows (owner owner' : Int)
    (h : ∀ f ∈ findings, f.key ∈ s.keys ↔ f.key ∈ s'.keys) :
    (s.newRows owner findings).map Row.unowned = (s'.newRows owner' findings).map Row.unowned := by
  refine unowned_filter_rows owner owner' fun k hk => ?_
  have hmem := (flatMap_byTable_perm _).mem_iff.mp hk
  obtain ⟨hpk, hfind⟩ := mem_firstOfIdentity.mp hmem
  have hkey : k.key = k.finding.key := by rw [Keyed.key, Finding.key, hpk]
  rw [hkey]
  exact h k.finding (List.mem_of_find?_eq_some hfind)

/-- The keys of a table are those of its rows. -/
theorem mem_keys_of_table {pk : String} :
    (tool.tableName, pk) ∈ s.keys ↔ ∃ r ∈ s.rowsOf tool, r.pk = pk := by
  simp only [keys, rowsOf, List.mem_map, List.mem_filter, Row.key, Prod.mk.injEq, beq_iff_eq,
    Tool.tableName_injective.eq_iff]
  tauto

/-- **What a scan brings depends on its own table only.** -/
theorem unowned_newRows_of_rowsOf (htable : ∀ f ∈ findings, f.table = tool.tableName)
    (h : s.rowsOf tool = s'.rowsOf tool) (owner owner' : Int) :
    (s.newRows owner findings).map Row.unowned = (s'.newRows owner' findings).map Row.unowned := by
  refine unowned_newRows owner owner' fun f hf => ?_
  rw [Finding.key, htable f hf, mem_keys_of_table, mem_keys_of_table, h]

/-- The new rows of findings for one table are rows of that table. -/
theorem tool_of_mem_newRows (htable : ∀ f ∈ findings, f.table = tool.tableName) {owner : Int}
    {r : Row} (hr : r ∈ s.newRows owner findings) : r.tool = tool := by
  obtain ⟨f, table, hfind, -, hknown, rfl⟩ := mem_newRows.mp hr
  rw [htable f (List.mem_of_find?_eq_some hfind), Schema.table?_tableName] at hknown
  cases hknown
  rfl

/-- A scan adds its new rows to its own table. -/
theorem rowsOf_written_self (htable : ∀ f ∈ findings, f.table = tool.tableName)
    (info : ScanInfo) :
    (s.written info findings).rowsOf tool =
      s.rowsOf tool ++ s.newRows (s.lastId + 1) findings := by
  have hnew : (s.newRows (s.lastId + 1) findings).filter (fun r => r.tool == tool) =
      s.newRows (s.lastId + 1) findings := by
    refine List.filter_eq_self.mpr fun r hr => ?_
    rw [tool_of_mem_newRows htable hr, beq_self_eq_true]
  rw [rowsOf, written, List.filter_append, hnew, rowsOf]

/-- **The other tables are as they were.** -/
theorem rowsOf_written_of_ne (htable : ∀ f ∈ findings, f.table = tool.tableName) {t : Tool}
    (hne : t ≠ tool) (info : ScanInfo) :
    (s.written info findings).rowsOf t = s.rowsOf t := by
  have hnone : (s.newRows (s.lastId + 1) findings).filter (fun r => r.tool == t) = [] := by
    refine List.filter_eq_nil_iff.mpr fun r hr => ?_
    rw [tool_of_mem_newRows htable hr, beq_iff_eq]
    exact hne.symm
  rw [rowsOf, written, List.filter_append, hnone, List.append_nil, rowsOf]

end Tables

/-! ## Complete stores -/

/-- Every table of the schema exists. -/
def Complete (s : Store) : Prop := ∀ name ∈ schemaNames, s.hasTable name = true

theorem complete_seed (s : Store) : s.seed.Complete := by
  intro name hname
  by_cases hold : name ∈ s.tableNames
  · simp [hasTable, seed, hold]
  · simp [hasTable, seed, hold, hname]

/-- There is nothing to create in a complete store. -/
theorem Complete.seed_eq {s : Store} (h : s.Complete) : s.seed = s := by
  have hnone : schemaNames.filter (fun name => !s.tableNames.contains name) = [] := by
    rw [List.filter_eq_nil_iff]
    intro name hname
    simpa [hasTable] using h name hname
  rw [seed, hnone, List.append_nil]

/-- A complete store takes findings of any table that a tool has. -/
theorem Complete.writable {s : Store} (h : s.Complete) {findings : List Finding}
    (hknown : ∀ f ∈ findings, (Schema.table? f.table).isSome) : s.Writable findings := by
  refine ⟨h _ List.mem_cons_self, fun f hf => ⟨hknown f hf, h _ (List.mem_cons_of_mem _ ?_)⟩⟩
  obtain ⟨table, htable⟩ := Option.isSome_iff_exists.mp (hknown f hf)
  rw [← Schema.name_of_table?_eq_some htable]
  exact List.mem_map_of_mem (List.mem_of_find?_eq_some htable)

/-- Completeness is a matter of the tables alone. -/
theorem Complete.of_tableNames_eq {s s' : Store} (h : s.Complete)
    (hnames : s'.tableNames = s.tableNames) : s'.Complete := by
  intro name hname
  rw [hasTable, hnames]
  exact h name hname

theorem tableNames_persist (s : Store) (mode : InsertMode) (info : ScanInfo)
    (findings : List Finding) : (s.persist mode info findings).1.tableNames = s.tableNames := by
  rcases hresult : s.persist mode info findings with ⟨s', answer | answer⟩
  · rw [persist_eq_self_of_error hresult]
  · rw [← hresult, persist_eq_of_writable (writable_of_persist_eq_ok hresult)]
    rfl

theorem tableNames_removeScans (s : Store) (gone : Scan → Bool) :
    (s.removeScans gone).1.tableNames = s.tableNames := by
  rw [removeScans]
  split <;> rfl

/-- **A reachable store is complete**, unless nothing was ever created in it. -/
theorem Reachable.complete_or_eq_empty {s : Store} (h : Reachable s) :
    s.Complete ∨ s = Store.empty := by
  induction h with
  | empty => exact .inr rfl
  | seed _ _ => exact .inl (complete_seed _)
  | persist mode info findings _ ih =>
    rcases ih with hcomplete | rfl
    · exact .inl (hcomplete.of_tableNames_eq (tableNames_persist _ mode info findings))
    · exact .inr rfl
  | deleteScan id _ ih =>
    rcases ih with hcomplete | rfl
    · exact .inl (hcomplete.of_tableNames_eq (tableNames_removeScans _ _))
    · exact .inr rfl
  | pruneBefore timestamp _ ih =>
    rcases ih with hcomplete | rfl
    · exact .inl (hcomplete.of_tableNames_eq (tableNames_removeScans _ _))
    · exact .inr rfl

/-! ## What a stock asks for -/

/-- Batches of findings, each as one scan brings it. -/
abbrev Stock := Set (List Finding)

/-- A row that a stock asks for: that of the first finding with its key in a batch, whichever scan
brings it. -/
def Stock.Asks (stock : Stock) (r : Row) : Prop :=
  ∃ batch ∈ stock, ∃ f table, batch.find? (fun g => g.key = f.key) = some f ∧
    Schema.table? f.table = some table ∧ r.unowned = Row.ofFinding table 0 f.pk f

/-- What a stock asks for under one key is one row. -/
def Stock.Consistent (stock : Stock) : Prop :=
  ∀ r r', stock.Asks r → stock.Asks r' → r.key = r'.key → r.unowned = r'.unowned

theorem Stock.Asks.mono {stock larger : Stock} (h : stock ⊆ larger) {r : Row}
    (hr : stock.Asks r) : larger.Asks r := by
  obtain ⟨batch, hbatch, hfirst⟩ := hr
  exact ⟨batch, h hbatch, hfirst⟩

/-- A row that a stock asks for has the key of one of its findings. -/
theorem Stock.Asks.exists_key {stock : Stock} {r : Row} (h : stock.Asks r) :
    ∃ batch ∈ stock, ∃ f ∈ batch, f.key = r.key := by
  obtain ⟨batch, hbatch, f, table, hfirst, htable, hrow⟩ := h
  refine ⟨batch, hbatch, f, List.mem_of_find?_eq_some hfirst, ?_⟩
  rw [← r.key_unowned, hrow, (Row.shows_ofFinding htable _).key_eq]

/-- Every finding of a stock has its key in a store. -/
def Supplied (stock : Stock) (s : Store) : Prop :=
  ∀ batch ∈ stock, ∀ f ∈ batch, f.key ∈ s.keys

/-! ## Stores that were added to -/

/-- All that was added to a store comes from a stock. -/
structure Drawn (stock : Stock) (before after : Store) : Prop where
  tableNames : after.tableNames = before.tableNames
  rows : ∃ added, after.rows = before.rows ++ added ∧ ∀ r ∈ added, stock.Asks r
  nodup : before.keys.Nodup → after.keys.Nodup

namespace Drawn

variable {stock : Stock} {before between after : Store}

theorem refl (stock : Stock) (s : Store) : Drawn stock s s :=
  ⟨rfl, ⟨[], by simp, by simp⟩, id⟩

theorem trans (first : Drawn stock before between) (second : Drawn stock between after) :
    Drawn stock before after := by
  obtain ⟨added, hadded, hasked⟩ := first.rows
  obtain ⟨more, hmore, hasked'⟩ := second.rows
  refine ⟨second.tableNames.trans first.tableNames, ⟨added ++ more, ?_, fun r hr => ?_⟩,
    second.nodup ∘ first.nodup⟩
  · rw [hmore, hadded, List.append_assoc]
  · exact (List.mem_append.mp hr).elim (hasked r) (hasked' r)

theorem mono {larger : Stock} (h : stock ⊆ larger) (drawn : Drawn stock before after) :
    Drawn larger before after := by
  obtain ⟨added, hadded, hasked⟩ := drawn.rows
  exact ⟨drawn.tableNames, ⟨added, hadded, fun r hr => (hasked r hr).mono h⟩, drawn.nodup⟩

theorem complete (drawn : Drawn stock before after) (h : before.Complete) : after.Complete := by
  intro name hname
  rw [hasTable, drawn.tableNames]
  exact h name hname

theorem keys_subset (drawn : Drawn stock before after) : before.keys ⊆ after.keys := by
  obtain ⟨added, hadded, -⟩ := drawn.rows
  rw [keys, keys, hadded, List.map_append]
  exact List.subset_append_left _ _

theorem supplied {needed : Stock} (drawn : Drawn stock before after)
    (h : before.Supplied needed) : after.Supplied needed :=
  fun batch hbatch f hf => drawn.keys_subset (h batch hbatch f hf)

/-- **Writing a batch of the stock** to a complete store succeeds; what is added comes from the
stock, and the findings of the batch have their keys in the store. -/
theorem persist {s : Store} (hcomplete : s.Complete) {batch : List Finding}
    (hknown : ∀ f ∈ batch, (Schema.table? f.table).isSome) (hbatch : batch ∈ stock)
    (mode : InsertMode) (info : ScanInfo) :
    (∃ answer, (s.persist mode info batch).2 = .ok answer) ∧
      Drawn stock s (s.persist mode info batch).1 ∧
      (s.persist mode info batch).1.Supplied {batch} := by
  have hwritable := hcomplete.writable hknown
  refine ⟨⟨_, congrArg Prod.snd (persist_eq_of_writable hwritable mode info)⟩, ?_, ?_⟩
  · rw [persist_eq_of_writable hwritable]
    refine ⟨rfl, ⟨_, rfl, fun r hr => ?_⟩, fun hnodup => ?_⟩
    · obtain ⟨f, table, hfirst, -, htable, rfl⟩ := mem_newRows.mp hr
      exact ⟨batch, hbatch, f, table, hfirst, htable, rfl⟩
    · rw [keys_written]
      refine hnodup.append (nodup_keys_newRows s _ batch) fun key hold hnew => ?_
      obtain ⟨r, hr, rfl⟩ := List.mem_map.mp hnew
      exact key_notMem_of_mem_newRows hr hold
  · rintro _ rfl f hf
    obtain ⟨r, hr, hkey⟩ := exists_row_of_mem hwritable mode info hf
    exact hkey ▸ List.mem_map_of_mem hr

end Drawn

/-! ## Two stores filled from one stock -/

/-- Rows whose keys are distinct stay distinct without their owners. -/
theorem nodup_unowned {s : Store} (h : s.keys.Nodup) : (s.rows.map Row.unowned).Nodup := by
  have hkeys : (s.rows.map Row.unowned).map Row.key = s.keys := by
    rw [List.map_map]
    rfl
  exact List.Nodup.of_map Row.key (hkeys.symm ▸ h)

/-- What one store filled from a stock holds, any other that was filled from it holds too. -/
theorem Drawn.unowned_subset {stock : Stock} {before after after' : Store}
    (drawn : Drawn stock before after) (drawn' : Drawn stock before after')
    (hnodup : before.keys.Nodup) (hsupplied : after'.Supplied stock)
    (hconsistent : stock.Consistent) :
    after.rows.map Row.unowned ⊆ after'.rows.map Row.unowned := by
  obtain ⟨added, hadded, hasked⟩ := drawn.rows
  obtain ⟨added', hadded', hasked'⟩ := drawn'.rows
  have hold : ∀ r ∈ before.rows, r.unowned ∈ after'.rows.map Row.unowned := fun r hr =>
    List.mem_map_of_mem (hadded' ▸ List.mem_append_left _ hr)
  intro u hu
  obtain ⟨r, hr, rfl⟩ := List.mem_map.mp hu
  rw [hadded] at hr
  rcases List.mem_append.mp hr with hr | hr
  · exact hold r hr
  -- the row is new: the other store has a row under its key, which is old or asked for as well
  obtain ⟨batch, hbatch, f, hf, hkey⟩ := (hasked r hr).exists_key
  obtain ⟨r', hr', hsame⟩ := List.mem_map.mp (hsupplied batch hbatch f hf)
  rw [hkey] at hsame
  rw [hadded'] at hr'
  rcases List.mem_append.mp hr' with hr' | hr'
  · have hdistinct := drawn.nodup hnodup
    rw [keys, hadded] at hdistinct
    obtain rfl : r' = r := List.inj_on_of_nodup_map hdistinct
      (List.mem_append_left _ hr') (List.mem_append_right _ hr) hsame
    exact hold r' hr'
  · rw [← hconsistent r' r (hasked' r' hr') (hasked r hr) hsame]
    exact List.mem_map_of_mem (hadded' ▸ List.mem_append_right _ hr')

/-- **Two stores filled from one stock** hold the same rows, apart from the scans that brought
them. -/
theorem Drawn.rows_perm {stock : Stock} {before after after' : Store}
    (drawn : Drawn stock before after) (drawn' : Drawn stock before after')
    (hnodup : before.keys.Nodup) (hsupplied : after.Supplied stock)
    (hsupplied' : after'.Supplied stock) (hconsistent : stock.Consistent) :
    (after.rows.map Row.unowned).Perm (after'.rows.map Row.unowned) := by
  rw [List.perm_ext_iff_of_nodup (nodup_unowned (drawn.nodup hnodup))
    (nodup_unowned (drawn'.nodup hnodup))]
  exact fun r => ⟨fun hr => drawn.unowned_subset drawn' hnodup hsupplied' hconsistent hr,
    fun hr => drawn'.unowned_subset drawn hnodup hsupplied hconsistent hr⟩

end Store

end LintLedger
