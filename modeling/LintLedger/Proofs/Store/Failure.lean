import LintLedger.Proofs.Store.History
import Mathlib.Data.Finset.Max

/-!
# Scans that could not be written

Writing a scan inserts the scan first and then the findings, table by table in the order of the
tables' names.  It fails at the first table that is not there.  This module says how far it got
by then, and that nothing of it is left.

## Main Definitions

* `Store.Gap` -- the first table that findings need and that is not there

## Main Statements

* `Store.persistSteps_eq_of_gap` -- how far a scan gets that fails at a table
* `Store.persist_fails_iff` -- when a scan cannot be written
* `Store.persist_failed` -- a scan that could not be written left no trace
-/

namespace LintLedger

/-! ## Tables before a name -/

namespace Assoc

variable {α : Type}

/-- A change shows in a part of a map, chosen by keys, exactly if its key was chosen. -/
theorem filter_modify {m : Assoc α} (h : m.Ascending) (chosen : String → Bool) (k : String)
    (f : Option α → α) :
    (m.modify k f).filter (fun p => chosen p.1) =
      if chosen k then modify k f (m.filter fun p => chosen p.1)
      else m.filter fun p => chosen p.1 := by
  have hin (p : String × α) (xs : Assoc α) (hp : chosen p.1) :
      (p :: xs).filter (fun p => chosen p.1) = p :: xs.filter fun p => chosen p.1 :=
    List.filter_cons_of_pos hp
  have hout (p : String × α) (xs : Assoc α) (hp : ¬chosen p.1) :
      (p :: xs).filter (fun p => chosen p.1) = xs.filter fun p => chosen p.1 :=
    List.filter_cons_of_neg hp
  induction m with
  | nil =>
    rw [modify_nil]
    cases hk : chosen k <;> simp [hk, modify_nil]
  | cons p rest ih =>
    obtain ⟨k', v⟩ := p
    obtain ⟨hlt, hrest⟩ := ascending_cons.mp h
    rcases lt_trichotomy k k' with hkk | rfl | hkk
    · rw [modify_cons_of_lt h hkk]
      by_cases hk : chosen k
      · rw [if_pos hk, hin _ _ hk]
        -- `k` is before all keys of the part as well
        have hbefore : ∀ q ∈ ((k', v) :: rest).filter (fun p => chosen p.1), k < q.1 := by
          intro q hq
          rcases List.mem_cons.mp (List.mem_filter.mp hq).1 with rfl | hq
          · exact hkk
          · exact hkk.trans (hlt q hq)
        generalize ((k', v) :: rest).filter (fun p => chosen p.1) = kept at hbefore
        rw [modify, find?_eq_none_of_forall_lt hbefore]
        cases kept with
        | nil => rfl
        | cons q more => rw [insert, if_pos (hbefore q List.mem_cons_self)]
      · rw [if_neg hk, hout _ _ hk]
    · rw [modify_cons_self]
      by_cases hk : chosen k
      · rw [if_pos hk, hin _ _ hk, hin _ _ hk, modify_cons_self]
      · rw [if_neg hk, hout _ _ hk, hout _ _ hk]
    · rw [modify_cons_of_gt (p := (k', v)) hkk]
      by_cases hk' : chosen k'
      · rw [hin _ _ hk', hin _ _ hk', ih hrest]
        split
        · rw [modify_cons_of_gt (p := (k', v)) hkk]
        · rfl
      · rw [hout _ _ hk', hout _ _ hk', ih hrest]

/-- Of an ascending map, the part before a key is what stands before it. -/
theorem filter_append_cons {before rest : Assoc α} {name : String} {v : α}
    (h : Ascending (before ++ (name, v) :: rest)) :
    (before ++ (name, v) :: rest).filter (fun p => p.1 < name) = before := by
  obtain ⟨-, hrest, hbefore⟩ := List.pairwise_append.mp h
  have hall : before.filter (fun p => p.1 < name) = before :=
    List.filter_eq_self.mpr fun p hp =>
      decide_eq_true (hbefore p hp (name, v) List.mem_cons_self)
  have hnone : ((name, v) :: rest).filter (fun p => p.1 < name) = [] := by
    refine List.filter_eq_nil_iff.mpr fun p hp => ?_
    rw [decide_eq_true_eq]
    rcases List.mem_cons.mp hp with rfl | hp
    · exact lt_irrefl _
    · exact ((ascending_cons.mp hrest).1 p hp).not_gt
  rw [List.filter_append, hall, hnone, List.append_nil]

end Assoc

namespace Store

variable {s : Store} {findings : List Finding}

theorem firstOfIdentity_filter (name : String) (findings : List Finding) :
    firstOfIdentity (findings.filter fun f => f.table < name) =
      (firstOfIdentity findings).filter fun k => k.finding.table < name := by
  induction findings using List.reverseRecOn with
  | nil => rfl
  | append_singleton findings f ih =>
    by_cases hf : f.table < name
    · -- a finding of a table before `name` competes with such findings only
      have hheld : f.key ∈ ((firstOfIdentity findings).filter
            fun k => k.finding.table < name).map Keyed.key ↔
          f.key ∈ (firstOfIdentity findings).map Keyed.key := by
        refine ⟨fun h => (List.filter_sublist.map _).subset h, fun h => ?_⟩
        obtain ⟨k, hk, hkey⟩ := List.mem_map.mp h
        have htable : k.finding.table = f.table := congrArg Prod.fst hkey
        exact List.mem_map.mpr ⟨k, List.mem_filter.mpr ⟨hk, decide_eq_true (htable ▸ hf)⟩, hkey⟩
      rw [List.filter_append, List.filter_cons_of_pos (by exact decide_eq_true hf), List.filter_nil,
        firstOfIdentity_concat, firstOfIdentity_concat, ih]
      simp only [hheld]
      split
      · rfl
      · rw [List.filter_append, List.filter_cons_of_pos (by exact decide_eq_true hf),
          List.filter_nil]
    · rw [List.filter_append, List.filter_cons_of_neg (by rwa [decide_eq_true_eq]), List.filter_nil,
        List.append_nil, ih, firstOfIdentity_concat]
      split
      · rfl
      · rw [List.filter_append, List.filter_cons_of_neg (by rwa [decide_eq_true_eq]),
          List.filter_nil, List.append_nil]

theorem byTable_filter (name : String) (kept : List Keyed) :
    byTable (kept.filter fun k => k.finding.table < name) =
      (byTable kept).filter fun g => g.1 < name := by
  induction kept using List.reverseRecOn with
  | nil => rfl
  | append_singleton kept k ih =>
    rw [byTable_concat, Assoc.filter_modify (ascending_byTable kept) (fun t => decide (t < name)),
      List.filter_append]
    by_cases hk : k.finding.table < name
    · rw [if_pos (decide_eq_true hk), List.filter_cons_of_pos (by exact decide_eq_true hk),
        List.filter_nil, byTable_concat, ih]
    · rw [if_neg (by rwa [decide_eq_true_eq]),
        List.filter_cons_of_neg (by rwa [decide_eq_true_eq]), List.filter_nil, List.append_nil, ih]

/-! ## How far a scan gets -/

/-- Groups before a table that is not there are written, and the error is that of the table. -/
theorem writeGroups_eq_of_gap {mode : InsertMode} {owner : Int} {before rest : Assoc (List Keyed)}
    {name : String} {group : List Keyed} {e : StoreError}
    (hgroups : ∀ g ∈ before, ∀ k ∈ g.2, k.finding.table = g.1)
    (hoffered : ∀ g ∈ before, s.Offers g.1) (hgap : s.requireTable name = .error e) :
    writeGroups mode owner (before ++ (name, group) :: rest) s =
      ((writeGroups mode owner before s).1, .error e) := by
  induction before generalizing s with
  | nil => simp only [List.nil_append, writeGroups, hgap]
  | cons g more ih =>
    obtain ⟨name', group'⟩ := g
    obtain ⟨table, htable⟩ := offers_iff_exists.mp (hoffered _ List.mem_cons_self)
    have hstay (rows : List Row) (name : String) :
        (insertMany rows s).1.requireTable name = s.requireTable name := by
      rw [insertMany_eq]
      rfl
    have hmore (rows : List Row) : ∀ g ∈ more, (insertMany rows s).1.Offers g.1 := by
      intro g hg
      rw [insertMany_eq]
      exact hoffered g (List.mem_cons_of_mem _ hg)
    have hrest (rows : List Row) := ih (s := (insertMany rows s).1)
      (fun g hg => hgroups g (List.mem_cons_of_mem _ hg)) (hmore rows) (by rw [hstay, hgap])
    simp only [List.cons_append, writeGroups, htable, insertRows_eq_insertMany, hrest,
      writeGroups_eq_of_known (fun g hg => hgroups g (List.mem_cons_of_mem _ hg)) (hmore _)]

/-- The first table, in the order of names, that some findings need and that is not there. -/
structure Gap (s : Store) (findings : List Finding) (name : String) (e : StoreError) : Prop where
  /-- The scan itself has its table. -/
  scans : s.hasTable scansTable = true
  /-- A finding needs the table. -/
  needed : ∃ f ∈ findings, f.table = name
  /-- The table is not there, and this is why. -/
  absent : s.requireTable name = .error e
  /-- The tables before are there. -/
  before : ∀ f ∈ findings, f.table < name → s.Offers f.table

/-- **How far a scan gets** that fails at a table: the scan is in, and so are the findings of
all tables before. -/
theorem persistSteps_eq_of_gap {name : String} {e : StoreError} (h : s.Gap findings name e)
    (mode : InsertMode) (info : ScanInfo) :
    persistSteps mode info findings s =
      (s.written info (findings.filter fun f => f.table < name), .error e) := by
  obtain ⟨hscans, hmem, hgap, hbefore⟩ := h
  -- the group of `name`, and what stands before it
  obtain ⟨g, hg, hname⟩ : ∃ g ∈ byTable (firstOfIdentity findings), g.1 = name := by
    obtain ⟨f, hf, htable⟩ := hmem
    obtain ⟨k, hk, hkey⟩ := exists_mem_firstOfIdentity hf
    obtain ⟨g, hg, hkg⟩ := List.mem_flatMap.mp ((flatMap_byTable_perm _).mem_iff.mpr hk)
    have hkf : k.finding.table = f.table := congrArg Prod.fst hkey
    exact ⟨g, hg, by rw [← (group_of_mem_byTable hg).2 k hkg, hkf, htable]⟩
  obtain ⟨before, rest, hsplit⟩ := List.append_of_mem hg
  obtain ⟨name', group⟩ := g
  obtain rfl : name' = name := hname
  have hascending := ascending_byTable (firstOfIdentity findings)
  rw [hsplit] at hascending
  have hfiltered : byTable (firstOfIdentity (findings.filter fun f => f.table < name')) =
      before := by
    rw [firstOfIdentity_filter, byTable_filter, hsplit, Assoc.filter_append_cons hascending]
  -- so the scan of the findings before `name` can be written, and that is how far this one gets
  have hwritable : s.Writable (findings.filter fun f => f.table < name') := by
    refine ⟨hscans, fun f hf => ?_⟩
    obtain ⟨hf, hlt⟩ := List.mem_filter.mp hf
    exact hbefore f hf (of_decide_eq_true hlt)
  have hdone := persist_eq_of_writable hwritable mode info
  have hgroups : ∀ g ∈ before, g.2 ≠ [] ∧ ∀ k ∈ g.2, k.finding.table = g.1 :=
    fun g hg => group_of_mem_byTable (hsplit ▸ List.mem_append_left _ hg)
  have hoffered : ∀ g ∈ before, s.Offers g.1 := by
    intro g hg
    obtain ⟨k, hk⟩ := List.exists_mem_of_ne_nil _ (hgroups g hg).1
    rw [← hfiltered] at hg
    have hkept := (flatMap_byTable_perm _).mem_iff.mp (List.mem_flatMap.mpr ⟨g, hg, hk⟩)
    rw [← (group_of_mem_byTable hg).2 k hk]
    exact hwritable.2 _ (finding_mem_of_mem_firstOfIdentity hkept)
  have hwhole (scans : List Scan) : writeGroups mode (s.lastId + 1)
      (before ++ (name', group) :: rest) { s with lastId := s.lastId + 1, scans := scans } = _ :=
    writeGroups_eq_of_gap (fun g hg => (hgroups g hg).2) hoffered hgap
  have hpart (scans : List Scan) : writeGroups mode (s.lastId + 1) before
      { s with lastId := s.lastId + 1, scans := scans } = _ :=
    writeGroups_eq_of_known (fun g hg => (hgroups g hg).2) hoffered
  simp only [persist, transact, persistSteps, addScan, hscans, if_true, hfiltered, hpart] at hdone
  simp only [persistSteps, addScan, hscans, if_true, hsplit, hwhole, hpart]
  rw [Prod.mk.injEq] at hdone ⊢
  exact ⟨hdone.1, rfl⟩

/-! ## When a scan fails, and what is left of it -/

theorem requireTable_of_not_offers {name : String} (h : ¬s.Offers name) :
    ∃ e, s.requireTable name = .error e := by
  cases htable : s.requireTable name with
  | error e => exact ⟨e, rfl⟩
  | ok table => exact absurd (offers_iff_exists.mpr ⟨table, htable⟩) h

/-- A scan that cannot be written though scans have their table fails at a table of findings. -/
theorem exists_gap (hscans : s.hasTable scansTable = true) (h : ¬s.Writable findings) :
    ∃ name e, s.Gap findings name e := by
  have hmissing : ∃ f ∈ findings, ¬s.Offers f.table := by
    by_contra hall
    push Not at hall
    exact h ⟨hscans, hall⟩
  obtain ⟨f, hf, hfails⟩ := hmissing
  let names := ((findings.map (·.table)).filter fun name => ¬s.Offers name).toFinset
  have hnames : ∀ name, name ∈ names ↔ (∃ f ∈ findings, f.table = name) ∧ ¬s.Offers name := by
    intro name
    simp [names, and_comm]
  have hne : names.Nonempty := ⟨f.table, (hnames _).mpr ⟨⟨f, hf, rfl⟩, hfails⟩⟩
  obtain ⟨hneeded, hfirst⟩ := (hnames _).mp (names.min'_mem hne)
  obtain ⟨e, he⟩ := requireTable_of_not_offers hfirst
  refine ⟨names.min' hne, e, hscans, hneeded, he, fun g hg hlt => ?_⟩
  by_contra hnot
  exact absurd (names.min'_le _ ((hnames _).mpr ⟨⟨g, hg, rfl⟩, hnot⟩)) hlt.not_ge

/-- A scan fails exactly if a table that it needs is not there. -/
theorem persist_fails_iff {mode : InsertMode} {info : ScanInfo} :
    (∃ e, (s.persist mode info findings).2 = .error e) ↔ ¬s.Writable findings := by
  constructor
  · rintro ⟨e, he⟩ hw
    rw [persist_eq_of_writable hw] at he
    cases he
  · intro hw
    rcases hresult : s.persist mode info findings with ⟨s', e | answer⟩
    · exact ⟨e, rfl⟩
    · exact absurd (writable_of_persist_eq_ok hresult) hw

/-- **A scan that could not be written left no trace.**  The store, identifiers and tables
included, is what it was before, and whatever is called next answers and acts as if the scan had
not been tried.  This is so although the scan fails only at the first table that is not there,
when it has been given its identifier and the findings of all tables before are in. -/
theorem persist_failed {mode : InsertMode} {info : ScanInfo} {e : StoreError}
    (h : (s.persist mode info findings).2 = .error e) :
    (s.persist mode info findings).1 = s ∧
      (∀ ops, history (.persist mode info findings :: ops) s =
        ((history ops s).1, .failed e :: (history ops s).2)) ∧
      ((s.hasTable scansTable = false ∧ e = .missingTable scansTable) ∨
        ∃ name, s.Gap findings name e ∧
          persistSteps mode info findings s =
            (s.written info (findings.filter fun f => f.table < name), .error e)) := by
  have hresult : s.persist mode info findings = ((s.persist mode info findings).1, .error e) := by
    rw [← h]
  have hstore := persist_eq_self_of_error hresult
  refine ⟨hstore, fun ops => ?_, ?_⟩
  · have hcall : Operation.apply (.persist mode info findings) s = (s, .failed e) := by
      simp only [Operation.apply, hstore, h, Answer.ofPersist]
    rw [history_cons, hcall]
  · cases hscans : s.hasTable scansTable with
    | false =>
      refine .inl ⟨rfl, ?_⟩
      simpa [persist, transact, persistSteps, addScan, hscans, eq_comm] using h
    | true =>
      obtain ⟨name, e', hgap⟩ := exists_gap hscans (persist_fails_iff.mp ⟨e, h⟩)
      have hsteps := persistSteps_eq_of_gap hgap mode info
      obtain rfl : e' = e := by simpa [persist, transact, hsteps] using h
      exact .inr ⟨name, hgap, hsteps⟩

/-- A scan for two tables into a store where the second one was never created. -/
theorem persist_failed_at_second_table :
    let scan : ScanInfo := ⟨"2026-01-01T00:00:00Z", some "mypy", some "/p"⟩
    let findings := [Finding.blank .mypy "a.py" "/p", Finding.blank .bandit "a.py" "/p"]
    let s : Store := { empty with tableNames := [scansTable, Tool.bandit.tableName] }
    let e : StoreError := .missingTable Tool.mypy.tableName
    (s.persist .bulk scan findings).2 = .error e ∧
      (s.persist .bulk scan findings).1 = s ∧
      (∀ ops, history (.persist .bulk scan findings :: ops) s =
        ((history ops s).1, .failed e :: (history ops s).2)) ∧
      ((s.hasTable scansTable = false ∧ e = .missingTable scansTable) ∨
        ∃ name, s.Gap findings name e ∧
          persistSteps .bulk scan findings s =
            (s.written scan (findings.filter fun f => f.table < name), .error e)) := by
  intro scan findings s e
  have hgap : s.Gap findings Tool.mypy.tableName e := by
    refine ⟨by decide, ⟨_, List.mem_cons_self, rfl⟩, ?_, ?_⟩
    · rw [requireTable, Schema.table?_tableName]
      rfl
    · intro f hf hlt
      simp only [findings, List.mem_cons, List.not_mem_nil, or_false] at hf
      rcases hf with rfl | rfl
      · exact absurd hlt (lt_irrefl _)
      · exact ⟨by decide, by decide⟩
  have h : (s.persist .bulk scan findings).2 = .error e := by
    rw [persist, transact, persistSteps_eq_of_gap hgap]
  exact ⟨h, persist_failed h⟩

end Store

end LintLedger
