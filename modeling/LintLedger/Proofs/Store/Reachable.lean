import LintLedger.Proofs.Store.Contents

/-!
# Reachable stores

Every store in use came about by the operations of the library from one without tables.  What
holds of all such stores is stated once, as `Store.Sound`, and kept by each operation.

## Main Definitions

* `Store.Reachable` -- the stores that the operations bring about
* `Store.Sound` -- what holds of all of them
* `Store.Gain` -- what writing a scan adds to a store

## Main Statements

* `Store.Reachable.sound` -- reachable stores are sound
* `Store.persist_gain` -- writing a scan adds the scan and one row for each new identity
-/

namespace LintLedger.Store

/-- The stores that the operations bring about. -/
inductive Reachable : Store → Prop
  | empty : Reachable empty
  | seed {s : Store} : Reachable s → Reachable s.seed
  | persist {s : Store} (mode : InsertMode) (info : ScanInfo) (findings : List Finding) :
      Reachable s → Reachable (s.persist mode info findings).1
  | deleteScan {s : Store} (id : Int) : Reachable s → Reachable (s.deleteScan id).1
  | pruneBefore {s : Store} (timestamp : String) :
      Reachable s → Reachable (s.pruneBefore timestamp).1

/-- What holds of every store that the operations bring about. -/
structure Sound (s : Store) : Prop where
  /-- Later scans have greater identifiers. -/
  ascending : s.scans.Pairwise fun a b => a.id < b.id
  /-- No identifier is beyond the greatest ever given. -/
  issued : ∀ scan ∈ s.scans, scan.id ≤ s.lastId
  /-- Every row belongs to a scan. -/
  owned : ∀ r ∈ s.rows, ∃ scan ∈ s.scans, scan.id = r.owner
  /-- No two rows of a table have the same key. -/
  distinct : s.keys.Nodup

/-- No two scans have the same identifier. -/
theorem Sound.nodup_ids {s : Store} (h : s.Sound) : (s.scans.map (·.id)).Nodup :=
  List.pairwise_map.mpr (h.ascending.imp fun hlt => hlt.ne)

/-! ## Each operation keeps the store sound -/

theorem sound_empty : Sound empty where
  ascending := List.Pairwise.nil
  issued := by simp [empty]
  owned := by simp [empty]
  distinct := List.nodup_nil

theorem Sound.seed {s : Store} (h : s.Sound) : s.seed.Sound :=
  ⟨h.ascending, h.issued, h.owned, h.distinct⟩

/-- The owner of a new row is the new scan. -/
theorem owner_of_mem_newRows {s : Store} {owner : Int} {findings : List Finding} {r : Row}
    (hr : r ∈ s.newRows owner findings) : r.owner = owner := by
  obtain ⟨f, table, -, -, -, rfl⟩ := mem_newRows.mp hr
  rfl

/-- The key of a new row was free. -/
theorem key_notMem_of_mem_newRows {s : Store} {owner : Int} {findings : List Finding} {r : Row}
    (hr : r ∈ s.newRows owner findings) : r.key ∉ s.keys := by
  have h := (List.mem_filter.mp hr).2
  simpa using h

theorem keys_written (s : Store) (info : ScanInfo) (findings : List Finding) :
    (s.written info findings).keys =
      s.keys ++ (s.newRows (s.lastId + 1) findings).map Row.key := by
  simp [keys, written]

theorem Sound.written {s : Store} (h : s.Sound) (info : ScanInfo) (findings : List Finding) :
    (s.written info findings).Sound where
  ascending := by
    refine List.pairwise_append.mpr ⟨h.ascending, List.pairwise_singleton _ _, ?_⟩
    intro scan hscan new hnew
    rw [List.mem_singleton.mp hnew]
    have hle := h.issued scan hscan
    dsimp only
    omega
  issued := by
    intro scan hscan
    have hlast : (s.written info findings).lastId = s.lastId + 1 := rfl
    rcases List.mem_append.mp hscan with hold | hnew
    · have hle := h.issued scan hold
      omega
    · rw [List.mem_singleton.mp hnew, hlast]
  owned := by
    intro r hr
    rcases List.mem_append.mp hr with hold | hnew
    · obtain ⟨scan, hscan, howner⟩ := h.owned r hold
      exact ⟨scan, List.mem_append_left _ hscan, howner⟩
    · exact ⟨_, List.mem_append_right _ List.mem_cons_self, (owner_of_mem_newRows hnew).symm⟩
  distinct := by
    rw [keys_written]
    refine h.distinct.append (nodup_keys_newRows s _ findings) ?_
    intro key hold hnew
    obtain ⟨r, hr, rfl⟩ := List.mem_map.mp hnew
    exact key_notMem_of_mem_newRows hr hold

theorem Sound.persist {s : Store} (h : s.Sound) (mode : InsertMode) (info : ScanInfo)
    (findings : List Finding) : (s.persist mode info findings).1.Sound := by
  rcases hresult : s.persist mode info findings with ⟨s', answer | answer⟩
  · rw [persist_eq_self_of_error hresult]
    exact h
  · rw [← hresult, persist_eq_of_writable (writable_of_persist_eq_ok hresult)]
    exact h.written info findings

/-- Rows go with their scans, so that the rows that stay have theirs. -/
theorem Sound.removeScans {s : Store} (h : s.Sound) (gone : Scan → Bool) :
    (s.removeScans gone).1.Sound := by
  rw [Store.removeScans]
  split
  · refine ⟨h.ascending.sublist List.filter_sublist, ?_, ?_, ?_⟩
    · intro scan hscan
      exact h.issued scan (List.mem_filter.mp hscan).1
    · intro r hr
      obtain ⟨hr, hkept⟩ := List.mem_filter.mp hr
      obtain ⟨scan, hscan, howner⟩ := h.owned r hr
      refine ⟨scan, List.mem_filter.mpr ⟨hscan, ?_⟩, howner⟩
      by_contra hgone
      have hmem : r.owner ∈ (s.scans.filter gone).map (·.id) :=
        List.mem_map.mpr ⟨scan, List.mem_filter.mpr ⟨hscan, by simpa using hgone⟩, howner⟩
      simp [hmem] at hkept
    · exact (List.filter_sublist.map Row.key).nodup h.distinct
  · exact h

/-- **Reachable stores are sound.** -/
theorem Reachable.sound {s : Store} (h : Reachable s) : s.Sound := by
  induction h with
  | empty => exact sound_empty
  | seed _ ih => exact ih.seed
  | persist mode info findings _ ih => exact ih.persist mode info findings
  | deleteScan id _ ih => exact ih.removeScans _
  | pruneBefore timestamp _ ih => exact ih.removeScans _

/-! ## What a scan adds -/

/-- What writing a scan with its findings adds to a store `s`, which becomes `s'`. -/
structure Gain (s : Store) (info : ScanInfo) (findings : List Finding) (id : Int)
    (added : List Row) (s' : Store) : Prop where
  /-- There is one scan more, under an identifier of its own. -/
  scans : s'.scans = s.scans ++ [⟨id, info.timestamp, info.tool?, info.target?⟩]
  fresh : ∀ scan ∈ s.scans, scan.id ≠ id
  /-- The rows that were there are as they were. -/
  rows : s'.rows = s.rows ++ added
  /-- Every identity that was not stored has its row … -/
  covers : ∀ f ∈ findings, f.key ∉ s.keys → ∃ r ∈ added, r.key = f.key
  /-- … and only one. -/
  distinct : (added.map Row.key).Nodup
  /-- A new row belongs to the new scan and shows the first finding of its identity: its file, its
  root, its place and, column by column, its fields. -/
  contents : ∀ r ∈ added, r.owner = id ∧ ∃ f, findings.find? (fun g => g.key = f.key) = some f ∧
    f.key ∉ s.keys ∧ r.key = f.key ∧ r.Shows f

/-- A finding whose identity is not stored brings a row with its key. -/
theorem exists_mem_newRows {s : Store} {findings : List Finding} (hw : s.Writable findings)
    (owner : Int) {f : Finding} (hf : f ∈ findings) (hfree : f.key ∉ s.keys) :
    ∃ r ∈ s.newRows owner findings, r.key = f.key := by
  have hsome : (findings.find? fun g => g.key = f.key).isSome := by
    rw [List.find?_isSome]
    exact ⟨f, hf, by simp⟩
  obtain ⟨g, hg⟩ := Option.isSome_iff_exists.mp hsome
  have hkey : g.key = f.key := by simpa using List.find?_some hg
  obtain ⟨table, htable⟩ :=
    Option.isSome_iff_exists.mp (hw.2 g (List.mem_of_find?_eq_some hg)).1
  exact ⟨_, mem_newRows.mpr ⟨g, table, hkey ▸ hg, hkey ▸ hfree, htable, rfl⟩,
    (Row.shows_ofFinding htable owner).key_eq.trans hkey⟩

theorem Sound.gain {s : Store} (h : s.Sound) {findings : List Finding} (hw : s.Writable findings)
    (info : ScanInfo) :
    Gain s info findings (s.lastId + 1) (s.newRows (s.lastId + 1) findings)
      (s.written info findings) where
  scans := rfl
  fresh := by
    intro scan hscan heq
    have hle := h.issued scan hscan
    omega
  rows := rfl
  covers := fun _ hf hfree => exists_mem_newRows hw _ hf hfree
  distinct := nodup_keys_newRows s _ findings
  contents := by
    intro r hr
    obtain ⟨f, table, hfind, hfree, htable, rfl⟩ := mem_newRows.mp hr
    have hshows := Row.shows_ofFinding htable (s.lastId + 1)
    exact ⟨rfl, f, hfind, hfree, hshows.key_eq, hshows⟩

/-- Findings whose identities are all stored bring no rows. -/
theorem newRows_eq_nil {s : Store} {owner : Int} {findings : List Finding}
    (h : ∀ f ∈ findings, f.key ∈ s.keys) : s.newRows owner findings = [] := by
  refine List.eq_nil_iff_forall_not_mem.mpr fun r hr => ?_
  obtain ⟨f, -, hfind, hfree, -, -⟩ := mem_newRows.mp hr
  exact hfree (h f (List.mem_of_find?_eq_some hfind))

/-- **Writing a scan** into a reachable store that has the tables for it, in either mode: one
scan is added and one row for each identity that was not stored, and the answer counts the rows.
Findings that are all stored, in whatever order and however often, therefore change no table of
findings. -/
theorem persist_gain {s : Store} (hs : Reachable s) {findings : List Finding}
    (hw : s.Writable findings) (mode : InsertMode) (info : ScanInfo) :
    ∃ s' id added,
      s.persist mode info findings = (s', .ok (id, added.length)) ∧
        Gain s info findings id added s' ∧
        ((∀ f ∈ findings, f.key ∈ s.keys) → added.length = 0 ∧ s'.rows = s.rows) := by
  refine ⟨_, _, _, persist_eq_of_writable hw mode info, hs.sound.gain hw info, fun hall => ?_⟩
  have hnil : s.newRows (s.lastId + 1) findings = [] := newRows_eq_nil hall
  exact ⟨by rw [hnil, List.length_nil], by rw [written, hnil, List.append_nil]⟩

/-- A batch that repeats a stored identity and has a new one twice, in two files: what is stored of
the new one is the message of the first finding, in the file of the first finding. -/
theorem persist_gain_of_overlapping_batch :
    let given (pk file message : String) : Finding :=
      { (Finding.blank .bandit file "/p").text "message" (some message) with pk? := some pk }
    let scan : ScanInfo := ⟨"2026-01-01T00:00:00Z", some "bandit", some "/p"⟩
    let s := (empty.seed.persist .perRow scan [given "k" "a.py" "old"]).1
    let findings :=
      [given "k" "b.py" "again", given "m" "a.py" "first", given "m" "b.py" "second"]
    Reachable s ∧ s.Writable findings ∧
      ∃ s' id added,
        s.persist .bulk scan findings = (s', .ok (id, added.length)) ∧
          Gain s scan findings id added s' ∧
          ((∀ f ∈ findings, f.key ∈ s.keys) → added.length = 0 ∧ s'.rows = s.rows) ∧
          ∃ r ∈ added, r.pk = "m" ∧ r.file = "a.py" ∧ r.root = "/p" ∧
            r.cell? "message" = some (.text "first") := by
  intro given scan s findings
  have hoffers : ∀ pk file message, empty.seed.Offers (given pk file message).table := by
    intro pk file message
    have hname : (given pk file message).table = Tool.bandit.tableName := rfl
    rw [hname]
    exact ⟨by rw [Schema.table?_tableName, Option.isSome_some], by decide⟩
  have hs : Reachable s := .persist _ _ _ (.seed .empty)
  have hfirst : empty.seed.Writable [given "k" "a.py" "old"] :=
    ⟨by decide, by simp only [List.forall_mem_singleton]; exact hoffers "k" "a.py" "old"⟩
  have hwritten : s = empty.seed.written scan [given "k" "a.py" "old"] := by
    simp only [s, persist_eq_of_writable hfirst]
  -- writing a scan creates no table, so what `seed` created is what there is
  have hnames : s.tableNames = empty.seed.tableNames := by rw [hwritten]; rfl
  have hw : s.Writable findings := by
    have hsame : ∀ name, s.hasTable name = empty.seed.hasTable name := by
      intro name
      rw [hasTable, hnames, hasTable]
    refine ⟨by rw [hsame]; decide, ?_⟩
    simp only [findings, Offers, hsame, List.forall_mem_cons]
    exact ⟨hoffers _ _ _, hoffers _ _ _, hoffers _ _ _, by simp⟩
  obtain ⟨s', id, added, hpersist, hgain, hstored⟩ := persist_gain hs hw .bulk scan
  refine ⟨hs, hw, s', id, added, hpersist, hgain, hstored, ?_⟩
  have hkeys : s.keys = [("bandit_results", "k")] := by rw [hwritten]; rfl
  obtain ⟨r, hr, hkey⟩ := hgain.covers (given "m" "a.py" "first") (by simp [findings])
    (by rw [hkeys]; decide)
  obtain ⟨-, f, hfind, -, hsame, hshows⟩ := hgain.contents r hr
  have hf : f = given "m" "a.py" "first" := by
    rw [← hsame, hkey] at hfind
    exact (Option.some.inj hfind).symm
  rw [hf] at hshows
  have htool : r.tool = .bandit := Tool.tableName_injective hshows.table
  obtain ⟨cell, hcell, hmessage⟩ := hshows.fields.exists_cell?
    (c := ⟨"message", .text⟩) (by rw [htool]; decide)
  rw [Cell.Shows.eq_text hmessage] at hcell
  exact ⟨r, hr, hshows.pk, hshows.file, hshows.root, hcell⟩

end LintLedger.Store
