import LintLedger.Proofs.Store.History
import LintLedger.Proofs.Store.Stock

/-!
# Removing scans

A scan goes with the rows it owns and with nothing else.  In a sound store every row is owned by
one stored scan, whose identifier no other scan has; hence what a removal leaves is told by the
identifiers alone, and removals can be taken apart, put together and made in any order.

## Main Definitions

* `Store.without`, `Store.withoutScans` -- a store less some scans and their rows
* `Store.olderThan` -- the scans with a timestamp that is less as text
* `Store.Removes` -- what the removals of a store do

## Main Statements

* `Store.Sound.without_eq` -- a removal by a condition is one by identifiers
* `Store.Sound.history_deleteScan` -- scans removed one by one
* `Store.reachable_removes` -- removals from every reachable store
-/

namespace LintLedger.Store

variable {s : Store} {ids ids' : List Int} {id : Int} {t t' : String}

/-! ## Identifiers -/

/-- A store less the scans with some identifiers and the rows that belong to them. -/
def withoutScans (ids : List Int) (s : Store) : Store :=
  { s with
    scans := s.scans.filter fun scan => scan.id ∉ ids
    rows := s.rows.filter fun r => r.owner ∉ ids }

/-- The identifiers of the stored scans. -/
def scanIds (s : Store) : List Int := s.scans.map (·.id)

/-- The identifiers of the scans that satisfy a condition. -/
def idsOf (gone : Scan → Bool) (s : Store) : List Int := (s.scans.filter gone).map (·.id)

/-- A store less the scans that satisfy a condition and the rows that belong to them. -/
def without (gone : Scan → Bool) (s : Store) : Store :=
  { s with
    scans := s.scans.filter fun scan => !gone scan
    rows := s.rows.filter fun r => r.owner ∉ s.idsOf gone }

/-- The scans with a timestamp that is less than the given one as text. -/
def olderThan (t : String) (s : Store) : List Int := s.idsOf fun scan => scan.timestamp < t

/-- A removal depends on the condition on the stored scans only. -/
theorem without_congr {gone gone' : Scan → Bool} (h : ∀ scan ∈ s.scans, gone scan = gone' scan) :
    s.without gone = s.without gone' := by
  have hids : s.idsOf gone = s.idsOf gone' := by rw [idsOf, idsOf, List.filter_congr h]
  have hkept : s.scans.filter (fun scan => !gone scan) =
      s.scans.filter fun scan => !gone' scan :=
    List.filter_congr fun scan hscan => by rw [h scan hscan]
  rw [without, without, hids, hkept]

/-- Where no scan satisfies the condition, nothing is removed. -/
theorem without_eq_self {gone : Scan → Bool} (h : ∀ scan ∈ s.scans, gone scan = false) :
    s.without gone = s := by
  have hids : s.idsOf (fun _ => false) = [] := by simp [idsOf]
  rw [without_congr h, without, hids]
  simp

theorem withoutScans_withoutScans :
    (s.withoutScans ids).withoutScans ids' = s.withoutScans (ids ++ ids') := by
  have hboth (k : Int) : (decide (k ∉ ids') && decide (k ∉ ids)) = decide (k ∉ ids ++ ids') := by
    rw [← Bool.decide_and, decide_eq_decide, List.mem_append, not_or, and_comm]
  simp only [withoutScans, List.filter_filter, hboth]

/-- Identifiers that are not stored make no difference, for no rows belong to them. -/
theorem Sound.withoutScans_congr (h : s.Sound)
    (hids : ∀ id ∈ s.scanIds, id ∈ ids ↔ id ∈ ids') : s.withoutScans ids = s.withoutScans ids' := by
  have hscans : s.scans.filter (fun scan => scan.id ∉ ids) =
      s.scans.filter fun scan => scan.id ∉ ids' := by
    refine List.filter_congr fun scan hscan => ?_
    exact decide_eq_decide.mpr (not_congr (hids scan.id (List.mem_map_of_mem hscan)))
  have hrows : s.rows.filter (fun r => r.owner ∉ ids) = s.rows.filter fun r => r.owner ∉ ids' := by
    refine List.filter_congr fun r hr => ?_
    obtain ⟨scan, hscan, howner⟩ := h.owned r hr
    exact decide_eq_decide.mpr (not_congr (hids r.owner (howner ▸ List.mem_map_of_mem hscan)))
  rw [withoutScans, withoutScans, hscans, hrows]

theorem mem_scanIds_withoutScans :
    id ∈ (s.withoutScans ids).scanIds ↔ id ∈ s.scanIds ∧ id ∉ ids := by
  simp only [scanIds, withoutScans, List.mem_map, List.mem_filter, decide_eq_true_eq]
  constructor
  · rintro ⟨scan, ⟨hscan, hkept⟩, rfl⟩
    exact ⟨⟨scan, hscan, rfl⟩, hkept⟩
  · rintro ⟨⟨scan, hscan, rfl⟩, hkept⟩
    exact ⟨scan, ⟨hscan, hkept⟩, rfl⟩

/-- Of a sound store the identifier of a scan tells the scan. -/
theorem Sound.mem_idsOf (h : s.Sound) (gone : Scan → Bool) {scan : Scan} (hscan : scan ∈ s.scans) :
    scan.id ∈ s.idsOf gone ↔ gone scan = true := by
  constructor
  · intro hid
    obtain ⟨other, hother, hsame⟩ := List.mem_map.mp hid
    obtain ⟨hother, hgone⟩ := List.mem_filter.mp hother
    rwa [← List.inj_on_of_nodup_map h.nodup_ids hother hscan hsame]
  · exact fun hgone => List.mem_map_of_mem (List.mem_filter.mpr ⟨hscan, hgone⟩)

theorem Sound.nodup_scanIds (h : s.Sound) : s.scanIds.Nodup := h.nodup_ids

theorem idsOf_subset (gone : Scan → Bool) : s.idsOf gone ⊆ s.scanIds :=
  List.map_subset _ (List.filter_subset_self _)

theorem Sound.nodup_idsOf (h : s.Sound) (gone : Scan → Bool) : (s.idsOf gone).Nodup :=
  h.nodup_ids.sublist (List.filter_sublist.map _)

/-! ## Removals -/

/-- A removal where there is a table of scans; its answer counts the scans. -/
theorem removeScans_eq (hscans : s.hasTable scansTable = true) (gone : Scan → Bool) :
    s.removeScans gone = (s.without gone, .ok (s.idsOf gone).length) := by
  have howned (r : Row) : (!(s.idsOf gone).contains r.owner) = decide (r.owner ∉ s.idsOf gone) := by
    rw [List.contains_eq_mem, decide_not]
  rw [removeScans, if_pos hscans]
  dsimp only
  rw [← idsOf]
  simp only [howned]
  rfl

/-- **A removal by a condition is one by identifiers.** -/
theorem Sound.without_eq (h : s.Sound) (gone : Scan → Bool) :
    s.without gone = s.withoutScans (s.idsOf gone) := by
  have hkept : s.scans.filter (fun scan => !gone scan) =
      s.scans.filter fun scan => scan.id ∉ s.idsOf gone := by
    refine List.filter_congr fun scan hscan => ?_
    rw [Bool.eq_iff_iff, Bool.not_eq_true', decide_eq_true_eq, h.mem_idsOf gone hscan,
      Bool.not_eq_true]
  rw [without, hkept, Store.withoutScans]

theorem Sound.withoutScans (h : s.Sound) (ids : List Int) : (s.withoutScans ids).Sound where
  ascending := h.ascending.sublist List.filter_sublist
  issued := fun scan hscan => h.issued scan (List.mem_filter.mp hscan).1
  owned := by
    intro r hr
    obtain ⟨hr, hkept⟩ := List.mem_filter.mp hr
    obtain ⟨scan, hscan, howner⟩ := h.owned r hr
    exact ⟨scan, List.mem_filter.mpr ⟨hscan, howner ▸ hkept⟩, howner⟩
  distinct := (List.filter_sublist.map Row.key).nodup h.distinct

/-- **One scan**, be it stored or not. -/
theorem Sound.deleteScan_eq (h : s.Sound) (hscans : s.hasTable scansTable = true) (id : Int) :
    s.deleteScan id = (s.withoutScans [id], .ok (if id ∈ s.scanIds then 1 else 0)) := by
  have hids : s.idsOf (fun scan => scan.id == id) = if id ∈ s.scanIds then [id] else [] := by
    have hfilter : s.idsOf (fun scan => scan.id == id) = s.scanIds.filter (· == id) := by
      rw [idsOf, scanIds, List.filter_map]
      rfl
    rw [hfilter, List.filter_beq, h.nodup_scanIds.count]
    split <;> rfl
  -- an identifier that is not stored removes nothing, for no row belongs to it either
  rw [deleteScan, removeScans_eq hscans, h.without_eq, hids]
  by_cases hid : id ∈ s.scanIds
  · simp only [hid, if_true, List.length_singleton]
  · have hsame : s.withoutScans [] = s.withoutScans [id] := by
      refine h.withoutScans_congr fun other hother => ?_
      have hne : other ≠ id := fun heq => hid (heq ▸ hother)
      simp [hne]
    simp only [hid, if_false, List.length_nil, hsame]

theorem Sound.pruneBefore_eq (h : s.Sound) (hscans : s.hasTable scansTable = true) (t : String) :
    s.pruneBefore t = (s.withoutScans (s.olderThan t), .ok (s.olderThan t).length) := by
  rw [pruneBefore, removeScans_eq hscans, h.without_eq]
  rfl

/-- **Scans removed one by one**: each of them is there when its turn comes. -/
theorem Sound.history_deleteScan (h : s.Sound) (hscans : s.hasTable scansTable = true)
    (hnodup : ids.Nodup) (hstored : ids ⊆ s.scanIds) :
    history (ids.map .deleteScan) s =
      (s.withoutScans ids, ids.map fun _ => Answer.removed 1) := by
  induction ids generalizing s with
  | nil =>
    have hsame : s.withoutScans [] = s := by simp [Store.withoutScans]
    rw [List.map_nil, history_nil, hsame, List.map_nil]
  | cons id rest ih =>
    obtain ⟨hid, hrest⟩ := List.nodup_cons.mp hnodup
    obtain ⟨hthere, hstored⟩ := List.cons_subset.mp hstored
    have hcall : (Operation.deleteScan id).apply s = (s.withoutScans [id], .removed 1) := by
      rw [Operation.apply, h.deleteScan_eq hscans, if_pos hthere]
      rfl
    have hstored' : rest ⊆ (s.withoutScans [id]).scanIds := by
      intro other hother
      refine mem_scanIds_withoutScans.mpr ⟨hstored hother, ?_⟩
      rw [List.mem_singleton]
      exact fun heq => hid (heq ▸ hother)
    rw [List.map_cons, history_cons, hcall,
      ih (h.withoutScans [id]) hscans hrest hstored', withoutScans_withoutScans]
    rfl

/-- **Two prunings** remove what one at the greater time removes. -/
theorem Sound.pruneBefore_pruneBefore (h : s.Sound) (hscans : s.hasTable scansTable = true)
    (t t' : String) :
    ((s.pruneBefore t).1.pruneBefore t').1 = (s.pruneBefore (max t t')).1 := by
  have hafter : (s.withoutScans (s.olderThan t)).Sound := h.withoutScans _
  rw [h.pruneBefore_eq hscans, hafter.pruneBefore_eq hscans, h.pruneBefore_eq hscans,
    withoutScans_withoutScans]
  refine h.withoutScans_congr fun id hid => ?_
  obtain ⟨scan, hscan, rfl⟩ := List.mem_map.mp hid
  have hold (t : String) : scan.id ∈ s.olderThan t ↔ scan.timestamp < t := by
    rw [olderThan, h.mem_idsOf _ hscan, decide_eq_true_eq]
  rw [List.mem_append, hold, hold, lt_max_iff]
  by_cases hfirst : scan.timestamp < t
  · exact ⟨fun _ => .inl hfirst, fun _ => .inl hfirst⟩
  · -- a scan that the first pruning leaves is there for the second
    have hleft : scan ∈ (s.withoutScans (s.olderThan t)).scans :=
      List.mem_filter.mpr ⟨hscan, by simpa [hold] using hfirst⟩
    rw [olderThan, hafter.mem_idsOf _ hleft, decide_eq_true_eq]

/-! ## Reachable stores -/

/-- What the removals of a store do. -/
structure Removes (s : Store) : Prop where
  /-- A scan goes with its rows, and all else stays as it is. -/
  deleteScan : ∀ id : Int, s.deleteScan id =
    (s.withoutScans [id], .ok (if id ∈ s.scanIds then 1 else 0))
  /-- A pruning removes what the removals of the older scans remove, made in any order. -/
  pruneBefore : ∀ (t : String) (ids : List Int), ids.Perm (s.olderThan t) →
    history (ids.map .deleteScan) s = ((s.pruneBefore t).1, ids.map fun _ => .removed 1) ∧
      (s.pruneBefore t).2 = .ok ids.length
  /-- Of two prunings, in either order, the one at the greater time decides. -/
  pruneBefore_pruneBefore : ∀ t t' : String,
    ((s.pruneBefore t).1.pruneBefore t').1 = (s.pruneBefore (max t t')).1 ∧
      ((s.pruneBefore t').1.pruneBefore t).1 = (s.pruneBefore (max t t')).1

theorem Sound.removes (h : s.Sound) (hscans : s.hasTable scansTable = true) : s.Removes where
  deleteScan := h.deleteScan_eq hscans
  pruneBefore := by
    intro t ids hperm
    have hnodup : ids.Nodup := hperm.nodup_iff.mpr (h.nodup_idsOf _)
    have hstored : ids ⊆ s.scanIds := fun _ hid => idsOf_subset _ (hperm.subset hid)
    have hsame : s.withoutScans ids = s.withoutScans (s.olderThan t) :=
      h.withoutScans_congr fun _ _ => hperm.mem_iff
    rw [h.history_deleteScan hscans hnodup hstored, h.pruneBefore_eq hscans, hsame,
      hperm.length_eq]
    exact ⟨rfl, rfl⟩
  pruneBefore_pruneBefore := by
    intro t t'
    refine ⟨h.pruneBefore_pruneBefore hscans t t', ?_⟩
    rw [h.pruneBefore_pruneBefore hscans, max_comm]

/-- **Removals from every reachable store.**  Only a store in which nothing was ever created refuses
them, and stays what it is. -/
theorem reachable_removes (hs : Reachable s) :
    s.Removes ∨ s = empty ∧
      (∀ id, s.deleteScan id = (s, .error (.missingTable "scan_metadata"))) ∧
        ∀ t, s.pruneBefore t = (s, .error (.missingTable "scan_metadata")) := by
  rcases hs.complete_or_eq_empty with hcomplete | rfl
  · exact .inl (hs.sound.removes (hcomplete _ List.mem_cons_self))
  · exact .inr ⟨rfl, fun _ => rfl, fun _ => rfl⟩

/-- A finding that two scans made belongs to the first, and goes with that one. -/
theorem removes_after_two_scans :
    let given (tool : Tool) (pk : String) : Finding :=
      { Finding.blank tool "a.py" "/p" with pk? := some pk }
    let scan (timestamp : String) : ScanInfo := ⟨timestamp, none, none⟩
    let first := (empty.seed.persist .bulk (scan "2025-12-31T23:59:59Z")
      [given .mypy "k", given .radon "m"]).1
    let s := (first.persist .perRow (scan "2026-01-01T00:00:00Z")
      [given .mypy "k", given .bandit "k"]).1
    Reachable s ∧ s.olderThan "2026-01-01T00:00:00Z" = [1] ∧
      (s.withoutScans [1]).rows.map (·.key) = [("bandit_results", "k")] ∧ s.Removes := by
  intro given scan first s
  have hs : Reachable s := .persist _ _ _ (.persist _ _ _ (.seed .empty))
  have hids : s.scanIds = [1, 2] := by decide +kernel
  refine ⟨hs, by decide +kernel, by decide +kernel, (reachable_removes hs).resolve_right ?_⟩
  rintro ⟨hempty, -⟩
  rw [hempty] at hids
  cases hids

end LintLedger.Store
