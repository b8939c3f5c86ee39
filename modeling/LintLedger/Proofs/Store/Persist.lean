import LintLedger.Proofs.Data.Assoc
import LintLedger.Store.Basic
import Mathlib.Data.List.Basic
import Mathlib.Data.List.Infix
import Mathlib.Data.List.Nodup
import Mathlib.Data.List.Perm.Basic

/-!
# Persisting a scan

Rows reach a table in one of two ways: many to a statement, cut into pieces that respect the
limit on cells, or one by one with every refusal passed over.  Both come to the same thing, and
this module says to what: the rows whose key was free, in their order, each key once.

A batch of findings is thinned out to the first of each identity, sorted by table and inserted.
One equation says what comes of it: a scan under the next identifier, and behind the old rows the
rows of those findings whose key is free.

## Main Definitions

* `Row.key` -- table and primary key of a row
* `Store.keys` -- the keys that are taken
* `Store.unclaimed` -- the rows of a list that find their key free
* `Finding.key`, `Store.Keyed.key` -- table and identity of a finding
* `Store.Writable` -- the tables that a scan with some findings needs are there
* `Store.newRows` -- the rows that the findings of a scan bring

## Main Statements

* `Store.insertMany_eq` -- one statement adds exactly the unclaimed rows and counts them
* `Store.insertRows_eq_insertMany` -- neither the mode nor the pieces matter
* `Store.mem_firstOfIdentity` -- what is kept of a batch
* `Store.flatMap_byTable_perm` -- sorting by table loses and repeats nothing
* `Store.persist_eq_of_writable` -- writing a scan, where it can be written
* `Store.persist_eq_self_of_error` -- an error leaves the store as it was
* `Store.exists_row_of_mem` -- every finding of a scan has its key in the store afterwards
* `Store.persist_pair` -- how many of two findings are new
-/

namespace LintLedger

/-- Tables are told apart by their names. -/
theorem Tool.tableName_injective : Function.Injective Tool.tableName := by
  intro t u h
  have hnodup : (Tool.all.map Tool.tableName).Nodup := by decide
  exact List.inj_on_of_nodup_map hnodup t.mem_all u.mem_all h

@[simp] theorem Schema.name_tableOf (t : Tool) : (Schema.tableOf t).name = t.tableName := rfl

@[simp] theorem Schema.tool_tableOf (t : Tool) : (Schema.tableOf t).tool = t := rfl

/-- Every tool has its table. -/
@[simp] theorem Schema.table?_tableName (t : Tool) :
    Schema.table? t.tableName = some (Schema.tableOf t) := by
  cases t <;> decide

/-- A table is found only under its own name. -/
theorem Schema.name_of_table?_eq_some {name : String} {table : Schema.Table}
    (h : Schema.table? name = some table) : table.name = name := by
  have hname := List.find?_some h
  simpa using hname

namespace Row

/-- Table and primary key: what no two stored rows share. -/
def key (r : Row) : String × String := (r.tool.tableName, r.pk)

theorem clashes_iff {a b : Row} : a.clashes b = true ↔ a.key = b.key := by
  simp [clashes, key, Tool.tableName_injective.eq_iff]

end Row

namespace Store

/-! ## Keys -/

/-- The keys that are taken. -/
def keys (s : Store) : List (String × String) := s.rows.map Row.key

theorem taken_iff {s : Store} {r : Row} : s.taken r = true ↔ r.key ∈ s.keys := by
  simp only [taken, List.any_eq_true, Row.clashes_iff, keys, List.mem_map]
  exact ⟨fun ⟨old, hold, h⟩ => ⟨old, hold, h.symm⟩, fun ⟨old, hold, h⟩ => ⟨old, hold, h.symm⟩⟩

@[simp] theorem keys_append (s : Store) (r : Row) : (s.append r).keys = s.keys ++ [r.key] := by
  simp [append, keys]

/-- The rows of a list that find their key free, given the keys that were taken before. -/
def unclaimed : List (String × String) → List Row → List Row
  | _, [] => []
  | held, r :: rest =>
    if r.key ∈ held then unclaimed held rest else r :: unclaimed (held ++ [r.key]) rest

@[simp] theorem unclaimed_nil (held : List (String × String)) : unclaimed held [] = [] := rfl

theorem unclaimed_cons (held : List (String × String)) (r : Row) (rest : List Row) :
    unclaimed held (r :: rest) =
      if r.key ∈ held then unclaimed held rest else r :: unclaimed (held ++ [r.key]) rest := rfl

/-- Rows with keys of their own are unclaimed as far as their keys were free before. -/
theorem unclaimed_eq_filter {held : List (String × String)} {rows : List Row}
    (hnodup : (rows.map Row.key).Nodup) :
    unclaimed held rows = rows.filter fun r => !held.contains r.key := by
  induction rows generalizing held with
  | nil => rfl
  | cons r rest ih =>
    obtain ⟨hr, hrest⟩ := List.nodup_cons.mp hnodup
    rw [unclaimed_cons, List.filter_cons]
    by_cases hheld : r.key ∈ held
    · simp [hheld, ih hrest]
    · -- `r` claims its key, which no later row asks for
      have hsame : (rest.filter fun q => !(held ++ [r.key]).contains q.key) =
          rest.filter fun q => !held.contains q.key := by
        apply List.filter_congr
        intro q hq
        have hne : q.key ≠ r.key := fun h => hr (h ▸ List.mem_map_of_mem hq)
        simp [hne]
      rw [if_neg hheld, ih hrest, hsame, if_pos (by simpa using hheld)]

/-! ## One statement -/

/-- A statement with many rows adds the unclaimed ones and counts them. -/
theorem insertMany_eq (rows : List Row) (s : Store) :
    insertMany rows s =
      ({ s with rows := s.rows ++ unclaimed s.keys rows }, (unclaimed s.keys rows).length) := by
  induction rows generalizing s with
  | nil => simp [insertMany]
  | cons r rest ih =>
    rw [insertMany, unclaimed_cons]
    by_cases htaken : r.key ∈ s.keys
    · rw [if_pos (taken_iff.mpr htaken), if_pos htaken, ih]
    · rw [if_neg (mt taken_iff.mp htaken), if_neg htaken, ih, keys_append]
      simp [append]

/-- Rows inserted by two statements are rows inserted by one. -/
theorem insertMany_append (first second : List Row) (s : Store) :
    insertMany (first ++ second) s =
      ((insertMany second (insertMany first s).1).1,
        (insertMany first s).2 + (insertMany second (insertMany first s).1).2) := by
  induction first generalizing s with
  | nil => simp [insertMany]
  | cons r rest ih =>
    rw [List.cons_append, insertMany, insertMany]
    split
    · exact ih s
    · simp only [ih, Prod.mk.injEq, true_and]
      omega

/-! ## Many statements -/

theorem flatten_chunks {α : Type} (size : Nat) (xs : List α) : (chunks size xs).flatten = xs := by
  fun_induction chunks size xs with
  | case1 => rfl
  | case2 x rest ih => rw [List.flatten_cons, ih, List.cons_append, List.take_append_drop]

/-- Statements executed one after the other, their counts added up. -/
theorem foldl_insertMany (pieces : List (List Row)) (s : Store) (n : Nat) :
    pieces.foldl (fun (s, n) piece => ((insertMany piece s).1, n + (insertMany piece s).2)) (s, n) =
      ((insertMany pieces.flatten s).1, n + (insertMany pieces.flatten s).2) := by
  induction pieces generalizing s n with
  | nil => simp [insertMany]
  | cons piece rest ih =>
    rw [List.foldl_cons, ih, List.flatten_cons, insertMany_append]
    simp only [Nat.add_assoc]

theorem insertBulk_eq_insertMany (width : Nat) (rows : List Row) (s : Store) :
    insertBulk width rows s = insertMany rows s := by
  have h := foldl_insertMany (chunks (max 1 (cellLimit / width)) rows) s 0
  rw [flatten_chunks, Nat.zero_add] at h
  exact h

/-- One row with its statement, the count so far going along. -/
def insertCounted (x : Store × Nat) (r : Row) : Store × Nat :=
  match x.1.insertOne? r with
  | some s' => (s', x.2 + 1)
  | none => (x.1, x.2)

theorem foldl_insertCounted (rows : List Row) (s : Store) (n : Nat) :
    rows.foldl insertCounted (s, n) = ((insertMany rows s).1, n + (insertMany rows s).2) := by
  induction rows generalizing s n with
  | nil => simp [insertMany]
  | cons r rest ih =>
    rw [List.foldl_cons, insertMany]
    by_cases htaken : s.taken r = true
    · rw [if_pos htaken, ← ih s n, insertCounted, insertOne?, if_pos htaken]
    · rw [if_neg htaken, insertCounted, insertOne?, if_neg htaken, ih, Nat.add_right_comm,
        Nat.add_assoc]

theorem insertEach_eq_insertMany (rows : List Row) (s : Store) :
    insertEach rows s = insertMany rows s := by
  have h := foldl_insertCounted rows s 0
  rw [Nat.zero_add] at h
  exact h

/-- Neither the mode nor the width of the table changes what is inserted. -/
theorem insertRows_eq_insertMany (mode : InsertMode) (table : Schema.Table) (rows : List Row)
    (s : Store) : insertRows mode table rows s = insertMany rows s := by
  cases mode with
  | bulk => exact insertBulk_eq_insertMany _ rows s
  | perRow => exact insertEach_eq_insertMany rows s

end Store

/-- Table and identity of a finding: the key of the row that it asks for. -/
def Finding.key (f : Finding) : String × String := (f.table, f.pk)

namespace Store

namespace Keyed

/-- Table and identity of a finding that has its identity. -/
def key (k : Keyed) : String × String := (k.finding.table, k.pk)

/-- The row that a finding becomes, if its table is known. -/
def row? (owner : Int) (k : Keyed) : Option Row :=
  (Schema.table? k.finding.table).map fun table => Row.ofFinding table owner k.pk k.finding

theorem key_of_row?_eq_some {owner : Int} {k : Keyed} {r : Row} (h : k.row? owner = some r) :
    r.key = k.key := by
  obtain ⟨table, htable, rfl⟩ := Option.map_eq_some_iff.mp h
  have hname := Schema.name_of_table?_eq_some htable
  simp only [Row.key, key, Row.ofFinding, ← hname, Schema.Table.name]

end Keyed

/-! ## The first finding of each identity -/

/-- One more finding is kept if its identity is new in its table. -/
theorem firstOfIdentity_concat (findings : List Finding) (f : Finding) :
    firstOfIdentity (findings ++ [f]) =
      if f.key ∈ (firstOfIdentity findings).map Keyed.key then firstOfIdentity findings
      else firstOfIdentity findings ++ [⟨f.pk, f⟩] := by
  have hany : ∀ kept : List Keyed,
      (kept.any fun j => j.finding.table == f.table && j.pk == f.pk) = true ↔
        f.key ∈ kept.map Keyed.key := by
    intro kept
    simp only [List.any_eq_true, List.mem_map, Bool.and_eq_true, beq_iff_eq, Keyed.key,
      Finding.key, Prod.mk.injEq]
  simp only [firstOfIdentity, List.map_append, List.map_cons, List.map_nil, List.foldl_append,
    List.foldl_cons, List.foldl_nil, hany, List.map_reverse, List.mem_reverse]
  split <;> simp

theorem nodup_firstOfIdentity (findings : List Finding) :
    ((firstOfIdentity findings).map Keyed.key).Nodup := by
  induction findings using List.reverseRecOn with
  | nil => exact List.nodup_nil
  | append_singleton findings f ih =>
    rw [firstOfIdentity_concat]
    split
    · exact ih
    · rename_i hnew
      rw [List.map_append]
      refine ih.append (List.nodup_singleton _) ?_
      intro key hold hadded
      rw [List.map_singleton, List.mem_singleton] at hadded
      rw [hadded] at hold
      exact hnew hold

/-- A kept finding is the first of the batch with its key, and it has its own identity. -/
theorem mem_firstOfIdentity {findings : List Finding} {k : Keyed} :
    k ∈ firstOfIdentity findings ↔
      k.pk = k.finding.pk ∧
        findings.find? (fun g => g.key = k.finding.key) = some k.finding := by
  induction findings using List.reverseRecOn generalizing k with
  | nil => simp [firstOfIdentity]
  | append_singleton findings f ih =>
    -- a key is taken exactly if a finding before has it
    have hkept : f.key ∈ (firstOfIdentity findings).map Keyed.key ↔
        ∃ g, findings.find? (fun g => g.key = f.key) = some g := by
      rw [List.mem_map]
      constructor
      · rintro ⟨j, hj, heq⟩
        obtain ⟨hpk, hfind⟩ := ih.mp hj
        have hkey : j.finding.key = f.key := by
          rw [← heq, Keyed.key, Finding.key, hpk]
        exact ⟨j.finding, hkey ▸ hfind⟩
      · rintro ⟨g, hg⟩
        have hkey : g.key = f.key := by simpa using List.find?_some hg
        exact ⟨⟨g.pk, g⟩, ih.mpr ⟨rfl, hkey ▸ hg⟩, hkey⟩
    rw [firstOfIdentity_concat, List.find?_append]
    split
    · rename_i hold
      obtain ⟨g, hg⟩ := hkept.mp hold
      rw [ih]
      refine and_congr_right fun _ => ?_
      by_cases hkey : f.key = k.finding.key
      · rw [hkey] at hg
        simp [hg]
      · simp [hkey]
    · rename_i hnew
      have hnone : findings.find? (fun g => g.key = f.key) = none := by
        by_contra hsome
        exact hnew (hkept.mpr (Option.ne_none_iff_exists'.mp hsome))
      rw [List.mem_append, List.mem_singleton, ih]
      by_cases hkey : f.key = k.finding.key
      · rw [hkey] at hnone
        simp only [hnone, hkey, List.find?_cons, decide_true, reduceCtorEq, and_false, false_or,
          Option.none_or, Option.some.injEq]
        constructor
        · rintro rfl
          exact ⟨rfl, rfl⟩
        · rintro ⟨hpk, rfl⟩
          rw [← hpk]
      · have hne : k ≠ ⟨f.pk, f⟩ := by
          rintro rfl
          exact hkey rfl
        simp [hkey, hne]

/-- Thinning out a batch loses no key. -/
theorem exists_mem_firstOfIdentity {findings : List Finding} {f : Finding} (hf : f ∈ findings) :
    ∃ k ∈ firstOfIdentity findings, k.key = f.key := by
  have hsome : (findings.find? fun g => g.key = f.key).isSome := by
    rw [List.find?_isSome]
    exact ⟨f, hf, by simp⟩
  obtain ⟨g, hg⟩ := Option.isSome_iff_exists.mp hsome
  have hkey : g.key = f.key := by simpa using List.find?_some hg
  exact ⟨⟨g.pk, g⟩, mem_firstOfIdentity.mpr ⟨rfl, hkey ▸ hg⟩, hkey⟩

theorem finding_mem_of_mem_firstOfIdentity {findings : List Finding} {k : Keyed}
    (hk : k ∈ firstOfIdentity findings) : k.finding ∈ findings :=
  List.mem_of_find?_eq_some (mem_firstOfIdentity.mp hk).2

/-! ## Sorting by table -/

theorem byTable_concat (kept : List Keyed) (k : Keyed) :
    byTable (kept ++ [k]) =
      (byTable kept).modify k.finding.table fun group => group.getD [] ++ [k] := by
  simp [byTable]

theorem ascending_byTable (kept : List Keyed) : (byTable kept).Ascending := by
  induction kept using List.reverseRecOn with
  | nil => exact Assoc.ascending_nil
  | append_singleton kept k ih =>
    rw [byTable_concat]
    exact Assoc.ascending_modify ih

/-- One more finding in its group is one more finding. -/
theorem flatMap_modify_perm {groups : Assoc (List Keyed)} (h : groups.Ascending) (name : String)
    (k : Keyed) :
    ((groups.modify name fun group => group.getD [] ++ [k]).flatMap (·.2)).Perm
      (groups.flatMap (·.2) ++ [k]) := by
  induction groups with
  | nil => simp [Assoc.modify_nil]
  | cons p rest ih =>
    obtain ⟨name', group⟩ := p
    rcases lt_trichotomy name name' with hlt | rfl | hgt
    · rw [Assoc.modify_cons_of_lt h hlt]
      exact (List.perm_append_singleton k _).symm
    · rw [Assoc.modify_cons_self]
      simp only [List.flatMap_cons, Option.getD_some, List.append_assoc]
      exact List.perm_append_comm.append_left group
    · rw [Assoc.modify_cons_of_gt (p := (name', group)) hgt]
      simp only [List.flatMap_cons, List.append_assoc]
      exact (ih (Assoc.ascending_cons.mp h).2).append_left group

/-- Sorting by table loses no finding and repeats none. -/
theorem flatMap_byTable_perm (kept : List Keyed) : ((byTable kept).flatMap (·.2)).Perm kept := by
  induction kept using List.reverseRecOn with
  | nil => exact List.Perm.refl _
  | append_singleton kept k ih =>
    rw [byTable_concat]
    exact (flatMap_modify_perm (ascending_byTable kept) _ k).trans (ih.append_right [k])

/-- A group is under the table of its findings, of which it has at least one. -/
theorem group_of_mem_byTable {kept : List Keyed} {g : String × List Keyed}
    (hg : g ∈ byTable kept) : g.2 ≠ [] ∧ ∀ k ∈ g.2, k.finding.table = g.1 := by
  induction kept using List.reverseRecOn generalizing g with
  | nil => cases hg
  | append_singleton kept k ih =>
    rw [byTable_concat] at hg
    have hfind := (Assoc.find?_eq_some_iff (Assoc.ascending_modify (ascending_byTable kept))).mpr hg
    by_cases hname : g.1 = k.finding.table
    · rw [hname, Assoc.modify, Assoc.find?_insert_self, Option.some.injEq] at hfind
      rw [← hfind, hname]
      refine ⟨by simp, fun j hj => ?_⟩
      rcases List.mem_append.mp hj with hj | hj
      · cases hold : (byTable kept).find? k.finding.table with
        | none => simp [hold] at hj
        | some group =>
          rw [hold, Option.getD_some] at hj
          exact (ih (Assoc.mem_of_find?_eq_some hold)).2 j hj
      · rw [List.mem_singleton.mp hj]
    · rw [Assoc.modify, Assoc.find?_insert_of_ne hname] at hfind
      exact ih (Assoc.mem_of_find?_eq_some hfind)

/-! ## Writing the groups -/

/-- A table of that name belongs to a tool and exists. -/
def Offers (s : Store) (name : String) : Prop :=
  (Schema.table? name).isSome ∧ s.hasTable name = true

instance (s : Store) (name : String) : Decidable (s.Offers name) :=
  inferInstanceAs (Decidable (_ ∧ _))

/-- The table found is that of the schema, and it exists. -/
theorem requireTable_eq_ok_iff {s : Store} {name : String} {table : Schema.Table} :
    s.requireTable name = .ok table ↔
      Schema.table? name = some table ∧ s.hasTable name = true := by
  unfold requireTable
  split
  · simp_all
  · split <;> simp_all

/-- The table of a tool is the one in its name, where that exists. -/
theorem offers_iff_exists {s : Store} {name : String} :
    s.Offers name ↔ ∃ table, s.requireTable name = .ok table := by
  simp only [requireTable_eq_ok_iff, Offers, Option.isSome_iff_exists, exists_and_right]

/-- Groups of tables on offer are inserted like the list of their rows. -/
theorem writeGroups_eq_of_known {mode : InsertMode} {owner : Int} {groups : Assoc (List Keyed)}
    (hgroups : ∀ g ∈ groups, ∀ k ∈ g.2, k.finding.table = g.1) {s : Store}
    (hoffered : ∀ g ∈ groups, s.Offers g.1) :
    writeGroups mode owner groups s =
      ((insertMany ((groups.flatMap (·.2)).filterMap (Keyed.row? owner)) s).1,
        .ok (insertMany ((groups.flatMap (·.2)).filterMap (Keyed.row? owner)) s).2) := by
  induction groups generalizing s with
  | nil => rfl
  | cons g rest ih =>
    obtain ⟨name, group⟩ := g
    obtain ⟨table, htable⟩ := offers_iff_exists.mp (hoffered (name, group) List.mem_cons_self)
    have hrows : group.filterMap (Keyed.row? owner) =
        group.map fun k => Row.ofFinding table owner k.pk k.finding := by
      rw [← List.filterMap_eq_map]
      refine List.filterMap_congr fun k hk => ?_
      rw [Keyed.row?, hgroups (name, group) List.mem_cons_self k hk,
        (requireTable_eq_ok_iff.mp htable).1]
      rfl
    -- inserting rows creates and removes no table
    have hstay (rows : List Row) : ∀ g ∈ rest, (insertMany rows s).1.Offers g.1 := by
      intro g hg
      rw [insertMany_eq]
      exact hoffered g (List.mem_cons_of_mem _ hg)
    have hrest (rows : List Row) :=
      ih (fun g hg => hgroups g (List.mem_cons_of_mem _ hg)) (hstay rows)
    simp only [writeGroups, htable, insertRows_eq_insertMany, hrest, List.flatMap_cons,
      List.filterMap_append, hrows, insertMany_append]

/-- Groups that could be written are of tables on offer. -/
theorem offers_of_writeGroups_eq_ok {mode : InsertMode} {owner : Int}
    {groups : Assoc (List Keyed)} {s s' : Store} {n : Nat}
    (h : writeGroups mode owner groups s = (s', .ok n)) :
    ∀ g ∈ groups, s.Offers g.1 := by
  induction groups generalizing s s' n with
  | nil => simp
  | cons g rest ih =>
    obtain ⟨name, group⟩ := g
    rw [writeGroups] at h
    split at h
    · cases h
    · rename_i table htable
      dsimp only at h
      split at h
      · rename_i hrest
        intro g hg
        rcases List.mem_cons.mp hg with rfl | hg
        · exact offers_iff_exists.mpr ⟨table, htable⟩
        · have hoffer := ih hrest g hg
          rwa [insertRows_eq_insertMany, insertMany_eq] at hoffer
      · cases h

/-! ## Writing a scan -/

/-- The tables that a scan with some findings needs are there: that of the scans, and those of
the findings. -/
def Writable (s : Store) (findings : List Finding) : Prop :=
  s.hasTable scansTable = true ∧ ∀ f ∈ findings, s.Offers f.table

/-- The rows that the findings of a scan bring: those of the first finding of each identity, as
far as their key is free. -/
def newRows (s : Store) (owner : Int) (findings : List Finding) : List Row :=
  (((byTable (firstOfIdentity findings)).flatMap (·.2)).filterMap (Keyed.row? owner)).filter
    fun r => !s.keys.contains r.key

/-- The store after a scan was written. -/
def written (s : Store) (info : ScanInfo) (findings : List Finding) : Store :=
  { s with
      lastId := s.lastId + 1
      scans := s.scans ++ [⟨s.lastId + 1, info.timestamp, info.tool?, info.target?⟩]
      rows := s.rows ++ s.newRows (s.lastId + 1) findings }

/-- The keys of the rows of some findings are theirs, as far as their tables are known. -/
theorem keys_filterMap_row?_sublist (owner : Int) (kept : List Keyed) :
    ((kept.filterMap (Keyed.row? owner)).map Row.key).Sublist (kept.map Keyed.key) := by
  induction kept with
  | nil => exact List.Sublist.refl _
  | cons k rest ih =>
    rw [List.filterMap_cons, List.map_cons]
    cases hrow : k.row? owner with
    | none => exact ih.cons _
    | some r =>
      simp only [List.map_cons, Keyed.key_of_row?_eq_some hrow]
      exact ih.cons_cons _

theorem nodup_keys_rows (owner : Int) (findings : List Finding) :
    ((((byTable (firstOfIdentity findings)).flatMap (·.2)).filterMap
      (Keyed.row? owner)).map Row.key).Nodup := by
  have hperm := (flatMap_byTable_perm (firstOfIdentity findings)).map Keyed.key
  exact (keys_filterMap_row?_sublist owner _).nodup
    (hperm.nodup_iff.mpr (nodup_firstOfIdentity findings))

theorem nodup_keys_newRows (s : Store) (owner : Int) (findings : List Finding) :
    ((s.newRows owner findings).map Row.key).Nodup :=
  (List.filter_sublist.map _).nodup (nodup_keys_rows owner findings)

theorem length_firstOfIdentity_le (findings : List Finding) :
    (firstOfIdentity findings).length ≤ findings.length := by
  induction findings using List.reverseRecOn with
  | nil => exact Nat.le_refl _
  | append_singleton findings f ih =>
    rw [firstOfIdentity_concat, List.length_append, List.length_singleton]
    split
    · omega
    · rw [List.length_append, List.length_singleton]
      omega

/-- There are no more new rows than findings. -/
theorem length_newRows_le (s : Store) (owner : Int) (findings : List Finding) :
    (s.newRows owner findings).length ≤ findings.length := by
  have hkept := (flatMap_byTable_perm (firstOfIdentity findings)).length_eq
  exact ((List.length_filter_le _ _).trans (List.length_filterMap_le _ _)).trans
    (hkept.le.trans (length_firstOfIdentity_le findings))

/-- A new row is that of the first finding with its key, a key that was free. -/
theorem mem_newRows {s : Store} {owner : Int} {findings : List Finding} {r : Row} :
    r ∈ s.newRows owner findings ↔
      ∃ f table, findings.find? (fun g => g.key = f.key) = some f ∧ f.key ∉ s.keys ∧
        Schema.table? f.table = some table ∧ r = Row.ofFinding table owner f.pk f := by
  simp only [newRows, List.mem_filter, List.mem_filterMap, Bool.not_eq_true',
    ← Bool.not_eq_true, List.contains_iff_mem,
    (flatMap_byTable_perm (firstOfIdentity findings)).mem_iff, mem_firstOfIdentity]
  constructor
  · rintro ⟨⟨k, ⟨hpk, hfind⟩, hrow⟩, hfree⟩
    rw [Keyed.key_of_row?_eq_some hrow, Keyed.key, hpk] at hfree
    obtain ⟨table, htable, rfl⟩ := Option.map_eq_some_iff.mp hrow
    exact ⟨k.finding, table, hfind, hfree, htable, by rw [hpk]⟩
  · rintro ⟨f, table, hfind, hfree, htable, rfl⟩
    have hrow : (⟨f.pk, f⟩ : Keyed).row? owner = some (Row.ofFinding table owner f.pk f) := by
      rw [Keyed.row?, htable]
      rfl
    refine ⟨⟨⟨f.pk, f⟩, ⟨rfl, hfind⟩, hrow⟩, ?_⟩
    rw [Keyed.key_of_row?_eq_some hrow]
    exact hfree

/-- **Writing a scan**, where it can be written. -/
theorem persist_eq_of_writable {s : Store} {findings : List Finding}
    (h : s.Writable findings) (mode : InsertMode) (info : ScanInfo) :
    s.persist mode info findings =
      (s.written info findings,
        .ok (s.lastId + 1, (s.newRows (s.lastId + 1) findings).length)) := by
  obtain ⟨hscans, hoffered⟩ := h
  have hgroups : ∀ g ∈ byTable (firstOfIdentity findings), s.Offers g.1 := by
    intro g hg
    obtain ⟨hne, htable⟩ := group_of_mem_byTable hg
    obtain ⟨k, hk⟩ := List.exists_mem_of_ne_nil _ hne
    have hmem : k ∈ firstOfIdentity findings :=
      (flatMap_byTable_perm _).mem_iff.mp (List.mem_flatMap.mpr ⟨g, hg, hk⟩)
    rw [← htable k hk]
    exact hoffered _ (finding_mem_of_mem_firstOfIdentity hmem)
  have hwrite (scans : List Scan) := @writeGroups_eq_of_known mode (s.lastId + 1) _
    (fun g hg => (group_of_mem_byTable hg).2) { s with lastId := s.lastId + 1, scans := scans }
    hgroups
  simp only [persist, transact, persistSteps, addScan, hscans, if_true, hwrite, insertMany_eq,
    unclaimed_eq_filter (nodup_keys_rows _ findings), written]
  rfl

/-- A scan that was written could be written. -/
theorem writable_of_persist_eq_ok {s s' : Store} {mode : InsertMode} {info : ScanInfo}
    {findings : List Finding} {answer : Int × Nat}
    (h : s.persist mode info findings = (s', .ok answer)) : s.Writable findings := by
  rw [persist, transact, persistSteps, addScan] at h
  cases hscans : s.hasTable scansTable with
  | false => simp [hscans] at h
  | true =>
    refine ⟨hscans, fun f hf => ?_⟩
    simp only [hscans, if_true] at h
    split at h
    · rename_i hsteps
      split at hsteps
      · rename_i hgroups
        -- the table of `f` is that of the group in which a finding with its key is kept
        obtain ⟨k, hk, hkey⟩ := exists_mem_firstOfIdentity hf
        obtain ⟨g, hg, hkg⟩ :=
          List.mem_flatMap.mp ((flatMap_byTable_perm _).mem_iff.mpr hk)
        have htable : f.table = g.1 :=
          (congrArg Prod.fst hkey).symm.trans ((group_of_mem_byTable hg).2 k hkg)
        rw [htable]
        exact offers_of_writeGroups_eq_ok hgroups g hg
      · cases hsteps
    · cases h

/-- What a scan that was written left behind, and what its answer counts. -/
theorem persist_eq_written {s : Store} {mode : InsertMode} {info : ScanInfo}
    {findings : List Finding} {id : Int} {n : Nat}
    (h : (s.persist mode info findings).2 = .ok (id, n)) :
    (s.persist mode info findings).1 = s.written info findings ∧
      n = (s.newRows (s.lastId + 1) findings).length := by
  have hok : s.persist mode info findings =
      ((s.persist mode info findings).1, .ok (id, n)) := by rw [← h]
  have hpersist := persist_eq_of_writable (writable_of_persist_eq_ok hok) mode info
  rw [hpersist] at h ⊢
  cases h
  exact ⟨rfl, rfl⟩

/-- An error leaves the store as it was. -/
theorem persist_eq_self_of_error {s s' : Store} {mode : InsertMode} {info : ScanInfo}
    {findings : List Finding} {e : StoreError}
    (h : s.persist mode info findings = (s', .error e)) : s' = s := by
  rw [persist, transact] at h
  split at h
  · cases h
  · cases h
    rfl

/-! ## Findings that are stored beside each other -/

variable {s : Store} {findings : List Finding} {f g : Finding}

/-- A scan brings a row for every key that is free. -/
theorem length_newRows (h : s.Writable findings) (owner : Int) :
    (s.newRows owner findings).length =
      ((firstOfIdentity findings).filter fun k => !s.keys.contains k.key).length := by
  have hknown : ∀ k ∈ firstOfIdentity findings, (Schema.table? k.finding.table).isSome :=
    fun k hk => (h.2 k.finding (finding_mem_of_mem_firstOfIdentity hk)).1
  -- grouping by table only reorders what is kept
  have hperm := ((flatMap_byTable_perm (firstOfIdentity findings)).filterMap
    (Keyed.row? owner)).filter fun r => !s.keys.contains r.key
  rw [newRows, hperm.length_eq]
  generalize firstOfIdentity findings = kept at hknown
  induction kept with
  | nil => rfl
  | cons k rest ih =>
    obtain ⟨table, htable⟩ := Option.isSome_iff_exists.mp (hknown k List.mem_cons_self)
    have hrow : k.row? owner = some (Row.ofFinding table owner k.pk k.finding) := by
      rw [Keyed.row?, htable, Option.map_some]
    have hrest := ih fun k hk => hknown k (List.mem_cons_of_mem _ hk)
    rw [List.filterMap_cons, hrow, List.filter_cons, List.filter_cons,
      Keyed.key_of_row?_eq_some hrow]
    split
    · rw [List.length_cons, List.length_cons, hrest]
    · exact hrest

/-- **Every finding of a scan has its key in the store afterwards.** -/
theorem exists_row_of_mem (h : s.Writable findings) (mode : InsertMode) (info : ScanInfo)
    (hf : f ∈ findings) : ∃ r ∈ (s.persist mode info findings).1.rows, r.key = f.key := by
  rw [persist_eq_of_writable h]
  by_cases htaken : f.key ∈ s.keys
  · obtain ⟨r, hr, hkey⟩ := List.mem_map.mp htaken
    exact ⟨r, List.mem_append_left _ hr, hkey⟩
  · obtain ⟨k, hk, hkey⟩ := exists_mem_firstOfIdentity hf
    obtain ⟨hpk, hfirst⟩ := mem_firstOfIdentity.mp hk
    have hmem := finding_mem_of_mem_firstOfIdentity hk
    obtain ⟨table, htable⟩ := Option.isSome_iff_exists.mp (h.2 k.finding hmem).1
    have hown : k.finding.key = f.key := by
      rw [← hkey, Keyed.key, Finding.key, hpk]
    have hrow : k.row? (s.lastId + 1) =
        some (Row.ofFinding table (s.lastId + 1) k.pk k.finding) := by
      rw [Keyed.row?, htable, Option.map_some]
    refine ⟨_, List.mem_append_right _ (mem_newRows.mpr
      ⟨k.finding, table, hfirst, hown ▸ htaken, htable, rfl⟩), ?_⟩
    rw [← hpk, Keyed.key_of_row?_eq_some hrow, hkey]

theorem firstOfIdentity_pair (f g : Finding) :
    firstOfIdentity [f, g] = if f.key = g.key then [⟨f.pk, f⟩] else [⟨f.pk, f⟩, ⟨g.pk, g⟩] := by
  have hsingle : firstOfIdentity [f] = [⟨f.pk, f⟩] := rfl
  rw [← List.singleton_append, firstOfIdentity_concat, hsingle]
  by_cases h : f.key = g.key
  · rw [if_pos h, if_pos (by simpa [Keyed.key, Finding.key] using h.symm)]
  · rw [if_neg h, if_neg (by simpa [Keyed.key, Finding.key, eq_comm] using h)]
    rfl

/-- **Of two findings whose keys are free both are new exactly if their keys differ.** -/
theorem persist_pair (h : s.Writable [f, g]) (mode : InsertMode) (info : ScanInfo)
    (hf : f.key ∉ s.keys) (hg : g.key ∉ s.keys) :
    (s.persist mode info [f, g]).2 = .ok (s.lastId + 1, if f.key = g.key then 1 else 2) := by
  have hf' : (Keyed.key ⟨f.pk, f⟩) ∉ s.keys := hf
  have hg' : (Keyed.key ⟨g.pk, g⟩) ∉ s.keys := hg
  rw [persist_eq_of_writable h, length_newRows h, firstOfIdentity_pair]
  split <;> simp [hf', hg']

end Store

end LintLedger
