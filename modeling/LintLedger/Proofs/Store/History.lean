import LintLedger.Proofs.Store.Reachable

/-!
# Histories of a store

A history is a list of calls made to one database, each with what it answered.  Whatever the
calls and however they end, the store they leave is a reachable one, and later scans get greater
identifiers than all scans before them, removed ones included.  The insert mode of a call shows
neither in its answer nor in what it leaves behind.

## Main Definitions

* `Store.Operation` -- a call that changes the store
* `Store.Answer` -- what a call answers
* `Store.history` -- calls one after the other, with their answers

## Main Statements

* `Store.history_sound` -- keys are present and distinct, owners exist, identifiers ascend
* `Store.history_inMode` -- the insert modes make no difference

## Design Notes

The database keeps its insert mode between calls and callers may switch it, so that each
`persist` of a history has a mode of its own.
-/

namespace LintLedger.Store

/-- A call that changes the store. -/
inductive Operation where
  | seed
  | persist (mode : InsertMode) (info : ScanInfo) (findings : List Finding)
  | deleteScan (id : Int)
  | pruneBefore (timestamp : String)

/-- What a call answers. -/
inductive Answer where
  | seeded
  | persisted (id : Int) (inserted : Nat)
  | removed (scans : Nat)
  | failed (e : StoreError)
deriving DecidableEq, Repr

namespace Answer

/-- The identifier of the scan that was written, if one was. -/
def scan? : Answer → Option Int
  | .persisted id _ => some id
  | _ => none

/-- The answer to writing a scan. -/
def ofPersist : Except StoreError (Int × Nat) → Answer
  | .ok (id, n) => .persisted id n
  | .error e => .failed e

/-- The answer to removing scans. -/
def ofRemoval : Except StoreError Nat → Answer
  | .ok n => .removed n
  | .error e => .failed e

end Answer

namespace Operation

/-- Makes a call. -/
def apply : Operation → Store → Store × Answer
  | .seed, s => (s.seed, .seeded)
  | .persist mode info findings, s =>
    let (s', result) := s.persist mode info findings
    (s', .ofPersist result)
  | .deleteScan id, s =>
    let (s', result) := s.deleteScan id
    (s', .ofRemoval result)
  | .pruneBefore timestamp, s =>
    let (s', result) := s.pruneBefore timestamp
    (s', .ofRemoval result)

/-- The same call in the given insert mode, if it is one that writes rows. -/
def inMode (mode : InsertMode) : Operation → Operation
  | .persist _ info findings => .persist mode info findings
  | op => op

end Operation

/-- Makes calls one after the other. -/
def history : List Operation → Store → Store × List Answer
  | [], s => (s, [])
  | op :: rest, s =>
    let (s', answer) := op.apply s
    let (s'', answers) := history rest s'
    (s'', answer :: answers)

variable {s : Store}

@[simp] theorem history_nil : history [] s = (s, []) := rfl

theorem history_cons (op : Operation) (rest : List Operation) :
    history (op :: rest) s =
      ((history rest (op.apply s).1).1, (op.apply s).2 :: (history rest (op.apply s).1).2) := rfl

/-! ## What one call keeps -/

theorem Reachable.apply (h : Reachable s) (op : Operation) : Reachable (op.apply s).1 := by
  cases op with
  | seed => exact h.seed
  | persist mode info findings => exact h.persist mode info findings
  | deleteScan id => exact h.deleteScan id
  | pruneBefore timestamp => exact h.pruneBefore timestamp

theorem lastId_removeScans (gone : Scan → Bool) : (s.removeScans gone).1.lastId = s.lastId := by
  rw [removeScans]
  split <;> rfl

/-- The greatest identifier never goes down, and it is that of the scan just written. -/
theorem lastId_apply (op : Operation) :
    s.lastId ≤ (op.apply s).1.lastId ∧
      ∀ id ∈ (op.apply s).2.scan?, s.lastId < id ∧ id = (op.apply s).1.lastId := by
  cases op with
  | seed => exact ⟨le_refl _, nofun⟩
  | persist mode info findings =>
    simp only [Operation.apply]
    rcases hresult : s.persist mode info findings with ⟨s', e | ⟨id, n⟩⟩
    · rw [persist_eq_self_of_error hresult]
      exact ⟨le_refl _, nofun⟩
    · rw [persist_eq_of_writable (writable_of_persist_eq_ok hresult)] at hresult
      cases hresult
      refine ⟨by simp [written], ?_⟩
      rintro id ⟨⟩
      exact ⟨by omega, rfl⟩
  | deleteScan id =>
    have hsame : (Operation.apply (.deleteScan id) s).1.lastId = s.lastId := lastId_removeScans _
    refine ⟨hsame.ge, fun i hi => ?_⟩
    simp only [Operation.apply] at hi
    rcases hresult : s.deleteScan id with ⟨s', e | n⟩ <;> rw [hresult] at hi <;> cases hi
  | pruneBefore timestamp =>
    have hsame : (Operation.apply (.pruneBefore timestamp) s).1.lastId = s.lastId :=
      lastId_removeScans _
    refine ⟨hsame.ge, fun i hi => ?_⟩
    simp only [Operation.apply] at hi
    rcases hresult : s.pruneBefore timestamp with ⟨s', e | n⟩ <;> rw [hresult] at hi <;> cases hi

/-! ## What a history keeps -/

theorem Reachable.history (h : Reachable s) (ops : List Operation) :
    Reachable (history ops s).1 := by
  induction ops generalizing s with
  | nil => exact h
  | cons op rest ih => exact ih (h.apply op)

/-- The identifiers that a history hands out ascend, from beyond all that were given before. -/
theorem ascending_scans_history (ops : List Operation) :
    (∀ id ∈ (history ops s).2.filterMap Answer.scan?, s.lastId < id) ∧
      ((history ops s).2.filterMap Answer.scan?).Pairwise (· < ·) := by
  induction ops generalizing s with
  | nil => exact ⟨by simp, by simp⟩
  | cons op rest ih =>
    obtain ⟨hle, hnew⟩ := lastId_apply (s := s) op
    obtain ⟨hbeyond, hascending⟩ := ih (s := (op.apply s).1)
    rw [history_cons]
    cases hscan : (op.apply s).2.scan? with
    | none =>
      rw [List.filterMap_cons_none hscan]
      exact ⟨fun id hid => hle.trans_lt (hbeyond id hid), hascending⟩
    | some id =>
      obtain ⟨hlt, heq⟩ := hnew id hscan
      rw [List.filterMap_cons_some hscan]
      refine ⟨fun later hlater => ?_, List.pairwise_cons.mpr ⟨?_, hascending⟩⟩
      · rcases List.mem_cons.mp hlater with rfl | hlater
        · exact hlt
        · exact hle.trans_lt (hbeyond later hlater)
      · intro later hlater
        rw [heq]
        exact hbeyond later hlater

/-- The keys of one table are distinct where no two rows have the same table and key. -/
theorem nodup_pks_rowsOf (h : s.keys.Nodup) (t : Tool) :
    ((s.rowsOf t).map (·.pk)).Nodup := by
  have hkeys : ((s.rowsOf t).map Row.key).Nodup := (List.filter_sublist.map Row.key).nodup h
  have hpairs : (s.rowsOf t).map Row.key =
      ((s.rowsOf t).map (·.pk)).map fun pk => (t.tableName, pk) := by
    rw [List.map_map]
    refine List.map_congr_left fun r hr => ?_
    have htool : r.tool = t := by simpa using (List.mem_filter.mp hr).2
    rw [Row.key, htool, Function.comp_apply]
  rw [hpairs] at hkeys
  exact List.Nodup.of_map _ hkeys

/-- **The state of a database, whatever was done with it**, by calls that succeed or fail: the
cell of the primary key holds a text in every row of a table, and no text twice; the cell of the
scan holds the identifier of a stored scan; and the scans that were written got greater and
greater identifiers, past those of scans that are gone. -/
theorem history_sound (ops : List Operation) :
    (∀ t : Tool,
      (∀ r ∈ ((history ops empty).1.rowsOf t), ∃ pk, r.cells[0]? = some (.text pk)) ∧
      (((history ops empty).1.rowsOf t).map fun r => r.cells[0]?).Nodup ∧
      ∀ r ∈ ((history ops empty).1.rowsOf t), ∃ scan ∈ (history ops empty).1.scans,
        r.cells[1]? = some (.integer scan.id)) ∧
      ((history ops empty).2.filterMap Answer.scan?).Pairwise (· < ·) := by
  have hsound := (Reachable.empty.history ops).sound
  refine ⟨fun t => ⟨fun r _ => ⟨r.pk, rfl⟩, ?_, fun r hr => ?_⟩, (ascending_scans_history ops).2⟩
  · have hcells : (((history ops empty).1.rowsOf t).map fun r => r.cells[0]?) =
        (((history ops empty).1.rowsOf t).map (·.pk)).map fun pk => some (Cell.text pk) := by
      rw [List.map_map]
      rfl
    rw [hcells]
    refine (nodup_pks_rowsOf hsound.distinct t).map fun pk pk' h => ?_
    cases h
    rfl
  · obtain ⟨scan, hscan, howner⟩ := hsound.owned r (List.mem_filter.mp hr).1
    exact ⟨scan, hscan, by rw [howner]; rfl⟩

/-! ## Insert modes -/

theorem writeGroups_eq_of_modes (mode mode' : InsertMode) (owner : Int)
    (groups : Assoc (List Keyed)) (s : Store) :
    writeGroups mode owner groups s = writeGroups mode' owner groups s := by
  induction groups generalizing s with
  | nil => rfl
  | cons g rest ih =>
    obtain ⟨name, group⟩ := g
    simp only [writeGroups, insertRows_eq_insertMany, ih]

/-- Writing a scan comes to the same in both modes, be it written or not. -/
theorem persist_eq_of_modes (mode mode' : InsertMode) (info : ScanInfo)
    (findings : List Finding) (s : Store) :
    s.persist mode info findings = s.persist mode' info findings := by
  have hsteps : persistSteps mode info findings = persistSteps mode' info findings := by
    funext s
    simp only [persistSteps, writeGroups_eq_of_modes mode mode']
  rw [persist, persist, hsteps]

theorem apply_inMode (mode : InsertMode) (op : Operation) (s : Store) :
    (op.inMode mode).apply s = op.apply s := by
  cases op with
  | persist mode' info findings =>
    simp only [Operation.inMode, Operation.apply, persist_eq_of_modes mode mode']
  | seed => rfl
  | deleteScan id => rfl
  | pruneBefore timestamp => rfl

/-- **The insert modes make no difference**: calls made in whatever modes to whatever store get
the same answers and leave the same store. -/
theorem history_inMode (modes : Nat → InsertMode) (ops : List Operation) (s : Store) :
    history (ops.mapIdx fun i op => op.inMode (modes i)) s = history ops s := by
  induction ops generalizing s modes with
  | nil => rfl
  | cons op rest ih =>
    rw [List.mapIdx_cons, history_cons, history_cons, apply_inMode]
    rw [ih fun i => modes (i + 1)]

end LintLedger.Store
