import LintLedger.Proofs.Session.Database
import LintLedger.Proofs.Store.Removal
import LintLedger.Proofs.Timestamp.Writing
import LintLedger.Session.Run

/-!
# Pruning a database

The command that prunes reads a time, writes it like the timestamps of scans and removes the scans
whose timestamps are less as texts.  These are the scans before the instant that was meant, cut to
the whole second -- as long as that instant, in universal time, has a year of four digits.  The text
of a longer year begins with a sign, and then nothing is removed.

## Main Definitions

* `Store.Stamped` -- the scans carry the texts of some times
* `Timestamp.Writing.Follows` -- which times a pruning takes to be earlier

## Main Statements

* `Timestamp.Writing.Valid.toText_lt_iff` -- which timestamps are less than the text of a written
  time
* `Session.perform_prune` -- what the command does
* `Session.prune_removes_earlier` -- which scans it removes
* `PrunedDatabase.prune_keeps_earlier` -- a year of five digits keeps scans that are earlier
-/

namespace LintLedger

/-- The scans of a store carry the texts of some times with years of four digits. -/
def Store.Stamped (time : Scan → Timestamp) (s : Store) : Prop :=
  ∀ scan ∈ s.scans, (time scan).FourDigits ∧ scan.timestamp = (time scan).toText

namespace Timestamp.Writing

/-- A time is before the instant of a writing, cut to the second, and that instant before the year
10000. -/
def Follows (v : Writing) (t : Timestamp) : Prop :=
  v.instant < yearTenThousand ∧ t.instant < v.instant.cut

instance (v : Writing) (t : Timestamp) : Decidable (v.Follows t) :=
  inferInstanceAs (Decidable (_ ∧ _))

variable {v : Writing} {t : Timestamp}

/-- **Which timestamps are less** than the text of a written time in universal time. -/
theorem Valid.toText_lt_iff (h : v.Valid) (ht : t.FourDigits) :
    t.toText < v.universal.toText ↔ v.Follows t := by
  have hpart : 0 ≤ (ofLex v.instant).2 :=
    add_nonneg (Nat.cast_nonneg v.time.second) h.part_bounds.1
  rw [toText_lt_toText_iff ht h.universal_onClock, h.instant_universal,
    cut_lt_yearTenThousand_iff hpart, Follows]

end Timestamp.Writing

namespace Session

variable {host : Host} {again : Respawn} {process : Nat} {task : Task} {w w' : World}
  {s : Store} {before : String} {read : Timestamp}

/-- A database that was opened has all its tables, whether it has a file or not. -/
theorem complete_of_openDatabase (h : openDatabase host task.settings w = (w', .ok s)) :
    s.Complete := by
  unfold openDatabase at h
  dsimp only at h
  split at h
  · cases h
  · cases h
    exact Store.complete_seed _

/-- **What the command does**, if it can read the time and open the database. -/
theorem perform_prune (hcommand : task.invocation.command = .prune before)
    (hread : Timestamp.ofText? before = some read)
    (hopen : openDatabase host task.settings w = (w', .ok s)) :
    perform host again process task w =
      (saveDatabase host task.settings
        (s.without fun scan => scan.timestamp < read.toText) w').done
        (if task.invocation.quiet then []
          else ["Removed " ++ toString (s.olderThan read.toText).length ++
            " scan(s) older than " ++ read.toText]) := by
  have hscans := complete_of_openDatabase hopen _ List.mem_cons_self
  have hprune : s.pruneBefore read.toText = _ := Store.removeScans_eq hscans _
  simp only [perform, hcommand, prune, hread, hopen, hprune]
  rfl

/-- What the database holds afterwards. -/
theorem content_prune (hcommand : task.invocation.command = .prune before)
    (hread : Timestamp.ofText? before = some read)
    (hopen : openDatabase host task.settings w = (w', .ok s))
    (hfile : hasNoFile task.settings.database.path = false) :
    (perform host again process task w).world.tree.content (databaseFile host task.settings) =
      .ok (.ledger (s.without fun scan => scan.timestamp < read.toText)) := by
  obtain ⟨-, hcontent, -⟩ := content_of_openDatabase hfile hopen
  rw [perform_prune hcommand hread hopen]
  exact content_saveStore hfile hcontent _

/-- **Which scans a pruning removes.**  Whatever time the command accepts, it is a written one; and
of a store whose scans carry timestamps the command removes those, with their rows, that are before
the instant that is meant -- cut to the whole second, and if its year has four digits. -/
theorem prune_removes_earlier (hcommand : task.invocation.command = .prune before)
    (haccepted : (Timestamp.ofText? before).isSome)
    (hopen : openDatabase host task.settings w = (w', .ok s)) {time : Scan → Timestamp}
    (hstamped : s.Stamped time) :
    (∃ v : Timestamp.Writing, v.Valid ∧ v.text = before.toList) ∧
      ∀ v : Timestamp.Writing, v.Valid → v.text = before.toList →
        let left := s.without fun scan => v.Follows (time scan)
        let session := perform host again process task w
        session.exitCode = 0 ∧ session.world = saveDatabase host task.settings left w' ∧
          (hasNoFile task.settings.database.path = false →
            session.world.tree.content (databaseFile host task.settings) = .ok (.ledger left)) := by
  obtain ⟨read, hread⟩ := Option.isSome_iff_exists.mp haccepted
  obtain ⟨v₀, hvalid₀, htext₀, -⟩ := Timestamp.ofText?_eq_some_iff.mp hread
  refine ⟨⟨v₀, hvalid₀, htext₀⟩, fun v hvalid htext => ?_⟩
  have hread : Timestamp.ofText? before = some v.universal := hvalid.ofText?_eq htext
  have hsame : s.without (fun scan => scan.timestamp < v.universal.toText) =
      s.without fun scan => v.Follows (time scan) := by
    refine Store.without_congr fun scan hscan => ?_
    obtain ⟨hfour, hstamp⟩ := hstamped scan hscan
    rw [decide_eq_decide, hstamp]
    exact hvalid.toText_lt_iff hfour
  dsimp only
  rw [← hsame]
  refine ⟨?_, ?_, content_prune hcommand hread hopen⟩
  · rw [perform_prune hcommand hread hopen]
    rfl
  · rw [perform_prune hcommand hread hopen]
    rfl

end Session

/-! ## A database that is pruned -/

namespace PrunedDatabase

/-- A scan at a time, with a finding of its own. -/
def addScan (s : Store) (t : Timestamp) : Store :=
  (s.persist .bulk ⟨t.toText, none, none⟩
    [{ Finding.blank .mypy "a.py" "/p" with pk? := some t.toText }]).1

/-- A database with a scan at each of some times. -/
def ledger (times : List Timestamp) : Store := times.foldl addScan Store.empty.seed

/-- The database in its directory. -/
def world (s : Store) : World := ⟨.dir [("l.db", .file (.ledger s) false)], [], 0⟩

def host : Host where
  surroundings := ⟨[], "/"⟩
  now := ⟨2026, 1, 1, 0, 0, 0⟩
  launcher := fun _ tool argv dir t => ⟨t, .ok ⟨tool, argv, dir, 0, 0.5, "", "", none⟩, 5⟩

def invocation (before : String) : Invocation where
  config? := none
  database? := some "l.db"
  debug := false
  verbose := false
  quiet := false
  command := .prune before

def task (before : String) : Session.Task where
  invocation := invocation before
  project := "/"
  settings := Session.withInvocation {} (invocation before)

/-- A session that prunes the database. -/
def session (before : String) (s : Store) : Session :=
  Session.perform host Session.refusing 0 (task before) (world s)

theorem complete_ledger (times : List Timestamp) : (ledger times).Complete := by
  suffices h : ∀ s : Store, s.Complete → (times.foldl addScan s).Complete from
    h _ (Store.complete_seed .empty)
  induction times with
  | nil => exact fun s hs => hs
  | cons t times ih =>
    exact fun s hs => ih _ (hs.of_tableNames_eq (Store.tableNames_persist s _ _ _))

theorem content_world (before : String) (s : Store) :
    (world s).tree.content (databaseFile host (task before).settings) = .ok (.ledger s) := by
  have hpath : databaseFile host (task before).settings = "/l.db" :=
    show Path.join "/" "l.db" = _ by decide
  rw [hpath, FileTree.content_eq_ok_iff]
  refine ⟨["l.db"], false, ?_, rfl⟩
  rw [FileTree.locate_of_steps (by decide) (show _ = ["l.db"] by decide)]
  cbv

/-- The database is opened as it is. -/
theorem exists_openDatabase (before : String) (times : List Timestamp) :
    ∃ w', openDatabase host (task before).settings (world (ledger times)) =
      (w', .ok (ledger times)) :=
  openDatabase_of_content rfl (content_world before _) (complete_ledger times)

/-- A pruning before half a second after the new year, by the clocks one hour east: the scan of the
last second of the old year goes with its finding.  That of the first second of the new year stays,
for the half second does not count. -/
theorem prune_within_second :
    let last : Timestamp := ⟨2025, 12, 31, 23, 59, 59⟩
    let first : Timestamp := ⟨2026, 1, 1, 0, 0, 0⟩
    let v : Timestamp.Writing := ⟨⟨2026, 1, 1, 1, 0, 0⟩, 'T', ['5'], .offset '+' 1 0⟩
    let s := ledger [last, first]
    let left := s.without fun scan => scan.id = 1
    (v.text = "2026-01-01T01:00:00.5+01:00".toList ∧ first.instant < v.instant) ∧
      (session "2026-01-01T01:00:00.5+01:00" s).world.tree.content "/l.db" = .ok (.ledger left) ∧
      left.rows.map (·.pk) = ["2026-01-01T00:00:00Z"] := by
  intro last first v s left
  have hvalid : v.Valid :=
    ⟨by decide, by decide, List.forall_mem_singleton.mpr rfl,
      .offset (by decide) (by decide) (by decide)⟩
  have htext : v.text = "2026-01-01T01:00:00.5+01:00".toList := by decide
  let time (scan : Scan) : Timestamp := if scan.id = 1 then last else first
  have hstamped : s.Stamped time := by
    unfold Store.Stamped
    decide +kernel
  have hleft : s.without (fun scan => v.Follows (time scan)) = left :=
    Store.without_congr (by decide +kernel)
  obtain ⟨w', hopen⟩ := exists_openDatabase "2026-01-01T01:00:00.5+01:00" [last, first]
  refine ⟨⟨htext, by decide +kernel⟩, ?_, by decide +kernel⟩
  rw [← hleft]
  exact ((Session.prune_removes_earlier rfl (by decide) hopen hstamped).2 v hvalid
    htext).2.2 rfl

/-- **A year of five digits keeps scans that are earlier.**  An hour after the last second of the
year 9999 is in the year 10000. -/
theorem prune_keeps_earlier :
    let t : Timestamp := ⟨2026, 1, 1, 0, 0, 0⟩
    let v : Timestamp.Writing := ⟨⟨9999, 12, 31, 23, 59, 59⟩, 'T', [], .offset '-' 1 0⟩
    let s := ledger [t]
    let after := session "9999-12-31T23:59:59-01:00" s
    (v.Valid ∧ v.text = "9999-12-31T23:59:59-01:00".toList) ∧
      (s.scans = [⟨1, t.toText, none, none⟩] ∧ t.FourDigits ∧ t.instant < v.instant) ∧
      after.world.tree.content "/l.db" = .ok (.ledger s) ∧
      after.output = ["Removed 0 scan(s) older than +10000-01-01T00:59:59Z"] := by
  intro t v s after
  have hvalid : v.Valid :=
    ⟨by decide, by decide, List.forall_mem_nil _, .offset (by decide) (by decide) (by decide)⟩
  have hread : Timestamp.ofText? "9999-12-31T23:59:59-01:00" = some ⟨10000, 1, 1, 0, 59, 59⟩ := by
    decide
  obtain ⟨w', hopen⟩ := exists_openDatabase "9999-12-31T23:59:59-01:00" [t]
  have htime : (⟨10000, 1, 1, 0, 59, 59⟩ : Timestamp).toText = "+10000-01-01T00:59:59Z" := by
    decide
  -- the sign in front of the year comes before the digits of all timestamps
  have hnone : s.without (fun scan => scan.timestamp < "+10000-01-01T00:59:59Z") = s :=
    Store.without_eq_self (by decide +kernel)
  have hcount : (s.olderThan "+10000-01-01T00:59:59Z").length = 0 := by decide +kernel
  refine ⟨⟨hvalid, by decide +kernel⟩, by decide +kernel, ?_, ?_⟩
  · have hcontent : after.world.tree.content "/l.db" = _ :=
      Session.content_prune rfl hread hopen rfl
    rwa [htime, hnone] at hcontent
  · have hprune : after = _ := Session.perform_prune rfl hread hopen
    rw [hprune, htime, hcount]
    rfl

end PrunedDatabase

end LintLedger
