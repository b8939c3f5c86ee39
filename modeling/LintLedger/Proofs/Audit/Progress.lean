import LintLedger.Proofs.Audit.Trace

/-!
# Progress of audits

Every delivery to an audit uses up one of the tools that it has yet to hear of, and nothing that
an audit notes after its beginning says that an audit began.

An audit starts tools as long as there is room for them.  So it never has more at work than there
is room for, it has some at work until it ends, and those that wait do so for want of room.  It
ends while tools are at work only if the store fails.

## Main Definitions

* `Records.Grew`, `Records.Continues` -- records that grew, by what kind of notes
* `Audit.State.load` -- how many tools an audit has yet to hear of
* `Audit.State.Staffed` -- audits that go on and use the room that they have

## Main Statements

* `Audit.launch_grew`, `Audit.deliver_grew` -- what audits note
* `Audit.deliver_continues` -- no audit begins with a delivery
* `Audit.launch_outcome?_ne_error` -- no audit begins with an error
* `Audit.load_deliver_lt`, `Audit.Reached.running_deliver_eq_nil` -- every delivery leaves less to
  be delivered, and the last one nothing
* `Audit.staffed_launch`, `Audit.deliver_cases` -- an audit that goes on uses its room, and what
  ends one in which other tools are at work
-/

namespace LintLedger

/-! ## Records that grow -/

/-- The records grew by notes of some kind. -/
def Records.Grew (Kind : Note → Prop) (r r' : Records) : Prop :=
  ∃ more, r'.notes = r.notes ++ more ∧ ∀ n ∈ more, Kind n.2

/-- The records grew by notes none of which says that an audit began. -/
def Records.Continues (r r' : Records) : Prop :=
  ∃ more, r'.notes = r.notes ++ more ∧ ∀ n ∈ more, n.2 ≠ .opened

/-- A kind of notes that all events are of, and everything that is noted of the end of an audit. -/
structure Note.Common (Kind : Note → Prop) : Prop where
  event : ∀ e, Kind (.event e)
  closed : ∀ summary, Kind (.closed summary)

namespace Records.Grew

variable {Kind : Note → Prop} {r r' r'' : Records}

theorem refl (Kind : Note → Prop) (r : Records) : r.Grew Kind r := ⟨[], by simp, by simp⟩

theorem trans (first : r.Grew Kind r') (second : r'.Grew Kind r'') : r.Grew Kind r'' := by
  obtain ⟨more, hmore, hfirst⟩ := first
  obtain ⟨rest, hrest, hsecond⟩ := second
  refine ⟨more ++ rest, by rw [hrest, hmore, List.append_assoc], fun n hn => ?_⟩
  rcases List.mem_append.mp hn with hn | hn
  · exact hfirst n hn
  · exact hsecond n hn

/-- Only the notes of records count. -/
theorem of_notes_eq (h : r'.notes = r.notes) : r.Grew Kind r' := ⟨[], by simp [h], by simp⟩

theorem add (r : Records) (anchor : String) {note : Note} (h : Kind note) :
    r.Grew Kind (r.add anchor note) := by
  refine ⟨[(anchor, note)], rfl, fun n hn => ?_⟩
  rw [List.mem_singleton.mp hn]
  exact h

end Records.Grew

namespace Records.Continues

theorem refl (r : Records) : r.Continues r := Grew.refl (· ≠ .opened) r

theorem trans {r r' r'' : Records} (first : r.Continues r') (second : r'.Continues r'') :
    r.Continues r'' := by
  show r.Grew (· ≠ .opened) r''
  exact .trans first second

end Records.Continues

namespace Audit

section Notes

variable {Kind : Note → Prop} (common : Note.Common Kind) (job : Job)

include common

theorem tell_grew (e : Event) (m : Moment) : m.2.Grew Kind (tell job e m).2 :=
  .add m.2 job.anchor (common.event e)

theorem start_grew (free : Nat) (m : Moment) : m.2.Grew Kind (start job free m).2 := by
  induction free generalizing m with
  | zero => exact .refl Kind m.2
  | succ free ih =>
    obtain ⟨s, r⟩ := m
    unfold start
    dsimp only
    split
    · exact .refl Kind r
    · exact (tell_grew common job _ _).trans (ih _)

theorem fill_grew (m : Moment) : m.2.Grew Kind (fill job m).2 := by
  unfold fill
  split
  · exact .refl Kind m.2
  · exact start_grew common job _ m

theorem fail_grew (tool : Tool) (failure : ToolFailure) (m : Moment) :
    m.2.Grew Kind (fail job tool failure m).2 := by
  have hcancel (skipped : List Tool) (m : Moment) :
      m.2.Grew Kind (skipped.foldl (fun m t => tellTool job t .cancelled m) m).2 := by
    induction skipped generalizing m with
    | nil => exact .refl Kind m.2
    | cons t rest ih => exact (tell_grew common job _ m).trans (ih _)
  unfold fail
  dsimp only
  split
  · exact hcancel m.1.pending _
  · exact .refl Kind m.2

omit common in
/-- Storing findings notes nothing. -/
theorem notes_keep {tool : Tool} {findings : List Finding} {r r' : Records} {inserted : Nat}
    (h : keep job tool findings r = .ok (r', inserted)) : r'.notes = r.notes := by
  unfold keep at h
  split at h
  · cases h
    rfl
  · split at h
    · cases h
      rfl
    · cases h

theorem process_grew (tool : Tool) (run : RunRecord) (m : Moment) :
    m.2.Grew Kind (process job tool run m).2 := by
  have hbegun := tell_grew common job (toolEvent job tool .processingStarted) m
  simp only [process, tellTool]
  split
  · exact (hbegun.trans (tell_grew common job _ _)).trans (fail_grew common job tool _ _)
  · split
    · exact hbegun
    · rename_i hkeep
      exact (hbegun.trans (.of_notes_eq (notes_keep job hkeep))).trans (tell_grew common job _ _)

theorem processDeferred_grew (runs : List (Tool × RunRecord)) (m : Moment) :
    m.2.Grew Kind (processDeferred job runs m).2 := by
  induction runs generalizing m with
  | nil => exact .refl Kind m.2
  | cons entry rest ih =>
    obtain ⟨tool, run⟩ := entry
    have hfirst := process_grew common job tool run m
    simp only [processDeferred]
    split
    · exact hfirst
    · exact hfirst.trans (ih _)

theorem close_grew (now : Nat) (m : Moment) : m.2.Grew Kind (close job now m).2 := by
  have hlast (e : Event) (summary : Summary) :
      m.2.Grew Kind ((m.2.add job.anchor (.event e)).add job.anchor (.closed summary)) :=
    .trans (.add m.2 job.anchor (common.event e)) (.add _ job.anchor (common.closed summary))
  exact hlast _ _

theorem conclude_grew (now : Nat) (m : Moment) : m.2.Grew Kind (conclude job now m).2 := by
  unfold conclude
  split
  · exact close_grew common job now m
  · have hread := processDeferred_grew common job m.1.deferred (hold [] m)
    dsimp only
    split
    · exact hread
    · exact hread.trans (close_grew common job now _)

theorem advance_grew (now : Nat) (m : Moment) : m.2.Grew Kind (advance job now m).2 := by
  have hfill := fill_grew common job m
  unfold advance
  dsimp only
  split
  · exact .refl Kind m.2
  · split
    · exact hfill.trans (conclude_grew common job now _)
    · exact hfill

/-- An audit notes its beginning, and then what every audit may note. -/
theorem launch_grew (hopened : Kind .opened) (now : Nat) (r : Records) :
    r.Grew Kind (launch job now r).2 :=
  .trans (.add r job.anchor hopened) (advance_grew common job now _)

section Results

variable {res : Execution} (hran : ∀ run, res = .ran run → Kind (.artifact run))

include hran

theorem receive_grew (tool : Tool) (m : Moment) : m.2.Grew Kind (receive job tool res m).1.2 := by
  unfold receive
  cases res with
  | ran run =>
    have hartifact : m.2.Grew Kind (m.2.add job.anchor (.artifact run)) :=
      .add m.2 job.anchor (hran run rfl)
    dsimp only
    split <;> exact hartifact.trans (.add _ job.anchor (common.event _))
  | impossible _ => exact tell_grew common job _ m
  | brokeDown _ => exact tell_grew common job _ m

theorem take_grew (tool : Tool) (m : Moment) : m.2.Grew Kind (take job tool res m).2 := by
  have hreceived := receive_grew common job hran tool m
  unfold take
  generalize receive job tool res m = received at hreceived ⊢
  obtain ⟨⟨s, r⟩, verdict⟩ := received
  dsimp only
  cases verdict with
  | error failure => exact hreceived.trans (fail_grew common job tool failure _)
  | ok run =>
    dsimp only
    split
    · exact hreceived
    · exact hreceived.trans (process_grew common job tool run _)

/-- **What an audit notes of a result**: the run of the tool, if it is one, and what every audit may
note. -/
theorem deliver_grew (now : Nat) (tool : Tool) (m : Moment) :
    m.2.Grew Kind (deliver job now tool res m).2 := by
  unfold deliver
  dsimp only
  split
  · exact advance_grew common job now (parted tool m)
  · exact (take_grew common job hran tool (parted tool m)).trans (advance_grew common job now _)

end Results

end Notes

section Load

variable {job : Job} {result : Tool → Execution}

/-- **No audit begins with a delivery** to another. -/
theorem deliver_continues (job : Job) (now : Nat) (tool : Tool) (res : Execution) (m : Moment) :
    m.2.Continues (deliver job now tool res m).2 := by
  have common : Note.Common (· ≠ .opened) := ⟨fun _ => nofun, fun _ => nofun⟩
  exact deliver_grew common job (fun _ _ => nofun) now tool m

/-- **An audit does not begin with an error**: it goes on unless it has no tools. -/
theorem launch_outcome?_ne_error {now : Nat} {r : Records} {e : AuditError} :
    (launch job now r).1.outcome? ≠ some (.error e) := by
  have hfill : fill job (initial job now, r.add job.anchor .opened) =
      start job job.workers (initial job now, r.add job.anchor .opened) := rfl
  have hnew : (fill job (initial job now, r.add job.anchor .opened)).1.outcome? = none := by
    obtain ⟨_, hpath⟩ := fill_path job (fun _ => .brokeDown "")
      (initial job now, r.add job.anchor .opened)
    exact hpath.steps.outcome?_eq
  unfold launch advance
  rw [if_neg (by simp [initial])]
  dsimp only
  split
  · rename_i hidle
    rw [hfill] at hidle ⊢
    have hworkers : 0 < job.workers := Nat.lt_of_lt_of_le Nat.one_pos (Nat.le_max_left ..)
    have hpending := pending_eq_nil_of_start hworkers (List.isEmpty_iff.mp hidle)
    rw [start_of_nil hpending, conclude_of_going now rfl,
      if_neg (by simp [initial, processDeferred, hold]), close_outcome?_of_going job now rfl]
    simp
  · rw [hnew]
    simp

/-! ## What is yet to be delivered -/

/-- How many tools an audit has yet to hear of. -/
def State.load (s : State) : Nat := s.pending.length + s.running.length

theorem load_start (free : Nat) (m : Moment) : (start job free m).1.load = m.1.load := by
  induction free generalizing m with
  | zero => rfl
  | succ free ih =>
    cases hpending : m.1.pending with
    | nil => rw [start_of_nil hpending]
    | cons tool rest =>
      rw [start_of_cons hpending, ih]
      simp only [begun, State.load, hpending, List.length_append, List.length_cons,
        List.length_nil]
      omega

theorem load_fill (m : Moment) : (fill job m).1.load = m.1.load := by
  unfold fill
  split
  · rfl
  · exact load_start _ m

theorem load_fail_le (tool : Tool) (failure : ToolFailure) (m : Moment) :
    (fail job tool failure m).1.load ≤ m.1.load := by
  rw [fail_eq]
  split
  · simp [dropped, State.load]
  · exact Nat.le_refl _

/-- Reading a report adds nothing that is yet to be delivered, unless it ends the audit. -/
theorem load_process_le (tool : Tool) (run : RunRecord) (m : Moment)
    (h : (process job tool run m).1.outcome? = none) :
    (process job tool run m).1.load ≤ m.1.load := by
  rcases process_cases tool run m with hlost | ⟨fault, -, heq⟩ | ⟨findings, inserted, -, -, heq⟩
  · obtain ⟨-, e, he⟩ := hlost
    rw [he] at h
    cases h
  · rw [heq]
    exact load_fail_le tool _ _
  · rw [heq]
    exact Nat.le_refl _

theorem load_ended_lt {m : Moment} {tool : Tool} (hrunning : tool ∈ m.1.running) (a : Analyzer)
    (res : Execution) : (m.1.ended a tool res).load < m.1.load := by
  simp only [State.load, State.ended_pending, State.ended_running,
    List.length_erase_of_mem hrunning]
  have hpos := List.length_pos_of_mem hrunning
  omega

theorem load_take_lt (tool : Tool) (res : Execution) {m : Moment}
    (hrunning : tool ∈ m.1.running)
    (h : (take job tool res (parted tool m)).1.outcome? = none) :
    (take job tool res (parted tool m)).1.load < m.1.load := by
  have hended := load_ended_lt hrunning (job.analyzer tool) res
  rcases take_cases job tool res m with ⟨failure, -, heq⟩ | ⟨run, -, heq⟩
  · rw [heq]
    exact Nat.lt_of_le_of_lt (load_fail_le tool failure _) hended
  · rw [heq] at h ⊢
    split
    · exact hended
    · rename_i hreads
      rw [if_neg hreads] at h
      exact Nat.lt_of_le_of_lt (load_process_le tool run _ h) hended

/-- What is concluded has an outcome. -/
theorem isSome_conclude (job : Job) (now : Nat) (m : Moment) :
    (conclude job now m).1.outcome?.isSome := by
  cases hstopped : m.1.stopped? with
  | some stopper =>
    unfold conclude
    rw [hstopped]
    exact isSome_close job now m
  | none =>
    rw [conclude_of_going now hstopped]
    split
    · assumption
    · exact isSome_close job now _

/-- What goes on after a step went on with what was yet to be delivered. -/
theorem load_advance {now : Nat} {m : Moment} (h : (advance job now m).1.outcome? = none) :
    m.1.outcome? = none ∧ (advance job now m).1.load = m.1.load := by
  unfold advance at h ⊢
  split at h
  · rename_i hover
    rw [h] at hover
    cases hover
  · rename_i hopen
    rw [if_neg hopen]
    dsimp only at h ⊢
    split at h
    · have hended := isSome_conclude job now (fill job m)
      rw [h] at hended
      cases hended
    · rename_i hruns
      rw [if_neg hruns]
      exact ⟨by simpa using hopen, load_fill m⟩

/-- An audit that begins has yet to hear of all its tools. -/
theorem load_launch {now : Nat} {r : Records} (h : (launch job now r).1.outcome? = none) :
    (launch job now r).1.load = job.tools.length := (load_advance h).2

/-- **Every delivery leaves less to be delivered.** -/
theorem load_deliver_lt {now : Nat} {tool : Tool} (res : Execution) {m : Moment}
    (hrunning : tool ∈ m.1.running) (h : (deliver job now tool res m).1.outcome? = none) :
    (deliver job now tool res m).1.load < m.1.load := by
  unfold deliver at h ⊢
  dsimp only at h ⊢
  obtain ⟨hopen, hload⟩ := load_advance h
  rw [hload]
  split
  · simp only [State.load, List.length_erase_of_mem hrunning]
    have hpos := List.length_pos_of_mem hrunning
    omega
  · rename_i hstopped
    rw [if_neg hstopped] at hopen
    exact load_take_lt tool res hrunning hopen

/-- After the last delivery that an audit has yet to hear of, nothing runs any more. -/
theorem Reached.running_deliver_eq_nil {result : Tool → Execution} {r : Records} {m : Moment}
    (hm : Reached job result r m) (now : Nat) {tool : Tool} (hrunning : tool ∈ m.1.running)
    (hlast : m.1.load = 1) : (Audit.deliver job now tool (result tool) m).1.running = [] := by
  obtain ⟨_, course⟩ := (hm.deliver now hrunning).course
  cases course with
  | going _ hopen hbusy _ =>
    have hless := load_deliver_lt (result tool) hrunning hopen
    rw [hlast, State.load] at hless
    exact absurd (List.length_eq_zero_iff.mp (by omega)) hbusy
  | lost hlost => exact hlost.1
  | closed _ _ _ _ hidle _ _ => exact hidle

end Load

section Room

variable {job : Job} {m : Moment}

/-- An audit that goes on has tools at work, and no more than there is room for; as long as some
wait there is no room left. -/
structure State.Staffed (job : Job) (s : State) : Prop where
  settled : s.Settled
  busy : s.running ≠ []
  within : s.running.length ≤ job.workers
  full : s.pending = [] ∨ s.running.length = job.workers

/-! ## Starting tools -/

theorem running_start_length_le (free : Nat) (m : Moment) :
    (start job free m).1.running.length ≤ m.1.running.length + free := by
  induction free generalizing m with
  | zero => exact Nat.le_refl _
  | succ free ih =>
    cases hpending : m.1.pending with
    | nil =>
      rw [start_of_nil hpending]
      exact Nat.le_add_right _ _
    | cons tool rest =>
      rw [start_of_cons hpending]
      refine Nat.le_trans (ih _) ?_
      simp only [begun, List.length_append, List.length_cons, List.length_nil]
      omega

/-- Tools wait only when all the room was given away. -/
theorem pending_start (free : Nat) (m : Moment) :
    (start job free m).1.pending = [] ∨
      (start job free m).1.running.length = m.1.running.length + free := by
  induction free generalizing m with
  | zero => exact .inr rfl
  | succ free ih =>
    cases hpending : m.1.pending with
    | nil => exact .inl (by rw [start_of_nil hpending, hpending])
    | cons tool rest =>
      rw [start_of_cons hpending]
      refine (ih _).imp_right fun hfull => hfull.trans ?_
      simp only [begun, List.length_append, List.length_cons, List.length_nil]
      omega

/-- Starting tools uses the room that there is. -/
theorem fill_within (hwithin : m.1.running.length ≤ job.workers) (hsettled : m.1.Settled) :
    (fill job m).1.running.length ≤ job.workers ∧
      ((fill job m).1.pending = [] ∨ (fill job m).1.running.length = job.workers) := by
  unfold fill
  split
  · rename_i hstopped
    exact ⟨hwithin, .inl (hsettled hstopped)⟩
  · have hroom : m.1.running.length + (job.workers - m.1.running.length) = job.workers := by omega
    refine ⟨Nat.le_trans (running_start_length_le _ m) (Nat.le_of_eq hroom), ?_⟩
    exact (pending_start _ m).imp_right fun hfull => hfull.trans hroom

/-- What goes on after a step uses its room; what ends had nothing at work after the step. -/
theorem advance_cases (now : Nat) (hopen : m.1.outcome? = none) (hsettled : m.1.Settled)
    (hwithin : m.1.running.length ≤ job.workers) :
    ((advance job now m).1.outcome? = none ∧ m.1.running <+: (advance job now m).1.running ∧
        (advance job now m).1.Staffed job) ∨
      (advance job now m).1.outcome?.isSome ∧ m.1.running = [] := by
  have hgrows : m.1.running <+: (fill job m).1.running := by
    unfold fill
    split
    · exact List.prefix_rfl
    · exact running_prefix_start job _ m
  have hopen' : (fill job m).1.outcome? = none := by
    obtain ⟨_, hpath⟩ := fill_path job (fun _ => .brokeDown "") m
    exact hpath.steps.outcome?_eq.trans hopen
  unfold advance
  rw [if_neg (by simp [hopen])]
  dsimp only
  split
  · rename_i hidle
    rw [List.isEmpty_iff.mp hidle, List.prefix_nil] at hgrows
    exact .inr ⟨isSome_conclude job now _, hgrows⟩
  · rename_i hruns
    obtain ⟨hlength, hfull⟩ := fill_within hwithin hsettled
    exact .inl ⟨hopen', hgrows, settled_fill hsettled, by simpa using hruns, hlength, hfull⟩

/-- **An audit that begins uses its room**, unless it ends at once. -/
theorem staffed_launch {now : Nat} {r : Records} (h : (launch job now r).1.outcome? = none) :
    (launch job now r).1.Staffed job := by
  rcases advance_cases now (m := (initial job now, r.add job.anchor .opened)) rfl
      (fun hsome => by cases hsome) (Nat.zero_le _) with ⟨-, -, hstaffed⟩ | ⟨hsome, -⟩
  · exact hstaffed
  · rw [show (advance job now (initial job now, r.add job.anchor .opened)).1.outcome? = none from h]
      at hsome
    cases hsome

/-! ## Taking results -/

theorem running_fail (tool : Tool) (failure : ToolFailure) (m : Moment) :
    (fail job tool failure m).1.running = m.1.running := by
  rw [fail_eq]
  split <;> rfl

/-- Reading a report leaves alone what is at work, unless the store fails. -/
theorem running_process (tool : Tool) (run : RunRecord) (m : Moment) :
    Lost (process job tool run m) ∨ (process job tool run m).1.running = m.1.running := by
  rcases process_cases tool run m with hlost | ⟨fault, -, heq⟩ | ⟨findings, inserted, -, -, heq⟩
  · exact .inl hlost
  · rw [heq]
    exact .inr (running_fail tool _ _)
  · rw [heq]
    exact .inr rfl

/-- After a result was taken the other tools are at work, unless the store failed. -/
theorem running_take (tool : Tool) (res : Execution) (m : Moment) :
    Lost (take job tool res (parted tool m)) ∨
      (take job tool res (parted tool m)).1.running = m.1.running.erase tool := by
  rcases take_cases job tool res m with ⟨failure, -, heq⟩ | ⟨run, -, heq⟩
  · rw [heq, running_fail]
    exact .inr (State.ended_running ..)
  · rw [heq]
    split
    · exact .inr (State.ended_running ..)
    · exact (running_process tool run _).imp_right fun h => h.trans (State.ended_running ..)

variable {now : Nat} {tool : Tool} {res : Execution}

/-- A delivery comes to an error of the store, or it takes the tool from those at work and goes on
from there. -/
theorem deliver_eq_advance (now : Nat) (res : Execution) (hopen : m.1.outcome? = none)
    (hsettled : m.1.Settled) (hrunning : tool ∈ m.1.running) :
    Lost (deliver job now tool res m) ∨
      ∃ m' : Moment, m'.1.outcome? = none ∧ m'.1.Settled ∧
        m'.1.running = m.1.running.erase tool ∧ deliver job now tool res m = advance job now m' := by
  unfold deliver
  dsimp only
  split
  · exact .inr ⟨parted tool m, hopen, hsettled, rfl, rfl⟩
  · rename_i hstopped
    have hgoes : m.1.stopped? = none := by simpa using hstopped
    change Lost (advance job now (take job tool res (parted tool m))) ∨ _
    rcases take_path job (fun _ => res) tool m hgoes hrunning with
      hlost | ⟨⟨history, hpath⟩, hsettled'⟩
    · have hstays : advance job now (take job tool res (parted tool m)) =
          take job tool res (parted tool m) := if_pos hlost.isSome
      exact .inl (by rw [hstays]; exact hlost)
    · have hopen' := hpath.steps.outcome?_eq.trans hopen
      rcases running_take tool res m with hlost | hrunning'
      · have hsome := hlost.isSome
        rw [hopen'] at hsome
        cases hsome
      · exact .inr ⟨_, hopen', hsettled', hrunning', rfl⟩

/-- **What a delivery comes to**: an audit that goes on uses its room while the other tools go on,
and one that ends had no other tool at work or met an error of the store. -/
theorem deliver_cases (now : Nat) (res : Execution) (hopen : m.1.outcome? = none)
    (hstaffed : m.1.Staffed job) (hrunning : tool ∈ m.1.running) :
    ((deliver job now tool res m).1.outcome? = none ∧
        m.1.running.erase tool <+: (deliver job now tool res m).1.running ∧
        (deliver job now tool res m).1.Staffed job) ∨
      ∃ r, (deliver job now tool res m).1.outcome? = some r ∧
        (m.1.running.erase tool = [] ∨ ∃ e, r = .error (.storage e)) := by
  rcases deliver_eq_advance now res hopen hstaffed.settled hrunning with
    ⟨-, e, hlost⟩ | ⟨m', hopen', hsettled, hrunning', heq⟩
  · exact .inr ⟨_, hlost, .inr ⟨e, rfl⟩⟩
  · have hwithin : m'.1.running.length ≤ job.workers := by
      rw [hrunning']
      exact Nat.le_trans (List.length_erase_le ..) hstaffed.within
    rw [heq, ← hrunning']
    rcases advance_cases now hopen' hsettled hwithin with hgoes | ⟨hsome, hidle⟩
    · exact .inl hgoes
    · obtain ⟨r, hr⟩ := Option.isSome_iff_exists.mp hsome
      exact .inr ⟨r, hr, .inl hidle⟩

end Room

end Audit

end LintLedger
