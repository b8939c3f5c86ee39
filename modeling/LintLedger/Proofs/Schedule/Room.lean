import LintLedger.Proofs.Audit.Progress
import LintLedger.Proofs.Schedule.Progress

/-!
# How much of a run is at work

A run has room for some projects, and each of its audits for some tools.  Both are filled again
after every end.  What is at work at a time is therefore never more than both numbers allow, and
as long as something waits there is something at work.

An error of the store ends an audit at once: the tools that it has at work then are given up, and
nobody waits for them.  They count as long as they are at work.  The room that they take is not
given away, as the run starts no project after an error.

## Main Definitions

* `Schedule.Shift`, `Schedule.Shift.Step` -- a run with the tools that it has given up
* `Schedule.Shift.tools` -- how many tools are at work
* `Schedule.State.Waits` -- runs in which a project or a tool is yet to be started
* `Schedule.Shift.Fits` -- runs that stay within their room

## Main Statements

* `Schedule.Shift.fits_launch`, `Schedule.Shift.Fits.step` -- every step of a run stays within its
  room
* `Schedule.Shift.Fits.tools_le` -- how many tools are at work at most
* `Schedule.Shift.Fits.inFlight_ne_nil` -- something is at work as long as something waits
-/

namespace LintLedger.Schedule

/-! ## Runs and what they give up -/

/-- A run, and the tools that it has given up and that are still at work. -/
structure Shift where
  state : State
  adrift : List Slot

/-- What a delivery gives up: what was at work beside the slot of the delivery and is no more. -/
def givenUp (slot : Slot) (s s' : State) : List Slot :=
  (s.inFlight.erase slot).filter fun u => !s'.inFlight.contains u

namespace Shift

/-- A run after a delivery. -/
def after (w : Shift) (slot : Slot) (s' : State) : Shift :=
  ⟨s', w.adrift ++ givenUp slot w.state s'⟩

/-- The steps of a run: a tool that is at work ends in some way, a process ends with some code, or
a tool that was given up ends. -/
inductive Step (job : Job) : Shift → Shift → Prop where
  | tool {w : Shift} {index : Nat} {tool : Tool} (now : Nat) (result : Execution) :
      (index, some tool) ∈ w.state.inFlight →
      Step job w (w.after (index, some tool) (deliver job now index tool result w.state))
  | process {w : Shift} {index : Nat} (now : Nat) (code : Int) :
      (index, none) ∈ w.state.inFlight →
      Step job w (w.after (index, none) (deliverChild job now index code w.state))
  | ashore {w : Shift} (slot : Slot) : Step job w { w with adrift := w.adrift.erase slot }

/-- How many tools are at work in this process. -/
def tools (w : Shift) : Nat := w.state.inFlight.countP (fun u => u.2.isSome) + w.adrift.length

end Shift

/-- Runs in which a project or a tool is yet to be started. -/
def State.Waits (s : State) : Prop :=
  s.pending ≠ [] ∨ ∃ a ∈ s.active, ∃ audit, a.work = .here audit ∧ audit.pending ≠ []

variable {job : Job} {s : State} {share : Nat}

/-! ## Projects at work -/

/-- Every audit of a run has room for at most so many tools. -/
def Job.Shares (job : Job) (share : Nat) : Prop := ∀ project, (job.audit project).workers ≤ share

theorem Job.Shares.pos (shares : job.Shares share) : 0 < share :=
  Nat.lt_of_lt_of_le (Nat.lt_of_lt_of_le Nat.one_pos (Nat.le_max_left ..)) (shares "")

/-- A project at work is audited here and uses its room, or it has a process of its own in a run
that gives every project one. -/
def Active.Uses (job : Job) (a : Active) : Prop :=
  match a.work with
  | .here audit => audit.outcome? = none ∧ audit.Staffed (job.audit a.project)
  | .child => job.apart = true

theorem Active.Uses.units_ne_nil {a : Active} (uses : a.Uses job) : a.units ≠ [] := by
  obtain ⟨index, project, work⟩ := a
  cases work with
  | here audit => simpa [units] using uses.2.busy
  | child => simp [units]

theorem Active.Uses.units_length_le (shares : job.Shares share) {a : Active} (uses : a.Uses job) :
    a.units.length ≤ share := by
  obtain ⟨index, project, work⟩ := a
  cases work with
  | here audit => simpa [units] using Nat.le_trans uses.2.within (shares project)
  | child => exact shares.pos

theorem Active.fst_of_mem_units {a : Active} {u : Slot} (hu : u ∈ a.units) : u.1 = a.index := by
  unfold units at hu
  split at hu
  · obtain ⟨tool, -, rfl⟩ := List.mem_map.mp hu
    rfl
  · rw [List.mem_singleton.mp hu]

/-- A run in good order, of which some projects wait: no project is there twice, each that is at
work uses its room, and there are no more of these than there is room for. -/
structure Orderly (job : Job) (waiting : List (Nat × String)) (s : State) : Prop where
  distinct : (s.active.map Active.index ++ waiting.map Prod.fst).Nodup
  uses : ∀ a ∈ s.active, a.Uses job
  room : s.active.length ≤ job.outer

/-- Letting go of the projects that wait leaves a run in order. -/
theorem Orderly.of_waiting {waiting waiting' : List (Nat × String)} {p : Prop}
    (orderly : Orderly job waiting s) (h : waiting' = waiting ∨ waiting' = [] ∧ p) :
    Orderly job waiting' s := by
  obtain rfl | ⟨rfl, -⟩ := h
  · exact orderly
  · exact ⟨by simpa using orderly.distinct.of_append_left, orderly.uses, orderly.room⟩

theorem active_settle (job : Job) (index : Nat) (project : String)
    (outcome : Except AuditError ProjectOutcome) (s : State) :
    (settle job index project outcome s).active = s.active ∨
      (settle job index project outcome s).active = [] ∧
        (settle job index project outcome s).error?.isSome := by
  unfold settle
  split
  · exact .inl rfl
  · split
    · exact .inl rfl
    · split
      · exact .inr ⟨rfl, rfl⟩
      · exact .inl rfl

theorem Orderly.settle {waiting : List (Nat × String)} (orderly : Orderly job waiting s)
    (index : Nat) (project : String) (outcome : Except AuditError ProjectOutcome) :
    Orderly job waiting (settle job index project outcome s) := by
  rcases active_settle job index project outcome s with hactive | ⟨hactive, -⟩
  · exact ⟨hactive ▸ orderly.distinct, hactive ▸ orderly.uses, hactive ▸ orderly.room⟩
  · refine ⟨?_, by simp [hactive], by simp [hactive]⟩
    simpa [hactive] using orderly.distinct.of_append_right

/-- What came of the audit in hand is put back to work or taken as its end. -/
theorem Orderly.place {waiting : List (Nat × String)} {before after : List Active} {index : Nat}
    {project : String} {m : Audit.Moment}
    (orderly : Orderly job waiting { s with active := before ++ after })
    (hnew : index ∉ (before ++ after).map Active.index ++ waiting.map Prod.fst)
    (hroom : (before ++ after).length < job.outer)
    (hstaffed : m.1.outcome? = none → m.1.Staffed (job.audit project)) :
    Orderly job waiting (place job before index project m after s) := by
  unfold Schedule.place
  split
  · rename_i hopen
    refine ⟨?_, fun a ha => ?_, ?_⟩
    · have hdistinct := List.nodup_cons.mpr ⟨hnew, orderly.distinct⟩
      simp only [List.map_append, List.map_cons, List.append_assoc, List.cons_append]
        at hdistinct ⊢
      exact List.perm_middle.nodup_iff.mpr hdistinct
    · rcases List.mem_append.mp ha with ha | ha
      · exact orderly.uses a (List.mem_append_left _ ha)
      · rcases List.mem_cons.mp ha with rfl | ha
        · exact ⟨hopen, hstaffed hopen⟩
        · exact orderly.uses a (List.mem_append_right _ ha)
    · simp only [List.length_append, List.length_cons] at hroom ⊢
      omega
  · have hrest : Orderly job waiting { s with active := before ++ after, records := m.2 } :=
      ⟨orderly.distinct, orderly.uses, orderly.room⟩
    exact hrest.settle ..

/-! ## Starting projects -/

theorem Orderly.begin {rest : List (Nat × String)} {index : Nat} {project : String}
    (orderly : Orderly job ((index, project) :: rest) s) (hroom : s.active.length < job.outer)
    (now : Nat) : Orderly job rest (begin job now index project s) := by
  have hdistinct : (index :: (s.active.map Active.index ++ rest.map Prod.fst)).Nodup :=
    List.perm_middle.nodup_iff.mp orderly.distinct
  obtain ⟨hnew, hrest⟩ := List.nodup_cons.mp hdistinct
  unfold Schedule.begin
  split
  · rename_i hapart
    refine ⟨?_, fun a ha => ?_, ?_⟩
    · simpa [List.append_assoc] using List.perm_middle.nodup_iff.mpr hdistinct
    · rcases List.mem_append.mp ha with ha | ha
      · exact orderly.uses a ha
      · rw [List.mem_singleton.mp ha]
        exact hapart
    · simpa [Nat.succ_le_iff] using hroom
  · refine Orderly.place ?_ (by simpa using hnew) (by simpa using hroom) Audit.staffed_launch
    exact ⟨by simpa using hrest, by simpa using orderly.uses, by simpa using orderly.room⟩

/-- After an error no project is started. -/
theorem active_start_of_error (now : Nat) (waiting : List (Nat × String))
    (h : s.error?.isSome) : (start job now waiting s).active = s.active := by
  cases waiting with
  | nil => rfl
  | cons first rest => rw [start, if_pos h]

theorem Orderly.start {waiting : List (Nat × String)} (orderly : Orderly job waiting s)
    (now : Nat) : Orderly job (start job now waiting s).pending (start job now waiting s) := by
  induction waiting generalizing s with
  | nil => exact ⟨orderly.distinct, orderly.uses, orderly.room⟩
  | cons first rest ih =>
    obtain ⟨index, project⟩ := first
    unfold Schedule.start
    split
    · exact ⟨by simpa using orderly.distinct.of_append_left, orderly.uses, orderly.room⟩
    · split
      · exact ⟨orderly.distinct, orderly.uses, orderly.room⟩
      · exact ih (orderly.begin (by omega) now)

theorem orderly_launch (job : Job) (now : Nat) (r : Records) :
    Orderly job (launch job now r).pending (launch job now r) := by
  refine Orderly.start ⟨?_, by simp, by simp⟩ now
  simp only [List.map_nil, List.nil_append, List.map_map]
  rw [show Prod.fst ∘ _ = (Prod.snd : String × Nat → Nat) from rfl, List.zipIdx_map_snd]
  exact List.nodup_range'

/-! ## Deliveries -/

/-- What is at work beside one slot of a project. -/
theorem inFlight_erase {before after : List Active} {a : Active} {slot : Slot}
    (hactive : s.active = before ++ a :: after) (hdistinct : (s.active.map Active.index).Nodup)
    (hslot : slot ∈ a.units) :
    s.inFlight.erase slot =
      before.flatMap Active.units ++ (a.units.erase slot ++ after.flatMap Active.units) := by
  have hbefore : slot ∉ before.flatMap Active.units := by
    intro hmem
    obtain ⟨b, hb, hunit⟩ := List.mem_flatMap.mp hmem
    rw [hactive, List.map_append, List.map_cons] at hdistinct
    refine (List.nodup_append.mp hdistinct).2.2 b.index (List.mem_map_of_mem hb) a.index
      List.mem_cons_self ?_
    rw [← Active.fst_of_mem_units hunit, Active.fst_of_mem_units hslot]
  rw [State.inFlight, hactive, List.flatMap_append, List.flatMap_cons,
    List.erase_append_right _ hbefore, List.erase_append_left _ hslot]

/-- What a delivery to a project gives up, where the other projects stay at work. -/
theorem givenUp_eq {before after : List Active} {a : Active} {slot : Slot} {s' : State}
    (hactive : s.active = before ++ a :: after) (hdistinct : (s.active.map Active.index).Nodup)
    (hslot : slot ∈ a.units) (hstay : before ++ after ⊆ s'.active) :
    givenUp slot s s' = (a.units.erase slot).filter fun u => !s'.inFlight.contains u := by
  have hnone (others : List Active) (h : others ⊆ s'.active) :
      (others.flatMap Active.units).filter (fun u => !s'.inFlight.contains u) = [] := by
    refine List.filter_eq_nil_iff.mpr fun u hu => ?_
    obtain ⟨b, hb, hunit⟩ := List.mem_flatMap.mp hu
    have hmem : u ∈ s'.inFlight := List.mem_flatMap.mpr ⟨b, h hb, hunit⟩
    simpa using hmem
  rw [givenUp, inFlight_erase hactive hdistinct hslot, List.filter_append, List.filter_append,
    hnone before (List.Subset.trans (List.subset_append_left ..) hstay),
    hnone after (List.Subset.trans (List.subset_append_right ..) hstay), List.nil_append,
    List.append_nil]

/-! ## Runs within their room -/

/-- A run that stays within its room: as many projects are at work as there is room for, or none
waits, and the tools that it gave up have the room of projects that are at work no more. -/
structure Shift.Fits (job : Job) (share : Nat) (w : Shift) : Prop where
  orderly : Orderly job w.state.pending w.state
  crowded : w.state.Crowded job
  room : w.state.active.length * share + w.adrift.length ≤ job.outer * share
  ended : w.adrift ≠ [] → w.state.error?.isSome

/-- Where a run has room for what it gave up, starting projects leaves it within its room. -/
theorem Orderly.fits_fill {adrift : List Slot} (orderly : Orderly job s.pending s)
    (hroom : s.active.length * share + adrift.length ≤ job.outer * share)
    (hended : adrift ≠ [] → s.error?.isSome) (now : Nat) :
    Shift.Fits job share ⟨fill job now s, adrift⟩ := by
  have hstarted : Orderly job (fill job now s).pending (fill job now s) := orderly.start now
  have herror : (fill job now s).error? = s.error? := (start_keeps ..).2
  refine ⟨hstarted, crowded_start now _ _, ?_, fun h => herror ▸ hended h⟩
  by_cases hnone : adrift = []
  · rw [hnone, List.length_nil, Nat.add_zero]
    exact Nat.mul_le_mul_right share hstarted.room
  · rw [fill, active_start_of_error now _ (hended hnone)]
    exact hroom

theorem Shift.fits_launch (job : Job) (share now : Nat) (r : Records) :
    Shift.Fits job share ⟨launch job now r, []⟩ := by
  have hlaunch := orderly_launch job now r
  refine ⟨hlaunch, crowded_start now _ _, ?_, fun h => absurd rfl h⟩
  rw [List.length_nil, Nat.add_zero]
  exact Nat.mul_le_mul_right share hlaunch.room

/-! ## Steps of a run -/

/-- Where each project at work counts for at most so much, all of them do for no more. -/
theorem sum_active_le {active : List Active} {count : Active → Nat}
    (h : ∀ a ∈ active, count a ≤ share) : (active.map count).sum ≤ active.length * share := by
  induction active with
  | nil => simp
  | cons a rest ih =>
    have hfirst := h a List.mem_cons_self
    have hrest := ih fun b hb => h b (List.mem_cons_of_mem _ hb)
    rw [List.map_cons, List.sum_cons, List.length_cons, Nat.succ_mul]
    omega

theorem inFlight_length_le (shares : job.Shares share) (huses : ∀ a ∈ s.active, a.Uses job) :
    s.inFlight.length ≤ s.active.length * share := by
  rw [State.inFlight, List.length_flatMap]
  exact sum_active_le fun a ha => (huses a ha).units_length_le shares

/-- What stays at work of a project of which one tool has ended. -/
theorem units_erase {index : Nat} {project : String} {audit : Audit.State} (tool : Tool) :
    (Active.units ⟨index, project, .here audit⟩).erase (index, some tool) =
      (audit.running.erase tool).map fun t => (index, some t) :=
  (List.map_erase (fun _ _ h => by simpa using h) _).symm

variable {before after : List Active} {index : Nat} {project : String} {audit : Audit.State}
  {tool : Tool}

/-- An error of the store ends a run. -/
theorem isSome_error?_settle_storage (job : Job) (index : Nat) (project : String) (e : StoreError)
    (s : State) : (settle job index project (.error (.storage e)) s).error?.isSome := by
  unfold settle
  dsimp only
  split <;> rfl

/-- What a delivery comes to: the project goes on with the other tools, it has ended, or the run
has.  Other tools were at work on a project that has ended only if there was an error. -/
theorem place_cases {a : Active} (ha : a = ⟨index, project, .here audit⟩) (uses : a.Uses job)
    (hrunning : tool ∈ audit.running) (now : Nat) (res : Execution) {placed : State}
    (hplaced : placed = place job before index project
      (Audit.deliver (job.audit project) now tool res (audit, s.records)) after s) :
    (∃ audit', placed.active = before ++ ⟨index, project, .here audit'⟩ :: after ∧
        audit.running.erase tool ⊆ audit'.running) ∨
      placed.active = before ++ after ∧
        (audit.running.erase tool = [] ∨ placed.error?.isSome) ∨
      placed.active = [] ∧ placed.error?.isSome := by
  subst ha hplaced
  obtain ⟨hopen, hstaffed⟩ := uses
  rcases Audit.deliver_cases (m := (audit, s.records)) now res hopen hstaffed hrunning with
    ⟨hgoes, hothers, -⟩ | ⟨r, hend, hcause⟩
  · refine .inl ⟨_, ?_, hothers.subset⟩
    rw [place, hgoes]
  · right
    simp only [place, hend]
    refine (active_settle ..).imp_left fun hactive => ⟨hactive, hcause.imp_right ?_⟩
    rintro ⟨e, rfl⟩
    exact isSome_error?_settle_storage ..

/-- **What a delivery gives up takes no more room than it frees**, and something is given up only
by an error. -/
theorem givenUp_place (shares : job.Shares share) (orderly : Orderly job s.pending s)
    (hactive : s.active = before ++ ⟨index, project, .here audit⟩ :: after)
    (hrunning : tool ∈ audit.running) (now : Nat) (res : Execution) {placed : State}
    (hplaced : placed = place job before index project
      (Audit.deliver (job.audit project) now tool res (audit, s.records)) after s) :
    let lost := givenUp (index, some tool) s (fill job now placed)
    placed.active.length * share + lost.length ≤ s.active.length * share ∧
      (lost ≠ [] → placed.error?.isSome) := by
  intro lost
  have hdistinct := orderly.distinct.of_append_left
  have huses : Active.Uses job ⟨index, project, .here audit⟩ := orderly.uses _ (by simp [hactive])
  have hslot : (index, some tool) ∈ Active.units ⟨index, project, .here audit⟩ :=
    List.mem_map_of_mem hrunning
  have hkept : placed.active ⊆ (fill job now placed).active := (start_keeps job now _ _).1.subset
  rcases place_cases rfl huses hrunning now res hplaced with
    ⟨audit', hgoes, hothers⟩ | ⟨hended, hcause⟩ | ⟨hnone, herror⟩
  -- the audit goes on: no project leaves, and nothing is given up
  · have hstay : before ++ after ⊆ placed.active := by
      rw [hgoes]
      exact List.append_subset.mpr ⟨List.subset_append_left .., fun b hb => by simp [hb]⟩
    have hlost : lost = [] := by
      rw [show lost = _ from givenUp_eq hactive hdistinct hslot (List.Subset.trans hstay hkept),
        units_erase]
      refine List.filter_eq_nil_iff.mpr fun u hu => ?_
      obtain ⟨t, ht, rfl⟩ := List.mem_map.mp hu
      have hmem : (index, some t) ∈ (fill job now placed).inFlight :=
        mem_inFlight.mpr ⟨⟨index, project, .here audit'⟩, hkept (by rw [hgoes]; simp), rfl, audit',
          rfl, hothers ht⟩
      simpa using hmem
    rw [hlost, hgoes, hactive]
    simp
  -- the audit ended: its own tools are given up, and they had one share
  · have hlost : lost.length ≤ (audit.running.erase tool).length := by
      rw [show lost = _ from givenUp_eq hactive hdistinct hslot (hended ▸ hkept), units_erase]
      exact (List.length_filter_le ..).trans (by simp)
    have hfreed : (audit.running.erase tool).length ≤ share :=
      ((List.length_erase_le ..).trans huses.2.within).trans (shares project)
    refine ⟨?_, fun hne => hcause.resolve_left fun hidle => hne ?_⟩
    · have hone : s.active.length = placed.active.length + 1 := by
        rw [hended, hactive, List.length_append, List.length_append, List.length_cons,
          Nat.add_assoc]
      rw [hone, Nat.add_mul, Nat.one_mul]
      exact Nat.add_le_add_left (hlost.trans hfreed) _
    · rw [hidle] at hlost
      exact List.eq_nil_of_length_eq_zero (Nat.le_zero.mp hlost)
  -- the run ended: everything is given up, and no project is left
  · refine ⟨?_, fun _ => herror⟩
    rw [hnone, List.length_nil, Nat.zero_mul, Nat.zero_add]
    exact ((List.length_filter_le ..).trans (List.length_erase_le ..)).trans
      (inFlight_length_le shares orderly.uses)

/-- A run in order is in order beside a project that is at work. -/
theorem Orderly.parted {a : Active} (orderly : Orderly job s.pending s)
    (hactive : s.active = before ++ a :: after) :
    Orderly job s.pending { s with active := before ++ after } ∧
      a.index ∉ (before ++ after).map Active.index ++ s.pending.map Prod.fst ∧
      (before ++ after).length < job.outer := by
  have hdistinct :
      (a.index :: ((before ++ after).map Active.index ++ s.pending.map Prod.fst)).Nodup := by
    have hall := orderly.distinct
    simp only [hactive, List.map_append, List.map_cons, List.append_assoc, List.cons_append]
      at hall ⊢
    exact List.perm_middle.nodup_iff.mp hall
  have hroom : (before ++ after).length < job.outer := by
    have hall := orderly.room
    rw [hactive, List.length_append, List.length_cons] at hall
    rw [List.length_append]
    omega
  obtain ⟨hnew, hothers⟩ := List.nodup_cons.mp hdistinct
  refine ⟨⟨hothers, fun b hb => orderly.uses b ?_, hroom.le⟩, hnew, hroom⟩
  rw [hactive]
  rcases List.mem_append.mp hb with hb | hb
  · exact List.mem_append_left _ hb
  · exact List.mem_append_right _ (List.mem_cons_of_mem _ hb)

/-- A delivery to the audit of a project leaves a run in order. -/
theorem Orderly.delivered (orderly : Orderly job s.pending s)
    (hactive : s.active = before ++ ⟨index, project, .here audit⟩ :: after)
    (hrunning : tool ∈ audit.running) (now : Nat) (res : Execution) {placed : State}
    (hplaced : placed = Schedule.place job before index project
      (Audit.deliver (job.audit project) now tool res (audit, s.records)) after s) :
    Orderly job placed.pending placed := by
  obtain ⟨hopen, hstaffed⟩ := orderly.uses ⟨index, project, .here audit⟩ (by simp [hactive])
  obtain ⟨hrest, hnew, hroom⟩ := orderly.parted hactive
  subst hplaced
  refine Orderly.of_waiting (hrest.place hnew hroom fun hopen' => ?_) (pending_place ..)
  rcases Audit.deliver_cases (m := (audit, s.records)) now res hopen hstaffed hrunning with
    ⟨-, -, hgoes⟩ | ⟨r, hend, -⟩
  · exact hgoes
  · rw [hopen'] at hend
    cases hend

namespace Shift

variable {w : Shift}

/-- Where a delivery gives up no more than it frees, it leaves a run within its room. -/
theorem Fits.filled (fits : w.Fits job share) {slot : Slot} {settled : State} {now : Nat}
    (orderly : Orderly job settled.pending settled)
    (hfreed : settled.active.length * share +
        (givenUp slot w.state (fill job now settled)).length ≤ w.state.active.length * share)
    (hlost : givenUp slot w.state (fill job now settled) ≠ [] → settled.error?.isSome)
    (herror : w.state.error?.isSome → settled.error?.isSome) :
    (w.after slot (fill job now settled)).Fits job share := by
  refine orderly.fits_fill ?_ (fun hne => ?_) now
  · have hroom := fits.room
    rw [List.length_append]
    omega
  · by_cases hnone : w.adrift = []
    · rw [hnone, List.nil_append] at hne
      exact hlost hne
    · exact herror (fits.ended hnone)

/-- The end of a tool leaves a run within its room. -/
theorem Fits.deliver (shares : job.Shares share) (fits : w.Fits job share) (now : Nat)
    (res : Execution) (hflight : (index, some tool) ∈ w.state.inFlight) :
    (w.after (index, some tool) (deliver job now index tool res w.state)).Fits job share := by
  obtain ⟨before, project, audit, after, hactive, hrunning, heq⟩ :=
    @deliver_eq_fill job _ fits.orderly.distinct.of_append_left _ _ hflight
  obtain ⟨hfreed, hlost⟩ := givenUp_place shares fits.orderly hactive hrunning now res rfl
  rw [heq]
  exact fits.filled (fits.orderly.delivered hactive hrunning now res rfl) hfreed hlost
    (isSome_error?_place _ _ _ _ _)

/-- The end of a process leaves a run within its room. -/
theorem Fits.deliverChild (fits : w.Fits job share) (now : Nat) (code : Int)
    (hflight : (index, none) ∈ w.state.inFlight) :
    (w.after (index, none) (deliverChild job now index code w.state)).Fits job share := by
  have hdistinct := fits.orderly.distinct.of_append_left
  obtain ⟨⟨index', project, work⟩, ha, hunit⟩ := List.mem_flatMap.mp hflight
  obtain rfl : index = index' := Active.fst_of_mem_units hunit
  obtain rfl : work = .child := by
    cases work with
    | here audit => simp [Active.units] at hunit
    | child => rfl
  obtain ⟨before, after, hactive, hsplit⟩ := split?_of_mem hdistinct ha
  obtain ⟨hrest, -, -⟩ := fits.orderly.parted hactive
  simp only [Schedule.deliverChild, hsplit]
  generalize houtcome : (if code ≠ 0 ∧ job.stopOnError = true then _ else _) = outcome
  let ended : State :=
    { w.state with
        active := before ++ after
        records := w.state.records.add project (.event (childEvent job project code)) }
  have hended : Orderly job w.state.pending ended := ⟨hrest.distinct, hrest.uses, hrest.room⟩
  -- the end of a process is never an error of the store
  have hothers : (settle job index project outcome ended).active = before ++ after := by
    rw [← houtcome]
    split
    · rename_i hstop
      simp [settle, hstop.2, ended]
    · rfl
  have hlost : givenUp (index, none) w.state
      (fill job now (settle job index project outcome ended)) = [] := by
    have hkept := (start_keeps job now (settle job index project outcome ended).pending
      (settle job index project outcome ended)).1.subset
    rw [givenUp_eq hactive hdistinct hunit (hothers ▸ hkept)]
    simp [Active.units]
  refine fits.filled ((hended.settle ..).of_waiting (pending_settle ..)) ?_
    (fun hne => absurd hlost hne) (isSome_error?_settle (s := ended) _ _ _)
  rw [hlost, hothers, hactive, List.length_nil, List.length_append, List.length_append,
    List.length_cons]
  exact Nat.mul_le_mul_right share (by omega)

/-- **Every step of a run leaves it within its room.** -/
theorem Fits.step (shares : job.Shares share) (fits : w.Fits job share) {w' : Shift}
    (step : Step job w w') : w'.Fits job share := by
  cases step with
  | tool now res hflight => exact fits.deliver shares now res hflight
  | process now code hflight => exact fits.deliverChild now code hflight
  | ashore slot =>
    have hfewer : (w.adrift.erase slot).length ≤ w.adrift.length := List.length_erase_le ..
    refine ⟨fits.orderly, fits.crowded, ?_, fun hne => fits.ended fun hnone => hne ?_⟩
    · have hroom := fits.room
      dsimp only
      omega
    · simp [hnone]

/-- **As long as something waits there is something at work.** -/
theorem Fits.inFlight_ne_nil (fits : w.Fits job share) (houter : 0 < job.outer)
    (hwaits : w.state.Waits) : w.state.inFlight ≠ [] := by
  obtain ⟨a, ha⟩ : ∃ a, a ∈ w.state.active := by
    rcases hwaits with hpending | ⟨a, ha, -⟩
    · obtain ⟨-, hroom⟩ := fits.crowded.resolve_left hpending
      exact List.exists_mem_of_length_pos (by omega)
    · exact ⟨a, ha⟩
  intro hnone
  exact (fits.orderly.uses a ha).units_ne_nil (List.flatMap_eq_nil_iff.mp hnone a ha)

/-- **No more tools are at work than a run has room for.** -/
theorem Fits.tools_le (shares : job.Shares share) (fits : w.Fits job share) :
    w.tools ≤ job.outer * share := by
  have hflights := inFlight_length_le shares fits.orderly.uses
  have hcount := List.countP_le_length (p := fun u : Slot => u.2.isSome) (l := w.state.inFlight)
  have hroom := fits.room
  unfold tools
  omega

/-- Where no project has a process of its own, what is at work are tools. -/
theorem Fits.isSome_of_mem_inFlight (fits : w.Fits job share) (happart : job.apart = false)
    {u : Slot} (hu : u ∈ w.state.inFlight) : u.2.isSome := by
  obtain ⟨⟨index, project, work⟩, ha, hunit⟩ := List.mem_flatMap.mp hu
  cases work with
  | here audit =>
    obtain ⟨tool, -, rfl⟩ := List.mem_map.mp hunit
    rfl
  | child =>
    have hprocess : job.apart = true := fits.orderly.uses _ ha
    rw [happart] at hprocess
    cases hprocess

/-- Where no project has a process of its own, tools are at work as long as something waits. -/
theorem Fits.tools_pos (fits : w.Fits job share) (houter : 0 < job.outer)
    (happart : job.apart = false) (hwaits : w.state.Waits) : 0 < w.tools := by
  obtain ⟨u, hu⟩ := List.exists_mem_of_ne_nil _ (fits.inFlight_ne_nil houter hwaits)
  have hpos : 0 < w.state.inFlight.countP fun u => u.2.isSome :=
    List.countP_pos_iff.mpr ⟨u, hu, fits.isSome_of_mem_inFlight happart hu⟩
  unfold tools
  omega

end Shift

end LintLedger.Schedule
