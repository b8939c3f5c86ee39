import LintLedger.Proofs.Analyzer.Clones
import LintLedger.Proofs.Data.Assoc
import Mathlib.Logic.Equiv.Basic

/-!
# Clones that are listed the other way round

Which of the two places of a clone a report lists first says nothing about the clone.  Sides are
totally ordered by everything that is known of them, so two sides that are sorted come out the same
whichever of them was listed first; and all that is told of a clone, its key included, is made of
its sorted sides and of members that do not name a place.  The rows of a report are therefore the
same, one by one, when places are exchanged in some of the listed clones.

## Main Definitions

* `Jscpd.Layout` -- the ways in which a report lists two places
* `Jscpd.exchange` -- a listed clone with its places exchanged
* `Jscpd.exchangeReport` -- a report in which places are exchanged in some of the clones

## Main Statements

* `Jscpd.Side.sorted_comm` -- two sides are sorted the same whichever comes first
* `Jscpd.clone?_exchange` -- a clone is read the same whichever place comes first
* `Jscpd.read_of_exchanged` -- a report has the same rows when places are exchanged
-/

namespace LintLedger.Jscpd

/-! ## The order of sides -/

theorem swap_compare {α : Type} [Ord α] [Std.OrientedOrd α] (x y : α) :
    (compare x y).swap = compare y x :=
  Std.OrientedCmp.eq_swap.symm

/-- Optional integers are compared the same way from both ends. -/
theorem compareOption_swap (x? y? : Option Int) :
    (compareOption x? y?).swap = compareOption y? x? := by
  cases x? with
  | none => cases y? <;> rfl
  | some x =>
    cases y? with
    | none => rfl
    | some y => exact swap_compare x y

theorem eq_of_compareOption_eq {x? y? : Option Int} (h : compareOption x? y? = .eq) : x? = y? := by
  cases x? with
  | none =>
    cases y? with
    | none => rfl
    | some y => cases h
  | some x =>
    cases y? with
    | none => cases h
    | some y => exact congrArg some (compare_eq_iff_eq.mp h)

namespace Side

/-- Sides are compared the same way from both ends. -/
theorem cmp_swap (a b : Side) : (a.cmp b).swap = b.cmp a := by
  simp only [cmp, Ordering.swap_then, swap_compare, compareOption_swap]

/-- The order of sides tells all of them apart: it looks at everything that is known of a side. -/
theorem eq_of_cmp_eq {a b : Side} (h : a.cmp b = .eq) : a = b := by
  simp only [cmp, Ordering.then_eq_eq, compare_eq_iff_eq] at h
  obtain ⟨hfile, hfirst, hlast, hreported, hcolumn, hend⟩ := h
  cases a
  cases b
  dsimp only at hfile hfirst hlast hreported hcolumn hend
  rw [hfile, hfirst, hlast, hreported, eq_of_compareOption_eq hcolumn, eq_of_compareOption_eq hend]

/-- **Two sides are sorted the same whichever comes first.** -/
theorem sorted_comm (a b : Side) : a.sorted b = b.sorted a := by
  have hswap := cmp_swap a b
  unfold sorted
  cases hab : a.cmp b with
  | lt =>
    rw [hab] at hswap
    rw [← hswap]
    rfl
  | eq =>
    obtain rfl := eq_of_cmp_eq hab
    rw [hab]
  | gt =>
    rw [hab] at hswap
    rw [← hswap]
    rfl

end Side

/-! ## Exchanged places -/

/-- The ways in which a report lists the two places of a clone. -/
inductive Layout where
  /-- As `firstFile` and `secondFile`. -/
  | files
  /-- As `duplicationA` and `duplicationB`. -/
  | duplications
  /-- As the first two of `instances`. -/
  | instances
deriving DecidableEq, Repr

/-- The members of an object with the values of two keys exchanged; the value of a key without its
counterpart stays. -/
def exchangeMembers (a b : String) (members : Assoc Json) : Assoc Json :=
  members.map fun m => (m.1, (members.find? (Equiv.swap a b m.1)).getD m.2)

/-- A list with its first two items exchanged. -/
def exchangeFront : Json → Json
  | .arr (x :: y :: rest) => .arr (y :: x :: rest)
  | v => v

/-- A listed clone with the places exchanged that it lists in one of the ways. -/
def exchange : Layout → Json → Json
  | .files, .obj members => .obj (exchangeMembers "firstFile" "secondFile" members)
  | .duplications, .obj members => .obj (exchangeMembers "duplicationA" "duplicationB" members)
  | .instances, .obj members =>
    .obj (members.map fun m => (m.1, if m.1 = "instances" then exchangeFront m.2 else m.2))
  | _, listed => listed

/-- A list of clones with places exchanged in some of them; `choice` says in which, and how. -/
def exchangeIn (choice : Nat → List Layout) : Json → Json
  | .arr items => .arr (items.mapIdx fun i listed => (choice i).foldr exchange listed)
  | v => v

/-- A report with places exchanged in some of the clones of its two lists. -/
def exchangeReport (choice : String → Nat → List Layout) : Json → Json
  | .obj members =>
    .obj (members.map fun m =>
      (m.1, if m.1 = "duplicates" ∨ m.1 = "clones" then exchangeIn (choice m.1) m.2 else m.2))
  | report => report

variable {settings : JscpdSettings} {ctx : PathContext}

/-- The members of a listed clone that an exchange touches. -/
def Layout.keys : Layout → List String
  | .files => ["firstFile", "secondFile"]
  | .duplications => ["duplicationA", "duplicationB"]
  | .instances => ["instances"]

theorem find?_exchangeMembers (a b key : String) (members : Assoc Json) :
    Assoc.find? key (exchangeMembers a b members) =
      (Assoc.find? key members).map (Assoc.find? (Equiv.swap a b key) members).getD :=
  Assoc.find?_map (fun k => (Assoc.find? (Equiv.swap a b k) members).getD) members key

/-- An exchange leaves the other members as they are. -/
theorem get?_exchange_of_notMem {layout : Layout} {key : String} (h : key ∉ layout.keys)
    (listed : Json) : (exchange layout listed).get? key = listed.get? key := by
  have hpair {a b : String} (ha : key ≠ a) (hb : key ≠ b) (members : Assoc Json) :
      Assoc.find? key (exchangeMembers a b members) = Assoc.find? key members := by
    rw [find?_exchangeMembers, Equiv.swap_apply_of_ne_of_ne ha hb]
    cases Assoc.find? key members <;> rfl
  cases listed with
  | obj members =>
    cases layout with
    | files =>
      simp only [Layout.keys, List.mem_cons, List.not_mem_nil, or_false, not_or] at h
      exact hpair h.1 h.2 members
    | duplications =>
      simp only [Layout.keys, List.mem_cons, List.not_mem_nil, or_false, not_or] at h
      exact hpair h.1 h.2 members
    | instances =>
      have hne : key ≠ "instances" := fun heq => h (List.mem_singleton.mpr heq)
      refine (Assoc.find?_map (fun k v => if k = "instances" then exchangeFront v else v) members
        key).trans ?_
      simp [hne, Json.get?]
  | _ => cases layout <;> rfl

/-- The values under two keys, if both are there. -/
def valuesAt (a b : String) (listed : Json) : Option (Json × Json) :=
  (listed.get? a).bind fun x => (listed.get? b).map fun y => (x, y)

/-- The first two items of a list. -/
def frontOf : List Json → Option (Json × Json)
  | a :: b :: _ => some (a, b)
  | _ => none

theorem places_eq (listed : Json) :
    places listed =
      ((valuesAt "firstFile" "secondFile" listed).or
        (valuesAt "duplicationA" "duplicationB" listed)).or
          (frontOf (Json.itemsOf (listed.get? "instances"))) := by
  unfold places frontOf
  rfl

theorem valuesAt_exchangeMembers (a b : String) (members : Assoc Json) :
    valuesAt a b (.obj (exchangeMembers a b members)) =
      (valuesAt a b (.obj members)).map Prod.swap := by
  simp only [valuesAt, Json.get?, find?_exchangeMembers, Equiv.swap_apply_left,
    Equiv.swap_apply_right]
  cases Assoc.find? a members <;> cases Assoc.find? b members <;> rfl

theorem frontOf_exchangeFront (value? : Option Json) :
    frontOf (Json.itemsOf (value?.map exchangeFront)) =
      (frontOf (Json.itemsOf value?)).map Prod.swap := by
  match value? with
  | none => rfl
  | some (.arr []) => rfl
  | some (.arr [_]) => rfl
  | some (.arr (_ :: _ :: _)) => rfl
  | some .null => rfl
  | some (.bool _) => rfl
  | some (.num _) => rfl
  | some (.str _) => rfl
  | some (.obj _) => rfl

/-- An exchange exchanges the two places of a listed clone, or they are listed in another way and
stay. -/
theorem places_exchange (layout : Layout) (listed : Json) :
    places (exchange layout listed) = places listed ∨
      places (exchange layout listed) = (places listed).map Prod.swap := by
  have hsame {a b : String} (ha : a ∉ layout.keys) (hb : b ∉ layout.keys) :
      valuesAt a b (exchange layout listed) = valuesAt a b listed := by
    rw [valuesAt, valuesAt, get?_exchange_of_notMem ha, get?_exchange_of_notMem hb]
  cases listed with
  | obj members =>
    -- the first layout that is there gives the places, so the others may change
    rw [places_eq, places_eq]
    cases layout with
    | files =>
      have hfiles : valuesAt "firstFile" "secondFile" (exchange .files (.obj members)) =
          (valuesAt "firstFile" "secondFile" (.obj members)).map Prod.swap :=
        valuesAt_exchangeMembers _ _ members
      rw [hfiles, hsame (by decide) (by decide), get?_exchange_of_notMem (by decide)]
      cases valuesAt "firstFile" "secondFile" (.obj members) with
      | none => exact .inl rfl
      | some pair => exact .inr rfl
    | duplications =>
      have hduplications :
          valuesAt "duplicationA" "duplicationB" (exchange .duplications (.obj members)) =
            (valuesAt "duplicationA" "duplicationB" (.obj members)).map Prod.swap :=
        valuesAt_exchangeMembers _ _ members
      rw [hduplications, hsame (by decide) (by decide), get?_exchange_of_notMem (by decide)]
      cases valuesAt "firstFile" "secondFile" (.obj members) with
      | some pair => exact .inl rfl
      | none =>
        cases valuesAt "duplicationA" "duplicationB" (.obj members) with
        | none => exact .inl rfl
        | some pair => exact .inr rfl
    | instances =>
      have hinstances : (exchange .instances (.obj members)).get? "instances" =
          ((Json.obj members).get? "instances").map exchangeFront := by
        refine (Assoc.find?_map (fun k v => if k = "instances" then exchangeFront v else v)
          members "instances").trans ?_
        simp [Json.get?]
      rw [hsame (by decide) (by decide), hsame (by decide) (by decide), hinstances,
        frontOf_exchangeFront]
      cases (valuesAt "firstFile" "secondFile" (.obj members)).or
          (valuesAt "duplicationA" "duplicationB" (.obj members)) with
      | some pair => exact .inl rfl
      | none => exact .inr rfl
  | _ => cases layout <;> exact .inl rfl

/-! ## Clones, reports, rows -/

/-- The sides of a listed clone are the same after an exchange, in one order or the other. -/
theorem keptSides?_exchange (layout : Layout) (listed : Json) :
    keptSides? settings ctx (exchange layout listed) = keptSides? settings ctx listed ∨
      keptSides? settings ctx (exchange layout listed) =
        (keptSides? settings ctx listed).map Prod.swap := by
  obtain hsame | hswapped := places_exchange layout listed
  · left
    rw [keptSides?, keptSides?, hsame]
  · right
    rw [keptSides?, keptSides?, hswapped]
    cases places listed with
    | none => rfl
    | some pair =>
      obtain ⟨x, y⟩ := pair
      dsimp only [Option.map_some, Prod.swap, Option.bind_some]
      cases Side.ofInstance? ctx x with
      | none => cases Side.ofInstance? ctx y <;> rfl
      | some a =>
        cases Side.ofInstance? ctx y with
        | none => rfl
        | some b =>
          -- whether a clone is within one file does not depend on the order of its sides
          dsimp only [Option.bind_some, Option.map_some, Option.filter_some]
          rw [bne_comm (a := b.file)]
          split <;> rfl

/-- What is told of a clone does not depend on the order of its sides. -/
theorem cloneOf_comm (listed : Json) (a b : Side) :
    cloneOf settings listed a b = cloneOf settings listed b a := by
  simp only [cloneOf, keyOf, Side.sorted_comm a b]

/-- An exchange touches nothing else that is told of a clone. -/
theorem cloneOf_exchange (layout : Layout) (listed : Json) (a b : Side) :
    cloneOf settings (exchange layout listed) a b = cloneOf settings listed a b := by
  have hother : ∀ key ∈ ["fragment", "lines", "tokens", "format", "language"],
      (exchange layout listed).get? key = listed.get? key := by
    intro key hkey
    refine get?_exchange_of_notMem ?_ listed
    revert key
    cases layout <;> decide
  simp only [List.forall_mem_cons] at hother
  obtain ⟨hfragment, hlines, htokens, hformat, hlanguage, -⟩ := hother
  simp only [cloneOf, keyOf, Json.textAt?, hfragment, hlines, htokens, hformat, hlanguage]

/-- **A clone is read the same whichever of its places is listed first.** -/
theorem clone?_exchange (layout : Layout) (listed : Json) :
    clone? settings ctx (exchange layout listed) = clone? settings ctx listed := by
  rw [clone?_eq, clone?_eq]
  obtain hsame | hswapped := @keptSides?_exchange settings ctx layout listed
  · rw [hsame]
    simp only [cloneOf_exchange]
  · rw [hswapped, Option.map_map]
    congr 1
    funext sides
    exact (cloneOf_exchange layout listed _ _).trans (cloneOf_comm listed _ _)

/-- A change of the items of a list that cannot be seen afterwards leaves what is seen. -/
theorem filterMap_mapIdx {α β : Type} {change : Nat → α → α} {see : α → Option β}
    (h : ∀ i x, see (change i x) = see x) (xs : List α) :
    (xs.mapIdx change).filterMap see = xs.filterMap see := by
  induction xs generalizing change with
  | nil => rfl
  | cons x rest ih =>
    rw [List.mapIdx_cons, List.filterMap_cons, List.filterMap_cons, h,
      ih fun i => h (i + 1)]

theorem get?_exchangeReport (choice : String → Nat → List Layout) (report : Json) (key : String) :
    (exchangeReport choice report).get? key =
      (report.get? key).map fun v =>
        if key = "duplicates" ∨ key = "clones" then exchangeIn (choice key) v else v := by
  cases report with
  | obj members =>
    exact Assoc.find?_map
      (fun k v => if k = "duplicates" ∨ k = "clones" then exchangeIn (choice k) v else v)
      members key
  | _ => rfl

theorem itemsOf_exchangeIn (choice : Nat → List Layout) (value? : Option Json) :
    Json.itemsOf (value?.map (exchangeIn choice)) =
      (Json.itemsOf value?).mapIdx fun i listed => (choice i).foldr exchange listed := by
  match value? with
  | none => rfl
  | some (.arr _) => rfl
  | some .null => rfl
  | some (.bool _) => rfl
  | some (.num _) => rfl
  | some (.str _) => rfl
  | some (.obj _) => rfl

/-- The clones of a report are read the same when places are exchanged in some of them. -/
theorem filterMap_listedClones_exchangeReport (choice : String → Nat → List Layout)
    (report : Json) :
    (listedClones (exchangeReport choice report)).filterMap (clone? settings ctx) =
      (listedClones report).filterMap (clone? settings ctx) := by
  have hclone (layouts : List Layout) (listed : Json) :
      clone? settings ctx (layouts.foldr exchange listed) = clone? settings ctx listed := by
    induction layouts with
    | nil => rfl
    | cons layout rest ih => rw [List.foldr_cons, clone?_exchange, ih]
  have hitems {key : String} (hkey : key = "duplicates" ∨ key = "clones") :
      Json.itemsOf ((exchangeReport choice report).get? key) =
        (Json.itemsOf (report.get? key)).mapIdx fun i listed =>
          (choice key i).foldr exchange listed := by
    rw [get?_exchangeReport, ← itemsOf_exchangeIn]
    simp only [if_pos hkey]
  -- an exchange leaves the length of a list, so the same one of the two lists counts
  unfold listedClones
  rw [hitems (.inl rfl), hitems (.inr rfl)]
  cases Json.itemsOf (report.get? "duplicates") with
  | nil => exact filterMap_mapIdx (fun i => hclone (choice "clones" i)) _
  | cons first rest =>
    have hrest := filterMap_mapIdx (fun i => hclone (choice "duplicates" i)) (first :: rest)
    rwa [List.mapIdx_cons] at hrest ⊢

/-- **A report has the same rows when places are exchanged** in some of the clones that it lists,
and with them the same keys. -/
theorem read_of_exchanged (settings : JscpdSettings) {run run' : RunRecord} (ctx : PathContext)
    {choice : String → Nat → List Layout}
    (h : run'.document = exchangeReport choice run.document) :
    (analyzer settings).read run' ctx = (analyzer settings).read run ctx ∧
      (findings settings run' ctx).map Finding.pk = (findings settings run ctx).map Finding.pk := by
  have hissues : issueRows settings ctx (ctx.root []) run'.document =
      issueRows settings ctx (ctx.root []) run.document := by
    simp only [issueRows, h, filterMap_listedClones_exchangeReport]
  have hfiles : fileRows ctx (ctx.root []) run'.document =
      fileRows ctx (ctx.root []) run.document := by
    have hstatistics : run'.document.get? "statistics" = run.document.get? "statistics" := by
      rw [h, get?_exchangeReport]
      simp
    rw [fileRows, fileRows, Json.dig?, Json.dig?, hstatistics]
  have hfindings : findings settings run' ctx = findings settings run ctx := by
    rw [findings, findings, hissues, hfiles]
  exact ⟨congrArg Except.ok hfindings, by rw [hfindings]⟩

namespace Listing

/-- A listed clone whose places are instances. -/
def instancesOf (a b : Json) : Json := .obj [("instances", .arr [a, b])]

/-- A pair in either direction, and a place that is spelled in two ways. -/
def turned : List Json :=
  [clone "x" back front, clone "x" front back,
    instancesOf (placeJson "src/./a.ts" 3 14) (placeJson "src/a.ts" 3 14)]

/-- The same clones with the places of the first and of the last exchanged. -/
def turnedBack : List Json :=
  [clone "x" front back, clone "x" front back,
    instancesOf (placeJson "src/a.ts" 3 14) (placeJson "src/./a.ts" 3 14)]

end Listing

open Listing

/-- Two sides that differ in nothing but the spelling of their file are told apart, and sorted the
same. -/
theorem read_of_turned :
    (runOf turnedBack).document =
        exchangeReport (fun _ i => if i = 0 then [.files] else if i = 2 then [.instances] else [])
          (runOf turned).document ∧
      (findings {} (runOf turned) site).length = 2 ∧
      (analyzer {}).read (runOf turnedBack) site = (analyzer {}).read (runOf turned) site ∧
      (findings {} (runOf turnedBack) site).map Finding.pk =
        (findings {} (runOf turned) site).map Finding.pk := by
  have hexchanged : (runOf turnedBack).document =
      exchangeReport (fun _ i => if i = 0 then [.files] else if i = 2 then [.instances] else [])
        (runOf turned).document := rfl
  exact ⟨hexchanged, by decide +kernel, read_of_exchanged {} site hexchanged⟩

end LintLedger.Jscpd
