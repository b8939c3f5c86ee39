import LintLedger.Proofs.Finding.Columns
import LintLedger.Proofs.Path.Absolute
import Mathlib.Algebra.GroupWithZero.Nat
import Mathlib.Algebra.Order.BigOperators.Group.List

/-!
# Findings of paths with backslashes

The root of a finding has its backslashes turned into slashes before its identity is computed.  The
path of its file is compared with the root as it was given, and only what is left of it has its
backslashes turned into slashes.  So a file with backslashes and the same file with slashes have one
identity as long as the path is not compared with the root at all, being relative or having no root
to be compared with.  An absolute path is taken apart at its slashes alone, and then both have one
identity only if they lie below the root alike: both or neither, with one text left below it.

## Main Definitions

* `Path.restBelow?` -- what is left of an absolute file below a root
* `Path.TakenAlike` -- a file and its spelling with slashes lie below a root alike
* `Finding.slashed` -- the same finding with slashes in its file and its root

## Main Statements

* `Path.identityRelative_toSlashes_iff` -- when both spellings give one path in the identity
* `Path.takenAlike_iff_of_isNormal` -- the same for files that are normal apart from backslashes
* `Finding.contentKey_slashed_iff` -- when a finding has the identity that it has with slashes
* `Finding.contentKey_slashed_ne` -- findings that have another
-/

namespace LintLedger

namespace Path

/-! ## Lengths -/

theorem length_toSlashes (s : String) : (toSlashes s).length = s.length := by
  rw [toSlashes, String.length_ofList, List.length_map, String.length_toList]

theorem length_intercalate_add_one {parts : List String} (hne : parts ≠ []) :
    ("/".intercalate parts).length + 1 = (parts.map fun s => s.length + 1).sum := by
  induction parts with
  | nil => exact absurd rfl hne
  | cons s rest ih =>
    cases rest with
    | nil => simp
    | cons t rest =>
      rw [String.intercalate_cons_cons, List.map_cons, List.sum_cons, ← ih (List.cons_ne_nil _ _),
        String.length_append, String.length_append]
      have hslash : "/".length = 1 := rfl
      omega

/-- Some of the parts make no longer text than all of them. -/
theorem length_intercalate_le {parts all : List String} (h : parts.Sublist all) :
    ("/".intercalate parts).length ≤ ("/".intercalate all).length := by
  by_cases hne : parts = []
  · subst hne
    simp
  · have hall : all ≠ [] := by
      rintro rfl
      exact hne (List.sublist_nil.mp h)
    have hsum := (h.map fun s => s.length + 1).sum_le_sum (fun _ _ => Nat.zero_le _)
    rw [← length_intercalate_add_one hne, ← length_intercalate_add_one hall] at hsum
    omega

/-! ## Names among segments -/

theorem filterMap_sublist {g : String → Option String} (h : ∀ s t, g s = some t → t = s)
    (parts : List String) : (parts.filterMap g).Sublist parts := by
  induction parts with
  | nil => exact List.Sublist.refl _
  | cons s rest ih =>
    cases hg : g s with
    | none =>
      rw [List.filterMap_cons_none hg]
      exact ih.cons s
    | some t =>
      rw [List.filterMap_cons_some hg, h s t hg]
      exact ih.cons_cons s

/-- An absolute path is a slash and what stands behind it. -/
theorem exists_tail {p : String} (h : isAbsolute p = true) : ∃ tail, p = "/" ++ tail := by
  obtain ⟨cs, hcs⟩ := List.head?_eq_some_iff.mp (beq_iff_eq.mp h)
  refine ⟨String.ofList cs, ?_⟩
  rw [← String.toList_inj, hcs, String.toList_append]
  exact congrArg ('/' :: ·) String.toList_ofList.symm

theorem segments_slash_append (tail : String) : segments ("/" ++ tail) = "" :: segments tail := by
  have hsplit := FileTree.segments_append_slash "" tail
  rw [String.empty_append] at hsplit
  rw [hsplit]
  rfl

/-- The names in the normal form of an absolute path are some of its segments, in their order. -/
theorem names_sublist_segments {tail : String} {names : List String}
    (h : normalForm ("/" ++ tail) = .root :: named names) : names.Sublist (segments tail) := by
  have hparts := normalize_sublist (components ("/" ++ tail))
  rw [← normalForm, h, components, if_pos (isAbsolute_slash_append tail),
    List.cons_sublist_cons, segments_slash_append,
    List.filterMap_cons_none (show innerComponent? "" = none from rfl)] at hparts
  have hnames := hparts.filterMap Component.name?
  rw [List.filterMap_filterMap] at hnames
  have hself : (named names).filterMap Component.name? = names := by
    rw [named, List.filterMap_map]
    exact List.filterMap_some
  rw [hself] at hnames
  refine hnames.trans (filterMap_sublist (fun s t hst => ?_) _)
  unfold innerComponent? at hst
  split at hst
  · cases hst
  · split at hst <;> cases hst
    rfl

/-! ## What is left of a file below a root -/

/-- What is left of an absolute file below a root. -/
def restBelow? (root file : String) : Option (List Component) :=
  if root = "" ∨ ¬isAbsolute file then none else strip? (normalForm root) (normalForm file)

variable {root file : String} {rest : List Component}

theorem identityRelative_eq (file root : String) :
    identityRelative file root = ((restBelow? root file).map slashed).getD (toSlashes file) := by
  unfold identityRelative restBelow?
  split
  · rfl
  · cases strip? (normalForm root) (normalForm file) <;> rfl

theorem restBelow?_eq_some_iff : restBelow? root file = some rest ↔
    root ≠ "" ∧ isAbsolute file = true ∧ normalForm file = normalForm root ++ rest := by
  unfold restBelow?
  split
  · rename_i hskip
    refine ⟨nofun, fun ⟨hroot, hfile, _⟩ => ?_⟩
    exact absurd hskip (not_or.mpr ⟨hroot, not_not_intro hfile⟩)
  · rename_i hboth
    rw [not_or, not_not] at hboth
    rw [strip?_eq_some_iff]
    exact ⟨fun h => ⟨hboth.1, hboth.2, h⟩, fun h => h.2.2⟩

/-- What is left of a file is names, unless the root has no components. -/
theorem exists_named_of_restBelow? (hroot : normalForm root ≠ [])
    (h : restBelow? root file = some rest) :
    ∃ above under, normalForm root = .root :: named above ∧
      normalForm file = .root :: named (above ++ under) ∧ rest = named under ∧
      ∀ s ∈ above ++ under, IsName s := by
  obtain ⟨-, hfile, hsplit⟩ := restBelow?_eq_some_iff.mp h
  obtain ⟨all, hall, hnames⟩ := normalForm_of_isAbsolute hfile
  obtain ⟨c, front, hfront⟩ := List.exists_cons_of_ne_nil hroot
  rw [hall, hfront, List.cons_append, List.cons.injEq] at hsplit
  obtain ⟨above, under, rfl, habove, hunder⟩ := List.map_eq_append_iff.mp hsplit.2
  exact ⟨above, under, by rw [hfront, ← hsplit.1, ← habove]; rfl, hall, hunder.symm, hnames⟩

theorem isAbsolute_toSlashes (h : isAbsolute file = true) : isAbsolute (toSlashes file) = true := by
  obtain ⟨tail, rfl⟩ := exists_tail h
  rw [toSlashes_append]
  exact isAbsolute_slash_append _

/-- What is left of a file is shorter than the file. -/
theorem length_slashed_lt (hroot : normalForm root ≠ []) (h : restBelow? root file = some rest) :
    (slashed rest).length < file.length := by
  obtain ⟨above, under, -, hfile, rfl, -⟩ := exists_named_of_restBelow? hroot h
  obtain ⟨tail, rfl⟩ := exists_tail (restBelow?_eq_some_iff.mp h).2.1
  have hunder := (List.sublist_append_right above under).trans (names_sublist_segments hfile)
  have hlength := length_intercalate_le hunder
  rw [intercalate_segments] at hlength
  have hslash : "/".length = 1 := rfl
  rw [slashed, assemble_named, length_toSlashes, String.length_append]
  omega

/-- What is left of a file without backslashes is relative. -/
theorem isAbsolute_slashed_eq_false (hroot : normalForm root ≠ []) (hplain : '\\' ∉ file.toList)
    (h : restBelow? root file = some rest) : isAbsolute (slashed rest) = false := by
  obtain ⟨above, under, -, hfile, rfl, hnames⟩ := exists_named_of_restBelow? hroot h
  have hunder : ∀ s ∈ under, IsName s ∧ '\\' ∉ s.toList := by
    intro s hs
    refine ⟨hnames s (List.mem_append_right _ hs), notMem_of_mem_normalForm hplain ?_⟩
    rw [hfile]
    exact List.mem_cons_of_mem _ (List.mem_map_of_mem (List.mem_append_right _ hs))
  rw [slashed_names fun s hs => (hunder s hs).2]
  exact isAbsolute_intercalate fun s hs => (hunder s hs).1.isSegment

/-! ## Files with and without backslashes -/

/-- A file and its spelling with slashes are taken alike below a root: both lie below it or neither
does, and what is left is one text.  Below a root without components everything is left of an
absolute file, which makes no difference to one in normal form. -/
def TakenAlike (root file : String) : Prop :=
  (restBelow? root (toSlashes file)).map slashed = (restBelow? root file).map slashed ∨
    normalForm root = [] ∧ isAbsolute file = false ∧ IsNormal (toSlashes file)

theorem slashed_normalForm_eq_iff (hplain : '\\' ∉ file.toList) (h : isAbsolute file = true) :
    slashed (normalForm file) = file ↔ IsNormal file := by
  constructor
  · intro hself
    exact hself ▸ isNormal_slashed_of_plain h hplain
  · intro hnormal
    have hself := hnormal.ensureAbsolute_eq none
    rwa [ensureAbsolute, if_pos h] at hself

/-- **Both spellings of a file give one path in the identity exactly if they are taken alike.** -/
theorem identityRelative_toSlashes_iff :
    identityRelative (toSlashes file) root = identityRelative file root ↔ TakenAlike root file := by
  have hplain := notMem_toSlashes file
  rw [identityRelative_eq, identityRelative_eq, toSlashes_toSlashes]
  unfold TakenAlike
  cases hfile : restBelow? root file with
  | none =>
    cases hslashes : restBelow? root (toSlashes file) with
    | none => simp
    | some rest' =>
      obtain ⟨hne, habsolute, hsplit⟩ := restBelow?_eq_some_iff.mp hslashes
      simp only [Option.map_some, Option.map_none, Option.getD_some, Option.getD_none, reduceCtorEq,
        false_or]
      by_cases hroot : normalForm root = []
      · -- everything is left of the file with slashes, and nothing was taken of the other
        have hrelative : isAbsolute file = false := by
          by_contra hboth
          rw [Bool.not_eq_false] at hboth
          rw [restBelow?, if_neg (by simp [hne, hboth]), hroot] at hfile
          cases hfile
        rw [hroot, List.nil_append] at hsplit
        rw [← hsplit, slashed_normalForm_eq_iff hplain habsolute]
        simp [hroot, hrelative]
      -- what is left below a root is relative, and the file with slashes is absolute
      · refine iff_of_false (fun hself => ?_) fun h => hroot h.1
        have hrelative := isAbsolute_slashed_eq_false hroot hplain hslashes
        rw [hself, habsolute] at hrelative
        cases hrelative
  | some rest =>
    obtain ⟨hne, habsolute, hsplit⟩ := restBelow?_eq_some_iff.mp hfile
    cases hslashes : restBelow? root (toSlashes file) with
    | none =>
      have hroot : normalForm root ≠ [] := by
        intro hroot
        rw [restBelow?, if_neg (by simp [hne, isAbsolute_toSlashes habsolute]), hroot] at hslashes
        cases hslashes
      -- what is left is shorter than the file, which is as long as the file with slashes
      have hlength := length_slashed_lt hroot hfile
      simp only [Option.map_some, Option.map_none, Option.getD_some, Option.getD_none, reduceCtorEq,
        false_or]
      refine iff_of_false (fun hself => ?_) fun h => hroot h.1
      rw [← hself, length_toSlashes] at hlength
      exact absurd hlength (Nat.lt_irrefl _)
    | some rest' => simp [habsolute]

/-! ## Files that are normal apart from backslashes -/

theorem segments_toSlashes (p : String) :
    segments (toSlashes p) = (segments p).flatMap fun s => segments (toSlashes s) := by
  have hne : (segments p).map toSlashes ≠ [] := by
    rw [Ne, List.map_eq_nil_iff, segments, Text.splitOnChar, List.map_eq_nil_iff]
    exact Text.splitAll_ne_nil _ _
  rw [← List.flatMap_map, ← segments_intercalate_flatMap hne, ← toSlashes_intercalate,
    intercalate_segments]

/-- A text that is made of names where its backslashes separate is a name, if it has no slash. -/
theorem isName_of_pieces {s : String} (hslash : '/' ∉ s.toList)
    (h : ∀ piece ∈ segments (toSlashes s), IsName piece) : IsName s := by
  refine ⟨?_, ?_, ?_, hslash⟩
  · rintro rfl
    exact (h "" (by decide)).ne_empty rfl
  · rintro rfl
    exact (h "." (by decide)).ne_here rfl
  · rintro rfl
    exact (h ".." (by decide)).ne_up rfl

theorem normalForm_root_intercalate {names : List String} (h : ∀ s ∈ names, IsName s) :
    normalForm ("/" ++ "/".intercalate names) = .root :: named names := by
  rw [normalForm, ← assemble_root, components_assemble h, normalize_root_named]

theorem slashed_named (names : List String) :
    slashed (named names) = "/".intercalate (names.map toSlashes) := by
  rw [slashed, assemble_named, toSlashes_intercalate]

/-- The pieces of names between their backslashes join to the names with slashes. -/
theorem slashed_pieces (names : List String) :
    slashed (named (names.flatMap fun s => segments (toSlashes s))) = slashed (named names) := by
  by_cases hne : names = []
  · subst hne
    rfl
  · have hjoin : "/".intercalate (names.flatMap fun s => segments (toSlashes s)) =
        "/".intercalate (names.map toSlashes) := by
      rw [← List.flatMap_map, ← segments_intercalate_flatMap (by simpa using hne),
        intercalate_segments]
    rw [slashed, assemble_named, hjoin, ← toSlashes_intercalate, toSlashes_toSlashes,
      toSlashes_intercalate, slashed_named]

/-- The segments of an absolute file that is in normal form with slashes. -/
theorem pieces_of_isNormal {tail : String} (hnormal : IsNormal (toSlashes ("/" ++ tail)))
    (hne : tail ≠ "") :
    (∀ s ∈ segments tail, IsName s) ∧ ∀ s ∈ segments (toSlashes tail), IsName s := by
  have hsome : toSlashes tail ≠ "" := by
    intro hempty
    have hlength := length_toSlashes tail
    rw [hempty] at hlength
    exact hne (String.length_eq_zero_iff.mp hlength.symm)
  rw [toSlashes_append] at hnormal
  have hpieces :=
    ((isNormal_slash_append_iff (notMem_toSlashes tail)).mp hnormal).resolve_left hsome
  refine ⟨fun s hs => ?_, hpieces⟩
  refine isName_of_pieces (notMem_of_mem_segments hs) fun piece hpiece => hpieces piece ?_
  rw [segments_toSlashes]
  exact List.mem_flatMap.mpr ⟨s, hs, hpiece⟩

theorem normalForm_slash_append {tail : String} (h : ∀ s ∈ segments tail, IsName s) :
    normalForm ("/" ++ tail) = .root :: named (segments tail) := by
  rw [← normalForm_root_intercalate h, intercalate_segments]

/-- Names without backslashes are their own pieces. -/
theorem flatMap_pieces {names : List String} (h : ∀ s ∈ names, IsName s)
    (hplain : ∀ s ∈ names, '\\' ∉ s.toList) :
    (names.flatMap fun s => segments (toSlashes s)) = names := by
  refine (List.flatMap_congr fun s hs => ?_).trans (List.flatMap_singleton' names)
  rw [toSlashes_eq_self (hplain s hs), FileTree.segments_of_isName (h s hs)]

/-- What is left of a file that is normal apart from backslashes is left of the file with slashes as
well. -/
theorem map_restBelow?_of_isNormal (hplain : '\\' ∉ root.toList)
    (hnormal : IsNormal (toSlashes file)) (h : restBelow? root file = some rest) :
    (restBelow? root (toSlashes file)).map slashed = some (slashed rest) := by
  obtain ⟨hne, habsolute, hsplit⟩ := restBelow?_eq_some_iff.mp h
  have habsolute' := isAbsolute_toSlashes habsolute
  obtain ⟨tail, rfl⟩ := exists_tail habsolute
  by_cases htail : tail = ""
  · subst htail
    rw [show toSlashes ("/" ++ "") = "/" ++ "" by decide, h, Option.map_some]
  obtain ⟨hnames, hpieces⟩ := pieces_of_isNormal hnormal htail
  have hfile := normalForm_slash_append hnames
  by_cases hroot : normalForm root = []
  · -- everything is left of both, and both are written as they are
    have hself : restBelow? root (toSlashes ("/" ++ tail)) =
        some (normalForm (toSlashes ("/" ++ tail))) := by
      rw [restBelow?_eq_some_iff, hroot, List.nil_append]
      exact ⟨hne, habsolute', rfl⟩
    rw [hroot, List.nil_append] at hsplit
    rw [hself, Option.map_some,
      (slashed_normalForm_eq_iff (notMem_toSlashes _) habsolute').mpr hnormal, ← hsplit, hfile,
      slashed_root_named, ← toSlashes_intercalate, intercalate_segments, toSlashes_append]
    rfl
  · obtain ⟨above, under, habove, hall, rfl, -⟩ := exists_named_of_restBelow? hroot h
    have hsegments : segments tail = above ++ under :=
      named_injective (List.cons.inj (hfile.symm.trans hall)).2
    -- the root has no backslashes, so that they cut only what is below it
    have hfront : (above.flatMap fun s => segments (toSlashes s)) = above := by
      refine flatMap_pieces (fun s hs => hnames s (hsegments ▸ List.mem_append_left _ hs)) ?_
      intro s hs
      refine notMem_of_mem_normalForm hplain ?_
      rw [habove]
      exact List.mem_cons_of_mem _ (List.mem_map_of_mem hs)
    have hslashes : normalForm (toSlashes ("/" ++ tail)) =
        normalForm root ++ named (under.flatMap fun s => segments (toSlashes s)) := by
      rw [toSlashes_append, show toSlashes "/" = "/" by decide, normalForm_slash_append hpieces,
        segments_toSlashes, hsegments, List.flatMap_append, hfront, named_append, habove,
        List.cons_append]
    have hrest := restBelow?_eq_some_iff.mpr ⟨hne, habsolute', hslashes⟩
    rw [hrest, Option.map_some, slashed_pieces]

/-- **An absolute file that is in normal form with slashes** is taken alike exactly if it lies below
the root as it is, or lies not below it with slashes either. -/
theorem takenAlike_iff_of_isNormal (hplain : '\\' ∉ root.toList)
    (habsolute : isAbsolute file = true) (hnormal : IsNormal (toSlashes file)) :
    TakenAlike root file ↔
      restBelow? root file ≠ none ∨ restBelow? root (toSlashes file) = none := by
  unfold TakenAlike
  rw [or_iff_left fun hcorner => by simp [habsolute] at hcorner]
  cases h : restBelow? root file with
  | none => simp
  | some rest => simp [map_restBelow?_of_isNormal hplain hnormal h]

end Path

namespace Finding

open LintLedger.Path

/-- The same finding with slashes for the backslashes in its file and its root. -/
def slashed (f : Finding) : Finding :=
  { f with file := toSlashes f.file, root := toSlashes f.root }

variable {f : Finding}

theorem fieldText?_slashed {name : String} (hname : name ∈ identityFields) :
    f.slashed.fieldText? name = f.fieldText? name :=
  fieldText?_eq_of_region_eq (show f.slashed.region = f.region from rfl) (fun _ _ => rfl) hname

/-- Slashes in the file and the root matter only to the path in the identity. -/
theorem identityPath_slashed_iff :
    f.slashed.identityPath = f.identityPath ↔ TakenAlike (toSlashes f.root) f.file := by
  have hslashed :
      f.slashed.identityPath = identityRelative (toSlashes f.file) (toSlashes f.root) := by
    rw [identityPath, slashed, toSlashes_toSlashes]
  rw [hslashed, identityPath, identityRelative_toSlashes_iff]

/-- Findings that are taken alike agree on all that takes part in the identity. -/
theorem sameIdentity_slashed_of_takenAlike (h : TakenAlike (toSlashes f.root) f.file) :
    SameIdentity f.slashed f where
  table := rfl
  root := toSlashes_toSlashes f.root
  path := identityPath_slashed_iff.mpr h
  fields := fun _ => fieldText?_slashed

/-- A file is taken alike if it has no backslashes, is relative even with slashes, or has no
root. -/
theorem takenAlike_of_unread {root file : String}
    (h : '\\' ∉ file.toList ∨ isAbsolute (toSlashes file) = false ∨ root = "") :
    TakenAlike root file := by
  rcases h with hplain | hrelative | rfl
  · exact .inl (by rw [toSlashes_eq_self hplain])
  · have hfile : isAbsolute file = false := by
      by_contra hboth
      rw [Bool.not_eq_false] at hboth
      rw [isAbsolute_toSlashes hboth] at hrelative
      cases hrelative
    exact .inl (by simp [restBelow?, hrelative, hfile])
  · exact .inl (by simp [restBelow?])

/-- **When a finding has the identity that it has with slashes** for the backslashes in its file and
its root.  The root alone never matters.  Nor does the file if it has no backslashes, is relative
even with slashes, or has no root to be compared with.  Otherwise the identity is the same exactly
if the file is taken alike, as far as the digest tells the two texts apart; which for an absolute
file that is in normal form with slashes means that it lies below the root as it is, or does not
with slashes either. -/
theorem contentKey_slashed_iff (f : Finding) :
    { f with root := toSlashes f.root }.contentKey = f.contentKey ∧
    ('\\' ∉ f.file.toList ∨ isAbsolute (toSlashes f.file) = false ∨ f.root = "" →
      f.slashed.contentKey = f.contentKey) ∧
    (TakenAlike (toSlashes f.root) f.file → f.slashed.contentKey = f.contentKey) ∧
    (TellsApart f.slashed f →
      f.slashed.contentKey = f.contentKey → TakenAlike (toSlashes f.root) f.file) ∧
    (isAbsolute f.file = true → IsNormal (toSlashes f.file) →
      (TakenAlike (toSlashes f.root) f.file ↔ restBelow? (toSlashes f.root) f.file ≠ none ∨
        restBelow? (toSlashes f.root) (toSlashes f.file) = none)) := by
  refine ⟨?_, fun h => ?_, fun h => (sameIdentity_slashed_of_takenAlike h).contentKey_eq,
    fun hdigest h => ?_, ?_⟩
  · have hregion : { f with root := toSlashes f.root }.region = f.region := rfl
    have same : SameIdentity { f with root := toSlashes f.root } f :=
      { table := rfl
        root := toSlashes_toSlashes f.root
        path := by rw [identityPath, identityPath, toSlashes_toSlashes]
        fields := fun _ => fieldText?_eq_of_region_eq hregion fun _ _ => rfl }
    exact same.contentKey_eq
  · refine (sameIdentity_slashed_of_takenAlike (takenAlike_of_unread ?_)).contentKey_eq
    rcases h with h | h | h
    · exact .inl h
    · exact .inr (.inl h)
    · exact .inr (.inr (by rw [h]; rfl))
  · refine identityPath_slashed_iff.mp ?_
    exact identityPath_eq_of_identityText_eq rfl (toSlashes_toSlashes f.root)
      (fun _ => fieldText?_slashed) (hdigest h)
  · exact takenAlike_iff_of_isNormal (notMem_toSlashes f.root)

/-- A file with a backslash below the root, and a relative file, have the identities that they have
with slashes. -/
theorem contentKey_slashed_of_inner :
    let f := blank .bandit "/r/proj/src\\a.py" "\\r\\proj"
    let g := blank .bandit "proj\\a.py" "C:\\r\\proj"
    f.slashed.file = "/r/proj/src/a.py" ∧ f.slashed.root = "/r/proj" ∧
      g.slashed.file = "proj/a.py" ∧ g.slashed.root = "C:/r/proj" ∧
      isAbsolute f.file = true ∧ IsNormal (toSlashes f.file) ∧
      TakenAlike (toSlashes f.root) f.file ∧ isAbsolute (toSlashes g.file) = false ∧
      TellsApart f.slashed f ∧
      f.slashed.contentKey = f.contentKey ∧ g.slashed.contentKey = g.contentKey := by
  intro f g
  have hfile : toSlashes f.file = "/r/proj/src/a.py" := by decide
  have hnormal : IsNormal (toSlashes f.file) := by
    rw [hfile]
    exact ⟨["r", "proj", "src", "a.py"], by decide, by decide⟩
  have hrest : restBelow? (toSlashes f.root) f.file ≠ none := by decide
  obtain ⟨-, -, halike, -, hiff⟩ := contentKey_slashed_iff f
  have htaken := (hiff (by decide) hnormal).mpr (.inl hrest)
  have hkey := halike htaken
  have hrelative : isAbsolute (toSlashes g.file) = false := by decide
  have hkey' := (contentKey_slashed_iff g).2.1 (.inr (.inl hrelative))
  have htext : f.slashed.identityText = f.identityText :=
    (sameIdentity_slashed_of_takenAlike htaken).identityText_eq
  exact ⟨hfile, by decide, by decide, by decide, by decide, hnormal, htaken, hrelative,
    fun _ => htext, hkey, hkey'⟩

/-- **Backslashes that change the identity**: in place of the slash behind the root, in front of the
whole path, and around a way up. -/
theorem contentKey_slashed_ne :
    (∀ file ∈ ["/r/proj\\a.py", "\\r\\proj\\a.py"],
      toSlashes file = "/r/proj/a.py" ∧
      (blank .bandit file "/r/proj").slashed.contentKey ≠
        (blank .bandit file "/r/proj").contentKey) ∧
    (blank .bandit "/r/proj/src\\..\\a.py" "/r/proj").slashed.contentKey ≠
      (blank .bandit "/r/proj/src\\..\\a.py" "/r/proj").contentKey := by
  -- with slashes all three are one file below the root, which is digested without the root
  have hdigits : Sha256.hexNat (blank .bandit "/r/proj/a.py" "/r/proj").identityChars ∉
      [Sha256.hexNat (blank .bandit "/r/proj\\a.py" "/r/proj").identityChars,
        Sha256.hexNat (blank .bandit "/r/proj/src\\..\\a.py" "/r/proj").identityChars] := by
    decide +kernel
  rw [List.mem_cons, List.mem_singleton, not_or] at hdigits
  obtain ⟨hfrontKey, hupKey⟩ := hdigits.imp contentKey_ne_of_hexNat_ne contentKey_ne_of_hexNat_ne
  have hfront : (blank .bandit "\\r\\proj\\a.py" "/r/proj").identityText =
      (blank .bandit "/r/proj\\a.py" "/r/proj").identityText := by decide
  have hup : (blank .bandit "/r/proj/src\\..\\a.py" "/r/proj").slashed.identityText =
      (blank .bandit "/r/proj/a.py" "/r/proj").identityText := by decide +kernel
  constructor
  · rw [List.forall_mem_cons, List.forall_mem_singleton]
    refine ⟨⟨by decide, hfrontKey⟩, by decide, ?_⟩
    rw [contentKey_eq (blank .bandit "\\r\\proj\\a.py" "/r/proj"), hfront]
    exact hfrontKey
  · rw [contentKey_eq, hup]
    exact hupKey

end Finding

end LintLedger
