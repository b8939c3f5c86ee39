import LintLedger.Proofs.Data.Digits
import LintLedger.Proofs.Path.Components
import LintLedger.Store.Extract
import Mathlib.Data.List.Nodup

/-!
# The roots of an export and their folders

A folder name means the root that is equal to it, and if there is none, the first root whose
segments end with those of the name.  Separators at the end of the name do not count, but those at
the end of a root do.  So every root without a separator at its end is meant by its own name, while
a root with one can only be found by its segments: it is missed where another root is equal to the
rest of it or comes first with the same segments at its end, and the root of the file system, which
has no segments, is never found.

Every root of an export is written to the folder of its own name, and where that was taken by
roots before it, to the name with a number.  The pairs of name and number are never the same for
two roots, and a number is told from its name by the last hyphen.  So two roots can only come to
one folder if one of them is named like another with its number, as `api-2` is.

## Main Definitions

* `Path.FirstEndingIn` -- the first root whose segments end with those of a name
* `Export.numbered` -- a folder name with a number
* `Export.uses` -- the roots of an export with the numbers of their names
* `Export.NumberTaken` -- a root has the name that another root gets with its number

## Main Statements

* `Path.matchRoot?_eq_some_iff` -- which root a name means
* `Path.meant_by_own_name` -- which roots are meant by their own names
* `Path.not_meant_by_own_name` -- roots that are not
* `Export.numbered_eq_iff` -- when two names with numbers are the same
* `Export.mem_uses` -- which numbers a name gets
* `Export.nodup_exportFolders_iff` -- when the folders of an export are pairwise distinct
-/

namespace LintLedger.Path

/-! ## Segments -/

/-- Separators at the end of a path do not make segments. -/
theorem folderSegments_trimSeparators (p : String) :
    folderSegments (trimSeparators p) = folderSegments p := by
  obtain ⟨cs, rfl⟩ : ∃ cs, p = String.ofList cs := ⟨p.toList, by simp⟩
  rw [trimSeparators, Text.trimEndOf, String.toList_ofList]
  induction cs using List.reverseRecOn with
  | nil => rfl
  | append_singleton cs c ih =>
    rw [dropTail_concat]
    split
    · rename_i hsep
      have hsplit := @Text.splitAll_concat_of_sep _ (fun c => c == '/' || c == '\\') cs c hsep
      rw [ih, folderSegments, folderSegments, Text.splitOnChar, Text.splitOnChar,
        String.toList_ofList, String.toList_ofList, hsplit, List.map_append, List.filter_append]
      exact (List.append_nil _).symm
    · rfl

/-! ## The root that is meant -/

/-- A root is the first whose segments end with those of a name. -/
def FirstEndingIn (folder : String) (roots : List String) (root : String) : Prop :=
  folderSegments folder <:+ folderSegments root ∧
    ∃ before after, roots = before ++ root :: after ∧
      ∀ r ∈ before, ¬ folderSegments folder <:+ folderSegments r

variable {roots : List String} {folder root : String}

theorem FirstEndingIn.mem (h : FirstEndingIn folder roots root) : root ∈ roots := by
  obtain ⟨-, before, after, rfl, -⟩ := h
  exact List.mem_append_right _ List.mem_cons_self

/-- The first root whose segments end with those of a name is found by looking for it. -/
theorem find?_eq_some_iff_firstEndingIn :
    roots.find? (fun r => (folderSegments folder).isSuffixOf (folderSegments r)) = some root ↔
      FirstEndingIn folder roots root := by
  rw [List.find?_eq_some_iff_append, FirstEndingIn, List.isSuffixOf_iff_suffix]
  simp only [Bool.not_eq_true', ← Bool.not_eq_true, List.isSuffixOf_iff_suffix]

/-- **Which root a name means**: the one that it is, or the first that ends with it. -/
theorem matchRoot?_eq_some_iff :
    matchRoot? roots folder = some root ↔
      (root ∈ roots ∧ root = trimSeparators folder) ∨
        (trimSeparators folder ∉ roots ∧ folderSegments folder ≠ [] ∧
          FirstEndingIn folder roots root) := by
  unfold matchRoot?
  dsimp only
  rw [folderSegments_trimSeparators]
  cases hexact : roots.find? (· == trimSeparators folder) with
  | some exact =>
    obtain rfl : exact = trimSeparators folder := by simpa using List.find?_some hexact
    have hmem := List.mem_of_find?_eq_some hexact
    simp only [Option.some.injEq, hmem, not_true_eq_false, false_and, or_false]
    constructor
    · rintro rfl
      exact ⟨hmem, rfl⟩
    · exact fun h => h.2.symm
  | none =>
    have hnone : trimSeparators folder ∉ roots := by
      intro hmem
      have hall := List.find?_eq_none.mp hexact _ hmem
      simp at hall
    have hleft : ¬(root ∈ roots ∧ root = trimSeparators folder) := by
      rintro ⟨hmem, rfl⟩
      exact hnone hmem
    dsimp only
    split
    · rename_i hempty
      rw [List.isEmpty_iff] at hempty
      simp [hleft, hempty]
    · rename_i hne
      rw [List.isEmpty_iff] at hne
      rw [find?_eq_some_iff_firstEndingIn]
      simp [hleft, hnone, hne]

theorem exportRoots_eq_ok_iff :
    exportRoots roots (some folder) = .ok [root] ↔ matchRoot? roots folder = some root := by
  rw [exportRoots]
  split
  · rename_i meant hmeant
    simp [hmeant]
  · rename_i hmeant
    simp [hmeant]

/-- **Which roots are meant by their own names.**  A root without a separator at its end always is.
Any other is if no root is equal to the rest of it and it is the first that ends with its segments,
of which it has to have some.  Whatever root a name means is one of the roots, and it is the name or
ends with its segments. -/
theorem meant_by_own_name (roots : List String) :
    (∀ root ∈ roots, (exportRoots roots (some root) = .ok [root] ↔
        matchRoot? roots root = some root) ∧
      (matchRoot? roots root = some root ↔
        trimSeparators root = root ∨ (trimSeparators root ∉ roots ∧ folderSegments root ≠ [] ∧
          FirstEndingIn root roots root))) ∧
    ∀ folder root, matchRoot? roots folder = some root →
      root ∈ roots ∧ (root = trimSeparators folder ∨
        folderSegments folder <:+ folderSegments root) := by
  constructor
  · intro root hroot
    refine ⟨exportRoots_eq_ok_iff, ?_⟩
    rw [matchRoot?_eq_some_iff]
    simp only [hroot, true_and, eq_comm]
  · intro folder root h
    obtain ⟨hmem, heq⟩ | ⟨-, -, hfirst⟩ := matchRoot?_eq_some_iff.mp h
    · exact ⟨hmem, .inl heq⟩
    · exact ⟨hfirst.mem, .inr hfirst.1⟩

/-- A root with a separator at its end among others: it is meant by its own name, and so is a root
that ends with the same segments. -/
theorem meant_by_own_name_of_three :
    matchRoot? ["/w/api/", "/v/w/api", "api"] "/w/api/" = some "/w/api/" ∧
      matchRoot? ["/w/api/", "/v/w/api", "api"] "api" = some "api" := by
  obtain ⟨hown, -⟩ := meant_by_own_name ["/w/api/", "/v/w/api", "api"]
  refine ⟨((hown "/w/api/" (by decide)).2).mpr (.inr ⟨?_, ?_, ?_⟩),
    ((hown "api" (by decide)).2).mpr (.inl ?_)⟩
  · decide
  · decide
  · exact ⟨List.suffix_rfl, [], _, rfl, List.forall_mem_nil _⟩
  · decide

/-- The root of the file system is not found by its name, and of two roots that end alike the other
one is found by the name of the second. -/
theorem not_meant_by_own_name :
    matchRoot? ["/"] "/" = none ∧ matchRoot? ["/v/w/api", "/w/api/"] "/w/api/" = some "/v/w/api" ∧
      matchRoot? ["/w/api", "/w/api/"] "/w/api/" = some "/w/api" := by
  decide

end LintLedger.Path

namespace LintLedger.Export

/-! ## Names with numbers -/

/-- A folder name with its number, which the first use does not show. -/
def numbered (folder : String) (n : Nat) : String :=
  if n = 1 then folder else folder ++ "-" ++ toString n

theorem numbered_one (folder : String) : numbered folder 1 = folder := if_pos rfl

theorem numbered_of_ne {n : Nat} (h : n ≠ 1) (folder : String) :
    numbered folder n = folder ++ "-" ++ toString n := if_neg h

/-- What stands behind the last hyphen of a numbered name is the number. -/
theorem eq_of_append_toString {folder folder' : String} {m n : Nat}
    (h : folder ++ "-" ++ toString m = folder' ++ "-" ++ toString n) : folder = folder' ∧ m = n := by
  have hchars : folder.toList ++ '-' :: Nat.toDigits 10 m =
      folder'.toList ++ '-' :: Nat.toDigits 10 n := by
    simpa [String.toList_append, Digits.toList_toString] using congrArg String.toList h
  obtain ⟨hname, hdigits⟩ :=
    Joined.back_eq (Digits.notMem_toDigits rfl m) (Digits.notMem_toDigits rfl n) hchars
  exact ⟨String.toList_inj.mp hname, Digits.toDigits_inj hdigits⟩

/-- Two names with numbers are the same if they are made of the same, or if one of them is a plain
name that is written like the other. -/
theorem numbered_eq_iff {folder folder' : String} {m n : Nat} :
    numbered folder m = numbered folder' n ↔
      (folder = folder' ∧ m = n) ∨
      (m = 1 ∧ n ≠ 1 ∧ folder = folder' ++ "-" ++ toString n) ∨
      (n = 1 ∧ m ≠ 1 ∧ folder' = folder ++ "-" ++ toString m) := by
  by_cases hm : m = 1 <;> by_cases hn : n = 1
  · subst hm hn
    simp [numbered_one]
  · subst hm
    rw [numbered_one, numbered_of_ne hn]
    simp [hn, Ne.symm hn]
  · subst hn
    rw [numbered_one, numbered_of_ne hm]
    simp [hm, eq_comm]
  · rw [numbered_of_ne hm, numbered_of_ne hn]
    constructor
    · exact fun h => .inl (eq_of_append_toString h)
    · rintro (⟨rfl, rfl⟩ | ⟨h, -⟩ | ⟨h, -⟩)
      · rfl
      · exact absurd h hm
      · exact absurd h hn

/-! ## The numbers of an export -/

/-- The folder names of roots, each with the number of times it was used up to there. -/
def usesAfter (earlier : List String) : List String → List (String × Nat)
  | [] => []
  | root :: rest =>
    (Path.exportFolder root, earlier.count (Path.exportFolder root) + 1)
      :: usesAfter (Path.exportFolder root :: earlier) rest

/-- The folder names of the roots of an export with their numbers. -/
def uses (roots : List String) : List (String × Nat) := usesAfter [] roots

theorem exportFoldersAfter_eq (earlier roots : List String) :
    exportFoldersAfter earlier roots =
      (usesAfter earlier roots).map fun use => numbered use.1 use.2 := by
  induction roots generalizing earlier with
  | nil => rfl
  | cons root rest ih =>
    rw [exportFoldersAfter, usesAfter, List.map_cons, ih]
    dsimp only [numbered]

theorem length_exportFolders (roots : List String) :
    (exportFolders roots).length = roots.length := by
  have hlength (earlier : List String) : (usesAfter earlier roots).length = roots.length := by
    induction roots generalizing earlier with
    | nil => rfl
    | cons root rest ih => rw [usesAfter, List.length_cons, ih, List.length_cons]
  rw [exportFolders, exportFoldersAfter_eq, List.length_map, hlength]

/-- A name gets the numbers above those it had before, one for each root that it is the name
of. -/
theorem mem_usesAfter {earlier roots : List String} {folder : String} {n : Nat} :
    (folder, n) ∈ usesAfter earlier roots ↔
      earlier.count folder < n ∧
        n ≤ earlier.count folder + (roots.map Path.exportFolder).count folder := by
  induction roots generalizing earlier with
  | nil => simp [usesAfter]
  | cons root rest ih =>
    rw [usesAfter, List.mem_cons, ih, List.map_cons]
    by_cases h : Path.exportFolder root = folder
    · subst h
      simp only [Prod.mk.injEq, true_and, List.count_cons_self]
      omega
    · simp only [Prod.mk.injEq, Ne.symm h, false_and, false_or, List.count_cons_of_ne h]

theorem nodup_usesAfter (earlier roots : List String) : (usesAfter earlier roots).Nodup := by
  induction roots generalizing earlier with
  | nil => exact List.nodup_nil
  | cons root rest ih =>
    refine List.nodup_cons.mpr ⟨fun hmem => ?_, ih _⟩
    have hlater := (mem_usesAfter.mp hmem).1
    rw [List.count_cons_self] at hlater
    omega

theorem mem_uses {roots : List String} {folder : String} {n : Nat} :
    (folder, n) ∈ uses roots ↔
      1 ≤ n ∧ n ≤ (roots.map Path.exportFolder).count folder := by
  rw [uses, mem_usesAfter, List.count_nil, Nat.zero_add]
  exact Iff.rfl

/-! ## Roots that come to one folder -/

/-- A root has the name that another root gets with its number. -/
def NumberTaken (roots : List String) : Prop :=
  ∃ root ∈ roots, ∃ folder n, 2 ≤ n ∧ n ≤ (roots.map Path.exportFolder).count folder ∧
    Path.exportFolder root = folder ++ "-" ++ toString n

/-- **The folders of an export are pairwise distinct** unless a root has the name that another one
gets with its number. -/
theorem nodup_exportFolders_iff (roots : List String) :
    (exportFolders roots).Nodup ↔ ¬NumberTaken roots := by
  rw [exportFolders, exportFoldersAfter_eq, List.nodup_map_iff_inj_on (nodup_usesAfter [] roots)]
  constructor
  · rintro hinj ⟨root, hroot, folder, n, htwo, hcount, hname⟩
    have hpos : 0 < (roots.map Path.exportFolder).count (Path.exportFolder root) :=
      List.count_pos_iff.mpr (List.mem_map_of_mem hroot)
    have hfirst : (Path.exportFolder root, 1) ∈ uses roots :=
      mem_uses.mpr ⟨Nat.le_refl 1, hpos⟩
    have hlater : (folder, n) ∈ uses roots := mem_uses.mpr ⟨by omega, hcount⟩
    have hpair : (Path.exportFolder root, 1) = (folder, n) := by
      apply hinj _ hfirst _ hlater
      dsimp only
      rw [numbered_one, numbered_of_ne (by omega), hname]
    have : 1 = n := congrArg Prod.snd hpair
    omega
  · rintro hfree ⟨folder, m⟩ hm ⟨folder', n⟩ hn hsame
    have taken {plain name : String} {k : Nat} (hplain : (plain, 1) ∈ uses roots)
        (hname : (name, k) ∈ uses roots) (hk : k ≠ 1) (heq : plain = name ++ "-" ++ toString k) :
        NumberTaken roots := by
      obtain ⟨root, hroot, rfl⟩ :=
        List.mem_map.mp (List.count_pos_iff.mp (mem_uses.mp hplain).2)
      obtain ⟨hone, hcount⟩ := mem_uses.mp hname
      exact ⟨root, hroot, name, k, by omega, hcount, heq⟩
    rcases numbered_eq_iff.mp hsame with ⟨rfl, rfl⟩ | ⟨rfl, hne, heq⟩ | ⟨rfl, hne, heq⟩
    · rfl
    · exact absurd (taken hm hn hne heq) hfree
    · exact absurd (taken hn hm hne heq) hfree

end LintLedger.Export
