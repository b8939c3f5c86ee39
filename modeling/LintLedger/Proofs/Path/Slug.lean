import LintLedger.Path.Folder
import LintLedger.Proofs.FileTree.Below
import LintLedger.Proofs.Path.Stored

/-!
# Slugs

The folder of a project is named by a slug, which is made of the last name of the project.  Whatever
the project is called, its slug is a name of letters, digits and a few other characters; and a
last name that is such a name already is its own slug.  So projects with different last names have
different folders unless one of these names had to be changed.

## Main Definitions

* `Path.IsSlug` -- a name that needs no change

## Main Statements

* `Path.isSlug_projectSlug` -- what a project gets is a slug
* `Path.projectSlug_join` -- a last name that is a slug is what its project gets
-/

namespace LintLedger.Path

/-- A text of the characters of slugs, without a hyphen or a dot at its ends. -/
structure IsSlug (s : String) : Prop where
  ne_empty : s ≠ ""
  chars : ∀ c ∈ s.toList, isSlugChar c = true
  head : ∀ c, s.toList.head? = some c → isSlugEdge c = false
  last : ∀ c, s.toList.getLast? = some c → isSlugEdge c = false

/-- The characters of slugs are letters and digits of ASCII, and three more. -/
theorem isSlugChar_iff {c : Char} : isSlugChar c = true ↔
    'a' ≤ c ∧ c ≤ 'z' ∨ 'A' ≤ c ∧ c ≤ 'Z' ∨ '0' ≤ c ∧ c ≤ '9' ∨ c ∈ ['-', '_', '.'] := by
  have hlower : c.isLower = true ↔ 'a' ≤ c ∧ c ≤ 'z' := by
    show (decide ('a' ≤ c) && decide (c ≤ 'z')) = true ↔ _
    rw [Bool.and_eq_true, decide_eq_true_iff, decide_eq_true_iff]
  have hupper : c.isUpper = true ↔ 'A' ≤ c ∧ c ≤ 'Z' := decide_eq_true_iff
  have hdigit : c.isDigit = true ↔ '0' ≤ c ∧ c ≤ '9' := Char.isDigit_iff_toNat
  show ((((c.isUpper || c.isLower) || c.isDigit) || c == '-') || c == '_' || c == '.') = true ↔ _
  simp only [Bool.or_eq_true, hlower, hupper, hdigit, beq_iff_eq, List.mem_cons, List.not_mem_nil,
    or_false, or_assoc]
  exact or_left_comm

theorem isSlugEdge_eq_false_iff {c : Char} : isSlugEdge c = false ↔ c ≠ '-' ∧ c ≠ '.' := by
  simp [isSlugEdge]

/-- A slug is a name: it has no slash, and dots are not all of it. -/
theorem IsSlug.isName {s : String} (h : IsSlug s) : IsName s := by
  refine ⟨h.ne_empty, ?_, ?_, fun hslash => ?_⟩
  · rintro rfl
    exact absurd (h.head '.' rfl) (by decide)
  · rintro rfl
    exact absurd (h.head '.' rfl) (by decide)
  · exact absurd (h.chars '/' hslash) (by decide)

/-! ## What a project gets -/

theorem head?_dropWhile {p : Char → Bool} {cs : List Char} {c : Char}
    (h : (cs.dropWhile p).head? = some c) : p c = false := by
  have hnot := List.head?_dropWhile_not p cs
  rw [h] at hnot
  simpa using hnot

/-- Without some of the elements at its ends a list begins and ends with others. -/
theorem edges_of_cut {p : Char → Bool} {cs : List Char} {c : Char} :
    ((Text.dropTail p (cs.dropWhile p)).head? = some c → p c = false) ∧
      ((Text.dropTail p (cs.dropWhile p)).getLast? = some c → p c = false) := by
  constructor
  · intro h
    have hprefix : Text.dropTail p (cs.dropWhile p) <+: cs.dropWhile p := by
      rw [Text.dropTail, ← List.reverse_suffix, List.reverse_reverse]
      exact List.dropWhile_suffix p
    obtain ⟨rest, hrest⟩ := hprefix
    have hne : Text.dropTail p (cs.dropWhile p) ≠ [] := by
      intro hnil
      rw [hnil] at h
      cases h
    have hhead : (cs.dropWhile p).head? = some c := by
      rw [← hrest, List.head?_append_of_ne_nil _ hne]
      exact h
    exact head?_dropWhile hhead
  · intro h
    rw [Text.dropTail, List.getLast?_reverse] at h
    exact head?_dropWhile h

/-- **What a project gets is a slug**, whatever it is called. -/
theorem isSlug_projectSlug (project : String) : IsSlug (projectSlug project) := by
  unfold projectSlug
  dsimp only
  split
  · refine ⟨by decide, List.all_eq_true.mp (by decide), ?_, ?_⟩
    · rintro c ⟨⟩
      decide
    · rintro c ⟨⟩
      decide
  · rename_i hempty
    refine ⟨?_, ?_, ?_, ?_⟩
    · intro hnil
      rw [String.ofList_eq_empty_iff] at hnil
      exact hempty (List.isEmpty_iff.mpr hnil)
    · intro c hc
      rw [String.toList_ofList, Text.dropTail, List.mem_reverse] at hc
      have hmem := List.mem_reverse.mp ((List.dropWhile_suffix _).subset hc)
      obtain ⟨d, -, rfl⟩ := List.mem_map.mp ((List.dropWhile_suffix _).subset hmem)
      split
      · assumption
      · rfl
    · intro c hc
      rw [String.toList_ofList] at hc
      exact edges_of_cut.1 hc
    · intro c hc
      rw [String.toList_ofList] at hc
      exact edges_of_cut.2 hc

/-! ## Last names -/

/-- A name behind the segments of a path, or in place of an empty one at their end, is one more
component. -/
theorem components_concat_name {p q name : String} {front : List String} (h : IsName name)
    (habsolute : isAbsolute q = isAbsolute p) (hq : segments q = front ++ [name])
    (hp : segments p = front ∨ segments p = front ++ [""]) :
    components q = components p ++ [.name name] := by
  have hinner : (segments p).filterMap innerComponent? = front.filterMap innerComponent? := by
    rcases hp with hp | hp <;> rw [hp]
    rw [List.filterMap_append, List.filterMap_cons_none rfl, List.filterMap_nil, List.append_nil]
  have hlead : lead q = lead p := by
    have hdot : ¬name = "." := h.ne_here
    unfold lead
    rw [habsolute, hq]
    cases front with
    | nil => rcases hp with hp | hp <;> simp [hp, hdot]
    | cons first front => rcases hp with hp | hp <;> simp [hp]
  rw [components_eq, components_eq, hlead, hinner, hq, List.filterMap_append,
    List.filterMap_cons_some (innerComponent?_eq_name h), List.filterMap_nil, List.append_assoc]

/-- **The components of a name below a directory** are those of the directory and the name. -/
theorem components_join_name (dir : String) {name : String} (h : IsName name) :
    components (join dir name) = components dir ++ [.name name] := by
  have hname := FileTree.segments_of_isName h
  have hrelative := FileTree.isAbsolute_of_isName h
  have hjoin := FileTree.join_of_relative hrelative dir
  by_cases hdir : dir = ""
  · subst hdir
    rw [hjoin, show FileTree.gap "" = "" by decide, String.append_empty, String.empty_append]
    exact components_concat_name h hrelative (hname.trans (List.nil_append _).symm) (.inr rfl)
  have habsolute : isAbsolute (join dir name) = isAbsolute dir := by
    rw [hjoin, String.append_assoc, FileTree.isAbsolute_append hdir]
  by_cases hend : (dir.isEmpty || dir.toList.getLast? == some '/') = true
  · -- behind a slash the name takes the place of an empty segment
    have hslash : dir.toList.getLast? = some '/' := by simpa [hdir] using hend
    obtain ⟨cs, hchars⟩ := List.getLast?_eq_some_iff.mp hslash
    obtain rfl : dir = String.ofList cs ++ "/" := by
      rw [← String.toList_inj, hchars, String.toList_append, String.toList_ofList]
      rfl
    have hempty := FileTree.segments_append_slash (String.ofList cs) ""
    rw [String.append_empty] at hempty
    refine components_concat_name h habsolute ?_ (.inr hempty)
    rw [hjoin, FileTree.gap, if_pos hend, String.append_empty, FileTree.segments_append_slash,
      hname]
  · refine components_concat_name h habsolute ?_ (.inl rfl)
    rw [hjoin, FileTree.gap, if_neg hend, FileTree.segments_append_slash, hname]

/-- A slug is not changed. -/
theorem projectSlug_eq_of_anchorName {project : String} (h : IsSlug (anchorName project)) :
    projectSlug project = anchorName project := by
  have hnamed : ((anchorName project).toList.map fun c => if isSlugChar c then c else '-') =
      (anchorName project).toList := by
    rw [List.map_congr_left fun c hc => if_pos (h.chars c hc), List.map_id']
  have hkept {cs : List Char} (hedge : ∀ c, cs.head? = some c → isSlugEdge c = false) :
      cs.dropWhile isSlugEdge = cs := by
    cases cs with
    | nil => rfl
    | cons c cs => exact List.dropWhile_cons_of_neg (by simp [hedge c rfl])
  have hcut : Text.dropTail isSlugEdge ((anchorName project).toList.dropWhile isSlugEdge) =
      (anchorName project).toList := by
    rw [hkept h.head, Text.dropTail, hkept, List.reverse_reverse]
    rw [List.head?_reverse]
    exact h.last
  have hne : (anchorName project).toList.isEmpty = false := by
    rw [List.isEmpty_eq_false_iff]
    exact fun hnil => h.ne_empty (String.toList_inj.mp hnil)
  unfold projectSlug
  dsimp only
  rw [hnamed, hcut, hne, if_neg Bool.false_ne_true, String.ofList_toList]

/-- **A last name that is a slug is what its project gets.** -/
theorem projectSlug_join (dir : String) {name : String} (h : IsSlug name) :
    projectSlug (join dir name) = name := by
  -- there is no separator at the end of a path that ends with a slug
  have htrim : trimSeparators (join dir name) = join dir name := by
    have hne : name.toList ≠ [] := fun hnil => h.ne_empty (String.toList_inj.mp hnil)
    obtain ⟨cs, c, hchars⟩ := (List.eq_nil_or_concat' name.toList).resolve_left hne
    obtain ⟨front, hfront⟩ : ∃ front, (join dir name).toList = front ++ [c] := by
      rw [FileTree.join_of_relative (FileTree.isAbsolute_of_isName h.isName), String.toList_append,
        hchars, ← List.append_assoc]
      exact ⟨_, rfl⟩
    have hchar : (c == '/' || c == '\\') = false := by
      have hslug := h.chars c (by rw [hchars]; simp)
      rw [Bool.or_eq_false_iff, beq_eq_false_iff_ne, beq_eq_false_iff_ne]
      constructor <;> rintro rfl <;> exact absurd hslug (by decide)
    rw [trimSeparators, Text.trimEndOf, hfront, dropTail_concat, hchar,
      if_neg Bool.false_ne_true, ← hfront, String.ofList_toList]
  have hanchor : anchorName (join dir name) = name := by
    rw [anchorName, htrim, normalForm, components_join_name dir h.isName, normalize_concat_name,
      labelOf_concat_name]
  rw [projectSlug_eq_of_anchorName (hanchor.symm ▸ h), hanchor]

end LintLedger.Path
