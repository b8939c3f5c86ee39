import LintLedger.Proofs.Path.Spelling

/-!
# Paths made absolute

A path is made absolute in three steps: it is joined to the working directory, dots and ways up are
taken out, and backslashes become slashes.  The last step comes after the second, so what stands
between backslashes is not looked at: a name such as `a\..\b` is one name when ways up are taken out
and three segments afterwards.  The result is always absolute and has no separator but slashes, and
it is in normal form if every name in it is made of names.  Without backslashes that is always so.

A result that is in normal form is left alone when it is made absolute again, and any other is not.

## Main Definitions

* `Path.IsNormal` -- an absolute path of names with one slash in front of each

## Main Statements

* `Path.isNormal_slash_append_iff` -- normal form told from the segments
* `Path.IsNormal.ensureAbsolute_eq` -- a path in normal form is left alone
* `Path.ensureAbsolute_normal_iff` -- when a path made absolute is in normal form
* `Path.not_normal_of_backslashes` -- a path that is not
-/

namespace LintLedger.Path

/-- An absolute path of names that have neither separator, with one slash in front of each. -/
def IsNormal (p : String) : Prop :=
  ∃ names : List String, (∀ s ∈ names, IsName s ∧ '\\' ∉ s.toList) ∧
    p = "/" ++ "/".intercalate names

/-! ## Segments and the text that they join -/

/-- The segments of joined texts are those of the texts. -/
theorem segments_intercalate_flatMap {parts : List String} (hne : parts ≠ []) :
    segments ("/".intercalate parts) = parts.flatMap segments := by
  induction parts with
  | nil => exact absurd rfl hne
  | cons part rest ih =>
    cases rest with
    | nil => simp
    | cons next rest =>
      rw [String.intercalate_cons_cons, FileTree.segments_append_slash, ih (by simp),
        ← List.flatMap_cons]

/-- No character of a path is lost or made up when it is cut. -/
theorem mem_of_mem_segments {p s : String} {c : Char} (hs : s ∈ segments p) (hc : c ∈ s.toList) :
    c ∈ p.toList := by
  have hmem := mem_toList_intercalate hs hc
  rwa [intercalate_segments] at hmem

/-! ## Slashes for backslashes -/

theorem toSlashes_append (s t : String) : toSlashes (s ++ t) = toSlashes s ++ toSlashes t := by
  rw [← String.toList_inj]
  simp [toSlashes]

theorem toSlashes_intercalate (names : List String) :
    toSlashes ("/".intercalate names) = "/".intercalate (names.map toSlashes) := by
  induction names with
  | nil => rfl
  | cons s rest ih =>
    cases rest with
    | nil => simp
    | cons t rest =>
      rw [String.intercalate_cons_cons, toSlashes_append, toSlashes_append, ih, List.map_cons,
        List.map_cons, List.map_cons, String.intercalate_cons_cons]
      rfl

theorem slashed_root_named (names : List String) :
    slashed (.root :: named names) = "/" ++ "/".intercalate (names.map toSlashes) := by
  rw [slashed, assemble_root, toSlashes_append, toSlashes_intercalate]
  rfl

/-! ## Normal forms -/

theorem normalize_root_named (names : List String) :
    normalize (.root :: named names) = .root :: named names := by
  rw [normalize, List.foldl_cons, foldl_climb_named]
  simp [climb]

/-- **Normal form is told from the segments** behind the first slash. -/
theorem isNormal_slash_append_iff {p : String} (hplain : '\\' ∉ p.toList) :
    IsNormal ("/" ++ p) ↔ p = "" ∨ ∀ s ∈ segments p, IsName s := by
  constructor
  · rintro ⟨names, hnames, heq⟩
    obtain rfl : p = "/".intercalate names := by
      rw [← String.toList_inj, String.toList_append, String.toList_append,
        List.append_cancel_left_eq, String.toList_inj] at heq
      exact heq
    by_cases hne : names = []
    · left
      rw [hne]
      rfl
    · right
      rw [segments_intercalate (fun s hs => (hnames s hs).1.notMem) hne]
      exact fun s hs => (hnames s hs).1
  · rintro (rfl | hnames)
    · exact ⟨[], List.forall_mem_nil _, rfl⟩
    · refine ⟨segments p, fun s hs => ⟨hnames s hs, fun hback => ?_⟩, ?_⟩
      · exact hplain (mem_of_mem_segments hs hback)
      · rw [intercalate_segments]

theorem IsNormal.isAbsolute {p : String} (h : IsNormal p) : isAbsolute p = true := by
  obtain ⟨names, -, rfl⟩ := h
  exact isAbsolute_slash_append _

/-- **A path in normal form is left alone** when it is made absolute. -/
theorem IsNormal.ensureAbsolute_eq {p : String} (h : IsNormal p) (cwd? : Option String) :
    ensureAbsolute p cwd? = p := by
  have habsolute := h.isAbsolute
  obtain ⟨names, hnames, rfl⟩ := h
  rw [← assemble_root] at habsolute ⊢
  have hnormal : normalForm (assemble (.root :: named names)) = .root :: named names := by
    rw [normalForm, components_assemble fun s hs => (hnames s hs).1, normalize_root_named]
  rw [ensureAbsolute, if_pos habsolute, hnormal, slashed_root_named, assemble_root]
  congr 2
  refine (List.map_congr_left fun s hs => ?_).trans (List.map_id _)
  exact toSlashes_eq_self (hnames s hs).2

/-! ## Paths without backslashes -/

theorem climb_sublist (done : List Component) (c : Component) :
    (climb done c).reverse.Sublist (done.reverse ++ [c]) := by
  unfold climb
  split
  · exact List.sublist_append_left _ _
  · split
    · rw [List.reverse_cons, List.append_assoc]
      exact List.sublist_append_left _ _
    · exact List.sublist_append_left _ _
    · rw [List.reverse_cons]
  · rw [List.reverse_cons]

/-- To normalize leaves some of the components, in their order. -/
theorem normalize_sublist (parts : List Component) : (normalize parts).Sublist parts := by
  induction parts using List.reverseRecOn with
  | nil => exact List.Sublist.refl _
  | append_singleton parts c ih =>
    rw [normalize, List.foldl_concat]
    exact (climb_sublist _ c).trans (ih.append_right [c])

/-- To normalize makes up no components. -/
theorem mem_of_mem_normalize {parts : List Component} {c : Component} (h : c ∈ normalize parts) :
    c ∈ parts := (normalize_sublist parts).subset h

/-- There are no backslashes in the normal form of a path that has none. -/
theorem notMem_of_mem_normalForm {p s : String} (hp : '\\' ∉ p.toList)
    (h : .name s ∈ normalForm p) : '\\' ∉ s.toList := by
  intro hback
  exact hp (mem_of_mem_segments (name_of_mem_components (mem_of_mem_normalize h)).1 hback)

theorem notMem_join {dir p : String} (hdir : '\\' ∉ dir.toList) (hp : '\\' ∉ p.toList) :
    '\\' ∉ (join dir p).toList := by
  unfold join
  split
  · exact hp
  · split
    · simp [hdir, hp]
    · simp [hdir, hp]

/-! ## Paths made absolute -/

/-- What a path is before it is normalized: joined to the working directory unless it is absolute. -/
def joined (path cwd : String) : String := if isAbsolute path then path else join cwd path

variable {path cwd : String}

theorem isAbsolute_joined (hcwd : isAbsolute cwd = true) (path : String) :
    isAbsolute (joined path cwd) = true := by
  unfold joined
  split
  · assumption
  · exact FileTree.isAbsolute_join hcwd path

theorem ensureAbsolute_eq (hcwd : isAbsolute cwd = true) (path : String) :
    ensureAbsolute path (some cwd) = slashed (normalForm (joined path cwd)) :=
  ensureAbsolute_of_isAbsolute hcwd path

/-- The normal form of an absolute path as a text: in normal form exactly if its names are made of
names. -/
theorem isNormal_slashed_iff {names : List String} (hnames : ∀ s ∈ names, IsName s) :
    IsNormal (slashed (.root :: named names)) ↔
      ∀ s ∈ names, ∀ piece ∈ segments (toSlashes s), IsName piece := by
  have hplain : '\\' ∉ ("/".intercalate (names.map toSlashes)).toList := by
    rw [← toSlashes_intercalate]
    exact notMem_toSlashes _
  rw [slashed_root_named, isNormal_slash_append_iff hplain]
  by_cases hne : names = []
  · subst hne
    simp
  · have hpieces : segments ("/".intercalate (names.map toSlashes)) =
        names.flatMap fun s => segments (toSlashes s) := by
      rw [segments_intercalate_flatMap (by simpa using hne), List.flatMap_map]
    have hsome : "/".intercalate (names.map toSlashes) ≠ "" := by
      obtain ⟨s, hs⟩ := List.exists_mem_of_ne_nil names hne
      have hchars : (toSlashes s).toList ≠ [] := by simp [toSlashes, (hnames s hs).ne_empty]
      obtain ⟨c, hc⟩ := List.exists_mem_of_ne_nil _ hchars
      intro hempty
      have hmem := mem_toList_intercalate (List.mem_map_of_mem hs) hc
      rw [hempty] at hmem
      cases hmem
    rw [hpieces, or_iff_right hsome]
    simp only [List.mem_flatMap, forall_exists_index, and_imp]
    exact ⟨fun h s hs piece hpiece => h piece s hs hpiece, fun h piece s hs => h s hs piece⟩

/-- Without backslashes the normal form of an absolute path is one as a text. -/
theorem isNormal_slashed_of_plain {p : String} (habsolute : isAbsolute p = true)
    (hplain : '\\' ∉ p.toList) : IsNormal (slashed (normalForm p)) := by
  obtain ⟨names, hnormal, hnames⟩ := normalForm_of_isAbsolute habsolute
  rw [hnormal, isNormal_slashed_iff hnames]
  intro s hs piece hpiece
  have hmem : .name s ∈ normalForm p := by
    rw [hnormal]
    exact List.mem_cons_of_mem _ (List.mem_map_of_mem hs)
  rw [toSlashes_eq_self (notMem_of_mem_normalForm hplain hmem),
    FileTree.segments_of_isName (hnames s hs), List.mem_singleton] at hpiece
  exact hpiece ▸ hnames s hs

/-- **When a path made absolute is in normal form.**  It is always absolute and without backslashes.
It is in normal form exactly if the names that are left when ways up are taken out are made of
names, where their backslashes separate; and exactly if it stays as it is when it is made absolute
again, which always makes it normal.  Where there are no backslashes it is in normal form. -/
theorem ensureAbsolute_normal_iff (hcwd : isAbsolute cwd = true) (path : String) :
    let made := ensureAbsolute path (some cwd)
    isAbsolute made = true ∧ '\\' ∉ made.toList ∧
      (∃ names, normalForm (joined path cwd) = .root :: named names ∧ (∀ s ∈ names, IsName s) ∧
        (IsNormal made ↔ ∀ s ∈ names, ∀ piece ∈ segments (toSlashes s), IsName piece)) ∧
      (IsNormal made ↔ ∀ cwd?, ensureAbsolute made cwd? = made) ∧
      (∀ cwd?, IsNormal (ensureAbsolute made cwd?)) ∧
      ('\\' ∉ path.toList → (isAbsolute path = false → '\\' ∉ cwd.toList) → IsNormal made) := by
  intro made
  obtain ⟨names, hnormal, hnames⟩ := normalForm_of_isAbsolute (isAbsolute_joined hcwd path)
  have hmade : made = slashed (.root :: named names) := by
    rw [← hnormal]
    exact ensureAbsolute_eq hcwd path
  have habsolute : isAbsolute made = true := by
    rw [hmade, slashed_root_named]
    exact isAbsolute_slash_append _
  have hplain : '\\' ∉ made.toList := by
    rw [hmade]
    exact notMem_toSlashes _
  -- the first time leaves no backslashes, so the second time comes to a normal form
  have hagain (cwd? : Option String) : IsNormal (ensureAbsolute made cwd?) := by
    rw [ensureAbsolute, if_pos habsolute]
    exact isNormal_slashed_of_plain habsolute hplain
  refine ⟨habsolute, hplain, ⟨names, hnormal, hnames, ?_⟩, ⟨?_, ?_⟩, hagain, ?_⟩
  · rw [hmade]
    exact isNormal_slashed_iff hnames
  · intro h cwd?
    exact h.ensureAbsolute_eq cwd?
  · intro h
    rw [← h none]
    exact hagain none
  · intro hpath hdir
    have hjoined : '\\' ∉ (joined path cwd).toList := by
      unfold joined
      split
      · exact hpath
      · rename_i hrelative
        exact notMem_join (hdir (by simpa using hrelative)) hpath
    rw [hmade, ← hnormal]
    exact isNormal_slashed_of_plain (isAbsolute_joined hcwd path) hjoined

/-- A path with a backslash between two names is in normal form, and stays as it is. -/
theorem ensureAbsolute_normal_iff_of_backslash :
    isAbsolute "/srv/api" = true ∧
      ensureAbsolute "..//web\\src/./a.py" (some "/srv/api") = "/srv/web/src/a.py" ∧
      ∀ cwd?, ensureAbsolute "/srv/web/src/a.py" cwd? = "/srv/web/src/a.py" := by
  have hcwd : isAbsolute "/srv/api" = true := by decide
  have hmade : ensureAbsolute "..//web\\src/./a.py" (some "/srv/api") = "/srv/web/src/a.py" := by
    decide
  have hparts : normalForm (joined "..//web\\src/./a.py" "/srv/api") =
      .root :: named ["srv", "web\\src", "a.py"] := by
    decide
  obtain ⟨-, -, ⟨names, hnormal, -, hpieces⟩, hfixed, -⟩ :=
    ensureAbsolute_normal_iff hcwd "..//web\\src/./a.py"
  obtain rfl : ["srv", "web\\src", "a.py"] = names :=
    named_injective (List.cons.inj (hparts.symm.trans hnormal)).2
  rw [hmade] at hpieces hfixed
  exact ⟨hcwd, hmade, hfixed.mp (hpieces.mpr (by decide))⟩

/-- Ways up and empty segments between backslashes stay, and a second time they are taken out. -/
theorem not_normal_of_backslashes :
    ensureAbsolute "src\\..\\a.py" (some "/srv/api") = "/srv/api/src/../a.py" ∧
      ¬ IsNormal "/srv/api/src/../a.py" ∧
      ensureAbsolute "/srv/api/src/../a.py" (some "/srv/api") = "/srv/api/a.py" ∧
      ensureAbsolute "src\\\\a.py" (some "/srv/api") = "/srv/api/src//a.py" ∧
      ¬ IsNormal "/srv/api/src//a.py" := by
  have hagain : ensureAbsolute "/srv/api/src/../a.py" (some "/srv/api") = "/srv/api/a.py" := by
    decide
  refine ⟨by decide, fun h => ?_, hagain, by decide, fun h => ?_⟩
  · rw [h.ensureAbsolute_eq] at hagain
    exact absurd hagain (by decide)
  · exact absurd (h.ensureAbsolute_eq none) (by decide)

end LintLedger.Path
