import LintLedger.Proofs.Path.Absolute

/-!
# Relative forms of paths

A path is made relative by taking the working directory off its normal form, where that begins with
the working directory, and is otherwise replaced by its normal form.  The form of a relative path
may begin with ways up that lead out of the working directory, and out of the root; when it is made
absolute these are taken behind the normal form of the working directory, where the whole path would
have been climbed.  That it makes no difference which of the two is done is a fact about climbing:
a list of components and its normal form lead from everywhere to the same place.

## Main Definitions

* `Path.IsInner` -- the components that segments can be: names and ways up

## Main Statements

* `Path.foldl_climb_normalize` -- components lead where their normal form leads
* `Path.normalForm_join` -- the normal form of a path below a directory
* `Path.components_assemble_of_inner` -- such components are told from their text
* `Path.ensureAbsolute_relativize` -- the relative form of a path means what the path means
* `Path.isAbsolute_relativize_iff` -- which relative forms are absolute
-/

namespace LintLedger.Path

/-! ## Normal forms behind each other -/

/-- Climbing along one more component, from any place. -/
theorem foldl_climb_climb (start done : List Component) (c : Component) :
    (climb done c).reverse.foldl climb start = climb (done.reverse.foldl climb start) c := by
  cases c with
  | root => simp [climb]
  | here => rfl
  | name s => simp [climb]
  | up =>
    cases done with
    | nil => rfl
    | cons d rest => cases d <;> simp [climb]

/-- **Components lead where their normal form leads**, from any place. -/
theorem foldl_climb_normalize (parts start : List Component) :
    (normalize parts).foldl climb start = parts.foldl climb start := by
  -- the last component of the list is the one that is climbed last on both sides
  induction parts using List.reverseRecOn with
  | nil => rfl
  | append_singleton parts c ih =>
    rw [List.foldl_concat, ← ih, normalize, List.foldl_concat, foldl_climb_climb, normalize]

theorem normalize_append (front back : List Component) :
    normalize (front ++ back) = (back.foldl climb (front.foldl climb [])).reverse := by
  rw [normalize, List.foldl_append]

/-- What stands behind some components may be normalized. -/
theorem normalize_append_normalize (front back : List Component) :
    normalize (front ++ normalize back) = normalize (front ++ back) := by
  rw [normalize_append, normalize_append, foldl_climb_normalize]

/-- What stands in front of some components may be normalized. -/
theorem normalize_normalize_append (front back : List Component) :
    normalize (normalize front ++ back) = normalize (front ++ back) := by
  rw [normalize_append, normalize_append, foldl_climb_normalize]

theorem normalize_normalize (parts : List Component) :
    normalize (normalize parts) = normalize parts := by
  rw [normalize, foldl_climb_normalize, normalize]

/-! ## Relative paths -/

/-- The components that segments can be: ways up and names. -/
def IsInner (c : Component) : Prop := c = .up ∨ ∃ s, c = .name s ∧ IsName s

theorem isInner_of_mem_segments {p t : String} {c : Component} (ht : t ∈ segments p)
    (h : innerComponent? t = some c) : IsInner c := by
  cases c with
  | up => exact .inl rfl
  | name s => exact .inr ⟨s, rfl, (name_of_mem_segments ht h).2⟩
  | _ =>
    unfold innerComponent? at h
    split at h <;> [cases h; (split at h <;> cases h)]

theorem IsInner.isSegment {c : Component} (h : IsInner c) : IsSegment c.text := by
  obtain rfl | ⟨s, rfl, hs⟩ := h
  · exact ⟨by decide, by decide⟩
  · exact hs.isSegment

theorem IsInner.innerComponent? {c : Component} (h : IsInner c) :
    innerComponent? c.text = some c := by
  obtain rfl | ⟨s, rfl, hs⟩ := h
  · rfl
  · exact innerComponent?_eq_name hs

/-- The normal form of a relative path is that of its segments: a dot in front of them vanishes as
any other does. -/
theorem normalForm_of_relative {p : String} (h : isAbsolute p = false) :
    normalForm p = normalize ((FileTree.names p).filterMap innerComponent?) := by
  have hnames : (FileTree.names p).filterMap innerComponent? =
      (segments p).filterMap innerComponent? := by
    rw [FileTree.names, List.filterMap_filter]
    refine List.filterMap_congr fun s _ => ?_
    by_cases hs : s = ""
    · simp [hs, Path.innerComponent?]
    · simp [hs]
  rw [normalForm, components_eq, hnames, normalize_append, lead, if_neg (by simp [h])]
  -- a dot leaves everything as it is
  split <;> rfl

/-- The normal form of a relative path is ways up and names. -/
theorem isInner_of_mem_normalForm {p : String} (h : isAbsolute p = false) :
    ∀ c ∈ normalForm p, IsInner c := by
  intro c hc
  rw [normalForm_of_relative h] at hc
  obtain ⟨t, ht, hinner⟩ := List.mem_filterMap.mp (mem_of_mem_normalize hc)
  exact isInner_of_mem_segments (List.mem_filter.mp ht).1 hinner

/-- **The normal form of a path below a directory**: the path is climbed from where the directory
leads. -/
theorem normalForm_join {dir p : String} (hdir : isAbsolute dir = true)
    (hp : isAbsolute p = false) :
    normalForm (join dir p) = normalize (normalForm dir ++ normalForm p) := by
  rw [normalForm, components_of_isAbsolute (FileTree.isAbsolute_join hdir p), FileTree.names_join,
    if_neg (by simp [hp]), List.filterMap_append, ← List.cons_append,
    ← components_of_isAbsolute hdir, normalForm_of_relative hp, normalize_append_normalize,
    normalForm, normalize_normalize_append]

/-! ## Normal forms as texts -/

theorem assemble_of_inner {parts : List Component} (h : ∀ c ∈ parts, IsInner c) :
    assemble parts = "/".intercalate (parts.map Component.text) := by
  unfold assemble
  split
  · obtain hup | ⟨s, hname, -⟩ := h .root List.mem_cons_self
    · cases hup
    · cases hname
  · rfl

theorem isAbsolute_assemble_of_inner {parts : List Component} (h : ∀ c ∈ parts, IsInner c) :
    isAbsolute (assemble parts) = false := by
  rw [assemble_of_inner h]
  exact isAbsolute_intercalate (List.forall_mem_map.mpr fun c hc => (h c hc).isSegment)

/-- **Ways up and names are told from the text that joins them.** -/
theorem components_assemble_of_inner {parts : List Component} (h : ∀ c ∈ parts, IsInner c) :
    components (assemble parts) = parts := by
  have hself : (parts.map Component.text).filterMap Path.innerComponent? = parts := by
    rw [List.filterMap_map]
    refine (List.filterMap_congr fun c hc => ?_).trans List.filterMap_some
    exact (h c hc).innerComponent?
  by_cases hne : parts = []
  · subst hne
    rfl
  · rw [components, if_neg (by simp [isAbsolute_assemble_of_inner h]), assemble_of_inner h,
      segments_intercalate (List.forall_mem_map.mpr fun c hc => (h c hc).isSegment.notMem)
        (by simpa using hne)]
    split
    · rename_i rest hfirst
      -- a dot is not the text of such a component
      obtain ⟨c, hc, hdot⟩ := List.mem_map.mp (hfirst ▸ List.mem_cons_self : "." ∈ _)
      have hnone := (h c hc).innerComponent?
      rw [hdot] at hnone
      cases hnone
    · exact hself

variable {path cwd : String}

/-- Without backslashes the text of a normal form is not changed by turning them into slashes. -/
theorem slashed_of_relative (hpath : '\\' ∉ path.toList) (h : isAbsolute path = false) :
    slashed (normalForm path) = assemble (normalForm path) := by
  have hinner := isInner_of_mem_normalForm h
  rw [slashed, assemble_of_inner hinner]
  refine toSlashes_eq_self fun hback => ?_
  obtain heq | ⟨t, ht, hmem⟩ := mem_of_mem_toList_intercalate hback
  · cases heq
  · obtain ⟨c, hc, rfl⟩ := List.mem_map.mp ht
    obtain rfl | ⟨s, rfl, -⟩ := hinner c hc
    · exact absurd hmem (by decide)
    · exact notMem_of_mem_normalForm hpath hc hmem

/-! ## Relative forms -/

/-- The normal form of a path made absolute. -/
theorem normalForm_joined (hcwd : isAbsolute cwd = true) (path : String) :
    normalForm (joined path cwd) =
      if isAbsolute path then normalForm path
      else normalize (normalForm cwd ++ normalForm path) := by
  unfold joined
  split
  · rfl
  · rename_i hrelative
    exact normalForm_join hcwd (by simpa using hrelative)

/-- A path that is absolute is compared with the working directory. -/
theorem relativize_eq_match (hcwd : isAbsolute cwd = true) (h : isAbsolute path = true) :
    relativize path (some cwd) =
      match strip? (normalForm cwd) (normalForm path) with
      | some [] => "."
      | some rest => slashed rest
      | none => slashed (normalForm path) := by
  have hne : path ≠ "" := by
    rintro rfl
    cases h
  have hgiven : given? (some cwd) = some cwd := by
    have hdir : cwd ≠ "" := by
      rintro rfl
      cases hcwd
    simp [given?, hdir]
  obtain ⟨names, hnormal, -⟩ := normalForm_of_isAbsolute h
  rw [relativize, if_neg hne, hgiven, hnormal]
  simp only [Option.bind_some, List.head?_cons, if_true, List.isEmpty_cons]
  rfl

/-- The relative form of an absolute path: what is left of it below the working directory, which is
a dot if it is the directory itself, or else its normal form. -/
theorem relativize_of_isAbsolute (hcwd : isAbsolute cwd = true) (hpath : '\\' ∉ path.toList)
    (h : isAbsolute path = true) :
    (strip? (normalForm cwd) (normalForm path) = none ∧
      relativize path (some cwd) = assemble (normalForm path)) ∨
    ∃ under, strip? (normalForm cwd) (normalForm path) = some (named under) ∧
      (∀ s ∈ under, IsName s) ∧
      relativize path (some cwd) = if under = [] then "." else "/".intercalate under := by
  obtain ⟨all, hall, hnames⟩ := normalForm_of_isAbsolute h
  obtain ⟨above, habove, -⟩ := normalForm_of_isAbsolute hcwd
  have hplain : ∀ s ∈ all, '\\' ∉ s.toList := by
    intro s hs
    refine notMem_of_mem_normalForm hpath ?_
    rw [hall]
    exact List.mem_cons_of_mem _ (List.mem_map_of_mem hs)
  rw [relativize_eq_match hcwd h]
  cases hstrip : strip? (normalForm cwd) (normalForm path) with
  | none =>
    refine .inl ⟨rfl, ?_⟩
    dsimp only
    rw [hall, slashed_root_named, assemble_root,
      List.map_congr_left fun s hs => toSlashes_eq_self (hplain s hs), List.map_id']
  | some rest =>
    -- the path begins with the names of the directory, so what is left of it is names
    have hsplit := strip?_eq_some_iff.mp hstrip
    rw [habove, hall, List.cons_append, List.cons.injEq] at hsplit
    obtain ⟨front, under, rfl, -, rfl⟩ := List.map_eq_append_iff.mp hsplit.2
    refine .inr ⟨under, rfl, fun s hs => hnames s (List.mem_append_right _ hs), ?_⟩
    cases under with
    | nil => rfl
    | cons s under =>
      rw [if_neg (List.cons_ne_nil _ _),
        ← slashed_names fun t ht => hplain t (List.mem_append_right _ ht)]
      rfl

/-- The relative form of a relative path is its normal form, unless that is empty. -/
theorem relativize_of_relative (cwd? : Option String) (h : isAbsolute path = false) :
    relativize path cwd? =
      if (normalForm path).isEmpty then path else slashed (normalForm path) := by
  unfold relativize
  by_cases hne : path = ""
  · subst hne
    rfl
  · have hhead : (normalForm path).head? ≠ some .root := by
      intro hroot
      obtain hup | ⟨s, hname, -⟩ := isInner_of_mem_normalForm h .root (List.mem_of_mem_head? hroot)
      · cases hup
      · cases hname
    rw [if_neg hne]
    simp [hhead]

/-- An absolute path and its relative form have one normal form when they are made absolute. -/
theorem normalForm_joined_relativize (hcwd : isAbsolute cwd = true)
    (hpath : '\\' ∉ path.toList) (h : isAbsolute path = true) :
    normalForm (joined (relativize path (some cwd)) cwd) = normalForm path := by
  obtain ⟨all, hall, hnames⟩ := normalForm_of_isAbsolute h
  obtain ⟨-, hform⟩ | ⟨under, hstrip, hunder, hform⟩ := relativize_of_isAbsolute hcwd hpath h
  · -- outside of the working directory the form is the path in normal form
    rw [hform, hall, joined, if_pos (isAbsolute_assemble all), normalForm,
      components_assemble hnames, normalize_root_named]
  · -- below it the names that are left are climbed from the directory
    have hrelative : isAbsolute (relativize path (some cwd)) = false ∧
        normalForm (relativize path (some cwd)) = normalize (named under) := by
      rw [hform]
      split
      · rename_i hnil
        subst hnil
        exact ⟨by decide, by decide⟩
      · exact ⟨isAbsolute_intercalate fun s hs => (hunder s hs).isSegment, by
          rw [normalForm, components_join hunder]⟩
    rw [normalForm_joined hcwd, hrelative.1, if_neg Bool.false_ne_true, hrelative.2,
      normalize_append_normalize, ← strip?_eq_some_iff.mp hstrip, normalForm, normalize_normalize]

/-- **The relative form of a path means what the path means.**  Whether the path is absolute, below
the working directory or not, or relative, with ways up that lead out of the working directory or
out of the root, it is made absolute into the same path as its relative form. -/
theorem ensureAbsolute_relativize (hcwd : isAbsolute cwd = true) (hpath : '\\' ∉ path.toList) :
    ensureAbsolute (relativize path (some cwd)) (some cwd) = ensureAbsolute path (some cwd) := by
  rw [ensureAbsolute_eq hcwd, ensureAbsolute_eq hcwd]
  refine congrArg slashed ?_
  cases h : isAbsolute path with
  | true =>
    rw [normalForm_joined_relativize hcwd hpath h, joined, if_pos h]
  | false =>
    have hinner := isInner_of_mem_normalForm h
    rw [relativize_of_relative _ h]
    split
    · rfl
    · have hform : normalForm (assemble (normalForm path)) = normalForm path := by
        rw [normalForm, components_assemble_of_inner hinner, normalForm, normalize_normalize]
      rw [slashed_of_relative hpath h, normalForm_joined hcwd, normalForm_joined hcwd, h,
        isAbsolute_assemble_of_inner hinner, hform]

/-- **Which relative forms are absolute**: those of absolute paths that are not below the working
directory. -/
theorem isAbsolute_relativize_iff (hcwd : isAbsolute cwd = true) (hpath : '\\' ∉ path.toList) :
    isAbsolute (relativize path (some cwd)) = true ↔
      isAbsolute path = true ∧ strip? (normalForm cwd) (normalForm path) = none := by
  cases h : isAbsolute path with
  | true =>
    obtain ⟨hnone, hform⟩ | ⟨under, hstrip, hunder, hform⟩ := relativize_of_isAbsolute hcwd hpath h
    · obtain ⟨all, hall, -⟩ := normalForm_of_isAbsolute h
      rw [hform, hall, isAbsolute_assemble, ← hall, hnone]
      simp
    · have hrelative : isAbsolute (relativize path (some cwd)) = false := by
        rw [hform]
        split
        · decide
        · exact isAbsolute_intercalate fun s hs => (hunder s hs).isSegment
      simp [hrelative, hstrip]
  | false =>
    have hrelative : isAbsolute (relativize path (some cwd)) = false := by
      rw [relativize_of_relative _ h]
      split
      · exact h
      · rw [slashed_of_relative hpath h]
        exact isAbsolute_assemble_of_inner (isInner_of_mem_normalForm h)
    simp [hrelative]

/-- A relative path that climbs out of the root, and an absolute one below the directory. -/
theorem ensureAbsolute_relativize_of_climbing :
    isAbsolute "/srv/api/" = true ∧ '\\' ∉ "src/../../../../x//./b.py".toList ∧
      '\\' ∉ "/srv/./api/src/../a.py".toList ∧
      relativize "src/../../../../x//./b.py" (some "/srv/api/") = "../../../x/b.py" ∧
      ensureAbsolute "../../../x/b.py" (some "/srv/api/") =
        ensureAbsolute "src/../../../../x//./b.py" (some "/srv/api/") ∧
      relativize "/srv/./api/src/../a.py" (some "/srv/api/") = "a.py" ∧
      ensureAbsolute "a.py" (some "/srv/api/") =
        ensureAbsolute "/srv/./api/src/../a.py" (some "/srv/api/") := by
  have hcwd : isAbsolute "/srv/api/" = true := by decide
  have hup : '\\' ∉ "src/../../../../x//./b.py".toList := by decide
  have hin : '\\' ∉ "/srv/./api/src/../a.py".toList := by decide
  have hupForm : relativize "src/../../../../x//./b.py" (some "/srv/api/") = "../../../x/b.py" := by
    decide
  have hinForm : relativize "/srv/./api/src/../a.py" (some "/srv/api/") = "a.py" := by
    decide
  refine ⟨hcwd, hup, hin, hupForm, ?_, hinForm, ?_⟩
  · rw [← hupForm]
    exact ensureAbsolute_relativize hcwd hup
  · rw [← hinForm]
    exact ensureAbsolute_relativize hcwd hin

end LintLedger.Path
