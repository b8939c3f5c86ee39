import LintLedger.Path.Basic
import LintLedger.Proofs.Data.Joined

/-!
# Paths and their components

A normal form of an absolute path is the root and names, and such components can be told from the
text that is assembled from them.

## Main Definitions

* `Path.IsSegment` -- the segments that are not empty
* `Path.IsName` -- the segments that are components of their own

## Main Statements

* `Path.components_assemble`, `Path.components_join` -- components told from their text
* `Path.normalForm_of_isAbsolute` -- the normal form of an absolute path
* `Path.normalForm_trimSeparators` -- separators at the end of a path do not count
-/

namespace LintLedger

namespace Path

/-! ## Names -/

/-- A segment that is a component of its own. -/
structure IsName (s : String) : Prop where
  ne_empty : s ≠ ""
  ne_here : s ≠ "."
  ne_up : s ≠ ".."
  notMem : '/' ∉ s.toList

instance decidableIsName (s : String) : Decidable (IsName s) :=
  decidable_of_iff (s ≠ "" ∧ s ≠ "." ∧ s ≠ ".." ∧ '/' ∉ s.toList)
    ⟨fun h => ⟨h.1, h.2.1, h.2.2.1, h.2.2.2⟩, fun h => ⟨h.ne_empty, h.ne_here, h.ne_up, h.notMem⟩⟩

/-- A segment that is not empty. -/
structure IsSegment (s : String) : Prop where
  ne_empty : s ≠ ""
  notMem : '/' ∉ s.toList

theorem IsName.isSegment {s : String} (h : IsName s) : IsSegment s := ⟨h.ne_empty, h.notMem⟩

/-- The components that are names, given by their texts. -/
def named (names : List String) : List Component := names.map .name

theorem named_injective : Function.Injective named := fun _ _ h =>
  List.map_injective_iff.mpr (fun _ _ h => Component.name.inj h) h

@[simp] theorem named_append (names more : List String) :
    named (names ++ more) = named names ++ named more := List.map_append

@[simp] theorem map_text_named (names : List String) :
    (named names).map Component.text = names := by
  rw [named, List.map_map]
  exact List.map_id names

theorem innerComponent?_eq_name {s : String} (h : IsName s) :
    innerComponent? s = some (.name s) := by
  rw [innerComponent?, if_neg (by simp [h.ne_empty, h.ne_here]), if_neg h.ne_up]

theorem filterMap_innerComponent? {names : List String} (h : ∀ s ∈ names, IsName s) :
    names.filterMap innerComponent? = named names := by
  induction names with
  | nil => rfl
  | cons s rest ih =>
    rw [List.filterMap_cons, innerComponent?_eq_name (h s List.mem_cons_self),
      ih fun t ht => h t (List.mem_cons_of_mem _ ht)]
    rfl

/-- What the components of a path begin with: the root, or a dot that stands in front. -/
def lead (p : String) : List Component :=
  if isAbsolute p then [.root] else if (segments p).head? = some "." then [.here] else []

/-- Behind what they begin with the components of a path are those of its segments. -/
theorem components_eq (p : String) :
    components p = lead p ++ (segments p).filterMap innerComponent? := by
  unfold components lead
  split
  · rfl
  · split
    · rename_i rest hsegments
      rw [hsegments]
      rfl
    · rename_i hfirst
      rw [if_neg, List.nil_append]
      rintro hhead
      obtain ⟨rest, hrest⟩ := List.head?_eq_some_iff.mp hhead
      exact hfirst rest hrest

/-- No segment of a path has a slash in it. -/
theorem notMem_of_mem_segments {p s : String} (h : s ∈ segments p) : '/' ∉ s.toList := by
  intro hslash
  obtain ⟨piece, hpiece, rfl⟩ := List.mem_map.mp h
  have hclean := Text.forall_of_mem_splitAll hpiece '/' (by simpa using hslash)
  simp at hclean

/-- A segment that becomes a name is the name, and fit for one. -/
theorem name_of_mem_segments {p s t : String} (hmem : t ∈ segments p)
    (h : innerComponent? t = some (.name s)) : s ∈ segments p ∧ IsName s := by
  unfold innerComponent? at h
  split at h
  · cases h
  · rename_i hplain
    split at h
    · cases h
    · rename_i hup
      cases h
      rw [not_or] at hplain
      exact ⟨hmem, hplain.1, hplain.2, hup, notMem_of_mem_segments hmem⟩

/-- The names among the components of a path are segments of it, and fit for names. -/
theorem name_of_mem_components {p s : String} (h : .name s ∈ components p) :
    s ∈ segments p ∧ IsName s := by
  have hinner {names : List String} (hsub : ∀ t ∈ names, t ∈ segments p)
      (hmem : .name s ∈ names.filterMap innerComponent?) : s ∈ segments p ∧ IsName s := by
    obtain ⟨t, ht, hname⟩ := List.mem_filterMap.mp hmem
    exact name_of_mem_segments (hsub t ht) hname
  unfold components at h
  split at h
  · exact hinner (fun _ ht => ht) ((List.mem_cons.mp h).resolve_left nofun)
  · split at h
    · rename_i rest hsegments
      refine hinner (fun t ht => ?_) ((List.mem_cons.mp h).resolve_left nofun)
      rw [hsegments]
      exact List.mem_cons_of_mem _ ht
    · exact hinner (fun _ ht => ht) h

/-! ## Assembling -/

/-- The segments of a path are the pieces between its slashes. -/
theorem map_toList_segments (p : String) :
    (segments p).map String.toList = p.toList.splitOn '/' := by
  rw [segments, Text.splitOnChar, List.map_map, Text.splitAll_eq_splitOnP,
    ← List.splitOn_eq_splitOnP]
  exact (List.map_congr_left fun cs _ => String.toList_ofList).trans (List.map_id _)

/-- A path is its segments with slashes between them. -/
theorem intercalate_segments (p : String) : "/".intercalate (segments p) = p := by
  rw [← String.toList_inj, String.toList_intercalate, map_toList_segments]
  exact List.intercalate_splitOn '/'

/-- The segments of names with slashes between them. -/
theorem segments_intercalate {names : List String} (h : ∀ s ∈ names, '/' ∉ s.toList)
    (hne : names ≠ []) : segments ("/".intercalate names) = names := by
  apply List.map_injective_iff.mpr fun _ _ h => String.toList_inj.mp h
  rw [map_toList_segments, String.toList_intercalate]
  exact List.splitOn_intercalate '/' (List.forall_mem_map.mpr h) (by simpa using hne)

/-- Segments joined by slashes are relative. -/
theorem isAbsolute_intercalate {segments : List String} (h : ∀ s ∈ segments, IsSegment s) :
    isAbsolute ("/".intercalate segments) = false := by
  cases segments with
  | nil => rfl
  | cons s rest =>
    have hs := h s List.mem_cons_self
    rw [isAbsolute, String.toList_intercalate, List.map_cons,
      show "/".toList = ['/'] from rfl, Joined.intercalate_cons_eq]
    cases hchars : s.toList with
    | nil => exact absurd (String.toList_eq_nil_iff.mp hchars) hs.ne_empty
    | cons c cs =>
      have hne : c ≠ '/' := fun heq => hs.notMem (by rw [hchars, heq]; exact List.mem_cons_self)
      simp [hne]

/-- **Components are told from the text that joins them.** -/
theorem components_join {names : List String} (h : ∀ s ∈ names, IsName s) :
    components ("/".intercalate names) = named names := by
  by_cases hne : names = []
  · subst hne
    rfl
  · have hrelative := isAbsolute_intercalate fun s hs => (h s hs).isSegment
    rw [components, if_neg (by simp [hrelative]),
      segments_intercalate (fun s hs => (h s hs).notMem) hne]
    split
    · rename_i rest
      exact absurd rfl (h "." List.mem_cons_self).ne_here
    · exact filterMap_innerComponent? h

theorem assemble_root (names : List String) :
    assemble (.root :: named names) = "/" ++ "/".intercalate names := by
  rw [assemble, map_text_named]

theorem isAbsolute_assemble (names : List String) :
    isAbsolute (assemble (.root :: named names)) = true := by
  rw [assemble_root, isAbsolute, String.toList_append]
  rfl

/-- **Components are told from the text that assembles them behind the root.** -/
theorem components_assemble {names : List String} (h : ∀ s ∈ names, IsName s) :
    components (assemble (.root :: named names)) = .root :: named names := by
  rw [components, if_pos (isAbsolute_assemble names), assemble_root]
  have hsegments : segments ("/" ++ "/".intercalate names) =
      "" :: segments ("/".intercalate names) := by
    rw [segments, Text.splitOnChar, String.toList_append, show "/".toList = [] ++ ['/'] from rfl,
      List.nil_append, List.singleton_append, Text.splitAll, if_pos (beq_self_eq_true '/')]
    rfl
  rw [hsegments]
  by_cases hne : names = []
  · subst hne
    rfl
  · rw [segments_intercalate (fun s hs => (h s hs).notMem) hne, List.filterMap_cons]
    exact congrArg _ (filterMap_innerComponent? h)

/-! ## Normal forms -/

/-- A name at the end of a path is at the end of its normal form. -/
theorem normalize_concat_name (parts : List Component) (s : String) :
    normalize (parts ++ [.name s]) = normalize parts ++ [.name s] := by
  simp [normalize, climb]

/-- Names behind the root, last first, as a path that is climbed keeps them. -/
def Rooted (done : List Component) : Prop :=
  ∃ names, done = named names ++ [.root] ∧ ∀ s ∈ names, IsName s

theorem Rooted.climb {done : List Component} (rooted : Rooted done) {c : Component}
    (hroot : c ≠ .root) (hname : ∀ s, c = .name s → IsName s) : Rooted (climb done c) := by
  obtain ⟨names, rfl, hnames⟩ := rooted
  cases c with
  | root => exact absurd rfl hroot
  | here => exact ⟨names, rfl, hnames⟩
  | up =>
    cases names with
    | nil => exact ⟨[], rfl, hnames⟩
    | cons s rest => exact ⟨rest, rfl, fun t ht => hnames t (List.mem_cons_of_mem _ ht)⟩
  | name s =>
    refine ⟨s :: names, rfl, fun t ht => ?_⟩
    rcases List.mem_cons.mp ht with rfl | ht
    · exact hname _ rfl
    · exact hnames t ht

theorem Rooted.foldl_climb {done : List Component} (rooted : Rooted done) (parts : List Component)
    (hroot : .root ∉ parts) (hname : ∀ s, .name s ∈ parts → IsName s) :
    Rooted (parts.foldl Path.climb done) := by
  induction parts generalizing done with
  | nil => exact rooted
  | cons c rest ih =>
    refine ih (rooted.climb ?_ ?_) ?_ ?_
    · exact fun heq => hroot (heq ▸ List.mem_cons_self)
    · exact fun s heq => hname s (heq ▸ List.mem_cons_self)
    · exact fun hmem => hroot (List.mem_cons_of_mem _ hmem)
    · exact fun s hmem => hname s (List.mem_cons_of_mem _ hmem)

/-- **The normal form of an absolute path is the root and names.** -/
theorem normalForm_of_isAbsolute {p : String} (h : isAbsolute p = true) :
    ∃ names, normalForm p = .root :: named names ∧ ∀ s ∈ names, IsName s := by
  have hrooted : Rooted ([] ++ [Component.root]) := ⟨[], rfl, by simp⟩
  obtain ⟨names, hdone, hnames⟩ := hrooted.foldl_climb
    ((segments p).filterMap innerComponent?)
    (fun hmem => by
      obtain ⟨t, -, ht⟩ := List.mem_filterMap.mp hmem
      unfold innerComponent? at ht
      split at ht <;> [cases ht; (split at ht <;> cases ht)])
    (fun s hmem => by
      obtain ⟨t, ht, heq⟩ := List.mem_filterMap.mp hmem
      exact (name_of_mem_segments ht heq).2)
  -- climbing keeps the components last first
  refine ⟨names.reverse, ?_, fun s hs => hnames s (List.mem_reverse.mp hs)⟩
  rw [normalForm, components, if_pos h, normalize, List.foldl_cons]
  simp only [climb, List.nil_append] at hdone ⊢
  rw [hdone]
  simp [named]

/-! ## Separators at the end -/

theorem isAbsolute_ofList_concat {cs : List Char} (hne : cs ≠ []) (c : Char) :
    isAbsolute (String.ofList (cs ++ [c])) = isAbsolute (String.ofList cs) := by
  cases cs with
  | nil => exact absurd rfl hne
  | cons d cs => simp [isAbsolute]

/-- A slash at the end of a path does not count. -/
theorem normalForm_concat_slash {cs : List Char} (hne : cs ≠ [])
    (habsolute : isAbsolute (String.ofList cs) = true) :
    normalForm (String.ofList (cs ++ ['/'])) = normalForm (String.ofList cs) := by
  have hsegments : segments (String.ofList (cs ++ ['/'])) =
      segments (String.ofList cs) ++ [""] := by
    rw [segments, segments, Text.splitOnChar, Text.splitOnChar, String.toList_ofList,
      String.toList_ofList, Text.splitAll_concat_of_sep, List.map_append]
    · rfl
    · rfl
  rw [normalForm, normalForm, components, components, isAbsolute_ofList_concat hne, habsolute,
    hsegments, List.filterMap_append]
  simp [innerComponent?]

/-- An absolute path that ends in a backslash ends in a name with a backslash. -/
theorem exists_name_of_concat_backslash {cs : List Char}
    (habsolute : isAbsolute (String.ofList (cs ++ ['\\'])) = true) :
    ∃ s, .name s ∈ normalForm (String.ofList (cs ++ ['\\'])) ∧ '\\' ∈ s.toList := by
  obtain ⟨front, last, hsplit⟩ :=
    @Text.splitAll_concat_of_not_sep Char (fun c => c == '/') cs '\\' rfl
  have hname : innerComponent? (String.ofList (last ++ ['\\'])) =
      some (.name (String.ofList (last ++ ['\\']))) := by
    have hne : ∀ cs : List Char, '\\' ∉ cs → String.ofList (last ++ ['\\']) ≠ String.ofList cs := by
      intro cs hcs heq
      rw [String.ofList_inj] at heq
      exact hcs (heq ▸ by simp)
    rw [innerComponent?, if_neg, if_neg]
    · exact hne ['.', '.'] (by decide)
    · rw [not_or]
      exact ⟨hne [] (by decide), hne ['.'] (by decide)⟩
  refine ⟨String.ofList (last ++ ['\\']), ?_, by simp⟩
  have hsegments : segments (String.ofList (cs ++ ['\\'])) =
      front.map String.ofList ++ [String.ofList (last ++ ['\\'])] := by
    rw [segments, Text.splitOnChar, String.toList_ofList, hsplit, List.map_append]
    rfl
  rw [normalForm, components, if_pos habsolute, hsegments, List.filterMap_append]
  simp only [List.filterMap_cons, List.filterMap_nil, hname]
  rw [← List.cons_append, normalize_concat_name]
  exact List.mem_append_right _ List.mem_cons_self

theorem dropTail_concat {p : Char → Bool} (cs : List Char) (c : Char) :
    Text.dropTail p (cs ++ [c]) = if p c then Text.dropTail p cs else cs ++ [c] := by
  rw [Text.dropTail, List.reverse_append, List.reverse_singleton, List.singleton_append,
    List.dropWhile_cons]
  split <;> simp [Text.dropTail]

/-- **Separators at the end of a path do not count**, where its normal form has no backslashes,
unless nothing else is left of it. -/
theorem normalForm_trimSeparators {p : String} (habsolute : isAbsolute p = true)
    (hplain : ∀ s, .name s ∈ normalForm p → '\\' ∉ s.toList) :
    (trimSeparators p = "" ∧ normalForm p = [.root]) ∨
      normalForm (trimSeparators p) = normalForm p := by
  obtain ⟨cs, rfl⟩ : ∃ cs, p = String.ofList cs := ⟨p.toList, by simp⟩
  rw [trimSeparators, Text.trimEndOf, String.toList_ofList]
  induction cs using List.reverseRecOn with
  | nil => cases habsolute
  | append_singleton cs c ih =>
    rw [dropTail_concat]
    by_cases hslash : c = '/'
    · subst hslash
      rw [if_pos (show ('/' == '/' || '/' == '\\') = true from rfl)]
      by_cases hne : cs = []
      · subst hne
        exact .inl ⟨rfl, by decide⟩
      · rw [isAbsolute_ofList_concat hne] at habsolute
        rw [normalForm_concat_slash hne habsolute] at hplain ⊢
        exact ih habsolute hplain
    · by_cases hback : c = '\\'
      · subst hback
        obtain ⟨s, hs, hmem⟩ := exists_name_of_concat_backslash habsolute
        exact absurd hmem (hplain s hs)
      · rw [if_neg (by simp [hslash, hback])]
        exact .inr rfl

end Path

end LintLedger
