import LintLedger.Proofs.FileTree.Below
import LintLedger.Proofs.Path.Stored

/-!
# Spellings of a path

A tool may spell a file below its working directory in full or from there, and on the way it may
stay where it is or go into a folder and out of it again.  Such a spelling is made absolute into
the normalized path of the file, so the file is stored under one path however it was spelled.

## Main Definitions

* `Path.Spells` -- segments that lead where some names lead
* `Path.Spelling` -- the texts that spell a file below a directory

## Main Statements

* `Path.Spells.foldl_climb` -- climbing along such segments is climbing along the names
* `Path.Spelling.ensureAbsolute` -- a spelling made absolute is the file
* `Path.Spelling.filePath` -- the stored path of a spelling is that of the file
-/

namespace LintLedger.Path

/-! ## Detours -/

/-- Segments that lead where some names lead: the names, and between them dots and folders that
are left again at once. -/
inductive Spells (names : List String) : List String → Prop
  /-- The names themselves. -/
  | names : Spells names names
  /-- A dot anywhere. -/
  | here {front back : List String} (h : Spells names (front ++ back)) :
      Spells names (front ++ "." :: back)
  /-- A folder and the way out of it anywhere, also on a detour. -/
  | detour {front back : List String} {x : String} (hx : IsName x)
      (h : Spells names (front ++ back)) : Spells names (front ++ x :: ".." :: back)

variable {names segments : List String}

/-- What leads where names lead is segments. -/
theorem Spells.forall_mem (h : Spells names segments) (hnames : ∀ s ∈ names, IsName s) :
    ∀ s ∈ segments, IsSegment s := by
  induction h with
  | names => exact fun s hs => (hnames s hs).isSegment
  | here h ih =>
    intro s hs
    rcases List.mem_append.mp hs with hs | hs
    · exact ih s (List.mem_append_left _ hs)
    · rcases List.mem_cons.mp hs with rfl | hs
      · exact ⟨by decide, by decide⟩
      · exact ih s (List.mem_append_right _ hs)
  | detour hx h ih =>
    intro s hs
    rcases List.mem_append.mp hs with hs | hs
    · exact ih s (List.mem_append_left _ hs)
    · rcases List.mem_cons.mp hs with rfl | hs
      · exact hx.isSegment
      · rcases List.mem_cons.mp hs with rfl | hs
        · exact ⟨by decide, by decide⟩
        · exact ih s (List.mem_append_right _ hs)

theorem Spells.eq_nil (h : Spells names []) : names = [] := by
  generalize hnil : ([] : List String) = segments at h
  cases h with
  | names => rfl
  | here => simp at hnil
  | detour => simp at hnil

/-- Going into a folder and out of it leads back. -/
theorem climb_climb_up (done : List Component) (x : String) :
    climb (climb done (.name x)) .up = done := rfl

/-- **Climbing along segments that lead where names lead is climbing along the names.** -/
theorem Spells.foldl_climb (h : Spells names segments) (hnames : ∀ s ∈ names, IsName s)
    (done : List Component) :
    (segments.filterMap innerComponent?).foldl climb done = (named names).foldl climb done := by
  -- what is inserted between `front` and `back` changes nothing of what was climbed at `front`
  induction h with
  | names => rw [filterMap_innerComponent? hnames]
  | here h ih =>
    rw [← ih, List.filterMap_append, List.filterMap_append, List.filterMap_cons]
    rfl
  | detour hx h ih =>
    have hup : innerComponent? ".." = some .up := rfl
    rw [← ih, List.filterMap_append, List.filterMap_append, List.filterMap_cons,
      innerComponent?_eq_name hx, List.filterMap_cons, hup, List.foldl_append, List.foldl_append,
      List.foldl_cons, List.foldl_cons, climb_climb_up]

/-- Names are climbed one after the other. -/
theorem foldl_climb_named (names : List String) (done : List Component) :
    (named names).foldl climb done = (named names).reverse ++ done := by
  induction names generalizing done with
  | nil => rfl
  | cons s rest ih =>
    change (named rest).foldl climb (.name s :: done) = (.name s :: named rest).reverse ++ done
    rw [ih, List.reverse_cons, List.append_assoc]
    rfl

/-- Segments that lead where names lead add the names to the path in front of them. -/
theorem Spells.normalize_append (h : Spells names segments) (hnames : ∀ s ∈ names, IsName s)
    (parts : List Component) :
    normalize (parts ++ segments.filterMap innerComponent?) = normalize parts ++ named names := by
  rw [normalize, normalize, List.foldl_append, h.foldl_climb hnames, foldl_climb_named,
    List.reverse_append, List.reverse_reverse]

/-! ## Segments in a text -/

/-- Segments joined by slashes are the names of the text. -/
theorem names_intercalate (h : ∀ s ∈ segments, IsSegment s) :
    FileTree.names ("/".intercalate segments) = segments := by
  by_cases hne : segments = []
  · subst hne
    rfl
  · rw [FileTree.names, segments_intercalate (fun s hs => (h s hs).notMem) hne, List.filter_eq_self]
    exact fun s hs => decide_eq_true (h s hs).ne_empty

/-- The components of an absolute path are the root and those of its names. -/
theorem components_of_isAbsolute {path : String} (h : isAbsolute path = true) :
    components path = .root :: (FileTree.names path).filterMap innerComponent? := by
  rw [components, if_pos h, FileTree.names, List.filterMap_filter]
  congr 2
  funext s
  by_cases hs : s = ""
  · simp [hs, innerComponent?]
  · simp [hs]

/-! ## Spellings -/

/-- The texts that spell a file below a directory: in full, or from the directory. -/
inductive Spelling (dir file : String) : String → Prop
  /-- From the root. -/
  | absolute {names segments : List String} (hfile : normalForm file = .root :: named names)
      (h : Spells names segments) : Spelling dir file ("/" ++ "/".intercalate segments)
  /-- From the directory. -/
  | relative {names segments : List String} (hfile : below dir file = named names)
      (h : Spells names segments) : Spelling dir file ("/".intercalate segments)

variable {dir file text : String}

/-- What is left below a directory is names. -/
theorem FileBelow.isName_of_below_eq (hdir : Path.isAbsolute dir = true)
    (hfile : FileBelow dir file) (h : below dir file = named names) : ∀ s ∈ names, IsName s := by
  obtain ⟨above, under, -, hunder, -, hnames⟩ := hfile.names hdir
  obtain rfl : names = under := named_injective (h.symm.trans hunder)
  exact fun s hs => (hnames s (List.mem_append_right _ hs)).1

theorem isName_of_normalForm_eq (hfile : isAbsolute file = true)
    (h : normalForm file = .root :: named names) : ∀ s ∈ names, IsName s := by
  obtain ⟨names', hnormal, hnames⟩ := normalForm_of_isAbsolute hfile
  obtain rfl : names = names' := named_injective (List.cons.inj (h.symm.trans hnormal)).2
  exact hnames

theorem isAbsolute_slash_append (s : String) : isAbsolute ("/" ++ s) = true := by
  rw [isAbsolute, String.toList_append]
  rfl

/-- The normal form of a spelling, below the directory where it is relative, is that of the
file. -/
theorem Spelling.normalForm_eq (h : Spelling dir file text)
    (hdir : Path.isAbsolute dir = true) (hfile : FileBelow dir file) :
    normalForm (if isAbsolute text then text else join dir text) = normalForm file := by
  cases h with
  | @absolute names segments hnormal h =>
    -- the names are climbed from the root, and the directory does not matter
    have hnames := isName_of_normalForm_eq hfile.isAbsolute hnormal
    have habsolute := isAbsolute_slash_append ("/".intercalate segments)
    have hsegments : FileTree.names ("/" ++ "/".intercalate segments) = segments := by
      have hslash := FileTree.names_append_slash "" ("/".intercalate segments)
      rw [String.empty_append, names_intercalate (h.forall_mem hnames)] at hslash
      exact hslash
    rw [if_pos habsolute, normalForm, components_of_isAbsolute habsolute, hsegments, hnormal]
    exact h.normalize_append hnames [.root]
  | @relative names segments hbelow h =>
    -- the names are climbed from where the directory leads
    have hnames := hfile.isName_of_below_eq hdir hbelow
    have hrelative := isAbsolute_intercalate (h.forall_mem hnames)
    have hsegments : FileTree.names (join dir ("/".intercalate segments)) =
        FileTree.names dir ++ segments := by
      rw [FileTree.names_join, hrelative, names_intercalate (h.forall_mem hnames)]
      rfl
    have hjoin := FileTree.isAbsolute_join hdir ("/".intercalate segments)
    rw [if_neg (by simp [hrelative]), normalForm, components_of_isAbsolute hjoin, hsegments,
      List.filterMap_append, ← List.cons_append, ← components_of_isAbsolute hdir,
      h.normalize_append hnames, hfile.normalForm_eq, hbelow]
    rfl

/-- A relative spelling has no empty segments. -/
theorem Spelling.forall_mem_segments (h : Spelling dir file text)
    (hdir : Path.isAbsolute dir = true) (hfile : FileBelow dir file)
    (hrelative : isAbsolute text = false) : ∀ s ∈ Path.segments text, IsSegment s := by
  cases h with
  | @absolute names segments hnormal h =>
    rw [isAbsolute_slash_append] at hrelative
    cases hrelative
  | @relative names segments hbelow h =>
    have hmembers := h.forall_mem (hfile.isName_of_below_eq hdir hbelow)
    have hne : segments ≠ [] := by
      rintro rfl
      obtain rfl : names = [] := h.eq_nil
      obtain ⟨c, rest, hstrip⟩ := hfile.inside
      rw [below, hstrip] at hbelow
      cases hbelow
    rwa [segments_intercalate (fun s hs => (hmembers s hs).notMem) hne]

/-- A relative path starts at a directory that is absolute. -/
theorem ensureAbsolute_of_isAbsolute (hdir : isAbsolute dir = true) (path : String) :
    ensureAbsolute path (some dir) =
      slashed (normalForm (if isAbsolute path then path else join dir path)) := by
  have hne : dir ≠ "" := by
    rintro rfl
    cases hdir
  have hgiven : given? (some dir) = some dir := by simp [given?, hne]
  rw [ensureAbsolute, hgiven, Option.getD_some]

/-- **A spelling of a file made absolute is the file.** -/
theorem Spelling.ensureAbsolute (h : Spelling dir file text)
    (hdir : Path.isAbsolute dir = true) (hfile : FileBelow dir file) :
    Path.ensureAbsolute text (some dir) = file := by
  rw [ensureAbsolute_of_isAbsolute hdir, h.normalForm_eq hdir hfile, slashed, hfile.normal,
    toSlashes_eq_self hfile.plain]

/-- **A file is stored under one path however it is spelled.** -/
theorem Spelling.filePath (h : Spelling dir file text) {ctx : PathContext}
    (hcwd : ctx.cwd? = some dir) (hdir : Path.isAbsolute dir = true) (hfile : FileBelow dir file) :
    ctx.filePath text = ctx.filePath file := by
  rw [PathContext.filePath, PathContext.filePath, hcwd, h.ensureAbsolute hdir hfile,
    hfile.ensureAbsolute]

end LintLedger.Path
