import LintLedger.PathContext
import LintLedger.Proofs.Path.Components

/-!
# Stored paths

A path is stored from the right-most segment on that bears the name of the audited folder.  Two
files below that folder are therefore stored under one path exactly if they agree behind their
right-most segments of that name, which are segments below the folder where there are any.

A stored path takes part in the identity of a finding as it is, or as the part below the root where
it is absolute, and neither confuses two stored paths.

## Main Definitions

* `Path.FileBelow` -- a normalized absolute file below a directory
* `Path.behindLast` -- what stands behind the last of some components
* `Path.ownPart` -- what the stored path tells of a file

## Main Statements

* `Path.FileBelow.filePath_of_name`, `Path.FileBelow.filePath_of_root` -- the stored path of a file
* `Path.filePath_eq_iff` -- which files are stored under one path
* `Path.identityRelative_filePath_injective` -- what the identity takes of two stored paths
-/

namespace LintLedger.Path

/-! ## The last of some components -/

/-- What stands behind the last of the components that are `c`; everything if there is none. -/
def behindLast (c : Component) : List Component → List Component
  | [] => []
  | d :: rest => if c ∈ rest then behindLast c rest else if d = c then rest else d :: rest

theorem behindLast_of_notMem {c : Component} {parts : List Component} (h : c ∉ parts) :
    behindLast c parts = parts := by
  cases parts with
  | nil => rfl
  | cons d rest =>
    rw [List.mem_cons, not_or] at h
    rw [behindLast, if_neg h.2, if_neg (Ne.symm h.1)]

theorem behindLast_suffix (c : Component) (parts : List Component) :
    behindLast c parts <:+ parts := by
  induction parts with
  | nil => exact List.suffix_rfl
  | cons d rest ih =>
    rw [behindLast]
    split
    · exact ih.trans (List.suffix_cons d rest)
    · split
      · exact List.suffix_cons d rest
      · exact List.suffix_rfl

theorem fromLastName?_of_notMem {a : String} {parts : List Component} (h : .name a ∉ parts) :
    fromLastName? a parts = none := by
  induction parts with
  | nil => rfl
  | cons d rest ih =>
    rw [List.mem_cons, not_or] at h
    rw [fromLastName?, ih h.2]
    exact if_neg (Ne.symm h.1)

theorem fromLastName?_of_mem {a : String} {parts : List Component} (h : .name a ∈ parts) :
    fromLastName? a parts = some (.name a :: behindLast (.name a) parts) := by
  induction parts with
  | nil => cases h
  | cons d rest ih =>
    rw [fromLastName?, behindLast]
    by_cases hrest : .name a ∈ rest
    · rw [ih hrest, if_pos hrest]
    · obtain rfl : .name a = d := by
        rcases List.mem_cons.mp h with heq | hmem
        · exact heq
        · exact absurd hmem hrest
      rw [fromLastName?_of_notMem hrest, if_neg hrest, if_pos rfl, if_pos rfl]

theorem fromLastName?_append {a : String} {parts found : List Component}
    (h : fromLastName? a parts = some found) (front : List Component) :
    fromLastName? a (front ++ parts) = some found := by
  induction front with
  | nil => exact h
  | cons d rest ih => rw [List.cons_append, fromLastName?, ih]

/-- Behind a component that is the anchor stands what is behind the last one. -/
theorem fromLastName?_append_cons (a : String) (front parts : List Component) :
    fromLastName? a (front ++ .name a :: parts) = some (.name a :: behindLast (.name a) parts) := by
  refine fromLastName?_append ?_ front
  by_cases h : .name a ∈ parts
  · rw [fromLastName?, fromLastName?_of_mem h]
  · rw [fromLastName?_of_mem List.mem_cons_self, behindLast, if_neg h, if_pos rfl,
      behindLast_of_notMem h]

/-! ## Files below a directory -/

/-- A normalized absolute file with no separator but slashes, below a directory. -/
structure FileBelow (dir file : String) : Prop where
  isAbsolute : isAbsolute file = true
  plain : '\\' ∉ file.toList
  normal : assemble (normalForm file) = file
  inside : ∃ c rest, strip? (normalForm dir) (normalForm file) = some (c :: rest)

/-- The components of a file below a directory. -/
def below (dir file : String) : List Component :=
  (strip? (normalForm dir) (normalForm file)).getD []

/-- The folder that a directory is. -/
def folder (dir : String) : Component := (normalForm dir).getLastD .root

/-- What the stored path tells of a file below a directory: what stands behind its right-most
segment below the directory that bears the name of the folder, or all of it. -/
def ownPart (dir file : String) : List Component := behindLast (folder dir) (below dir file)

theorem strip?_eq_some_iff {front parts rest : List Component} :
    strip? front parts = some rest ↔ parts = front ++ rest := by
  induction front generalizing parts with
  | nil => simp [strip?, eq_comm]
  | cons f front ih =>
    cases parts with
    | nil => simp [strip?]
    | cons p parts =>
      rw [strip?]
      split
      · rename_i heq
        subst heq
        simp [ih]
      · rename_i hne
        simp [Ne.symm hne]

theorem toSlashes_eq_self {s : String} (h : '\\' ∉ s.toList) : toSlashes s = s := by
  have hmap : s.toList.map (fun c => if c = '\\' then '/' else c) = s.toList := by
    refine (List.map_congr_left fun c hc => ?_).trans (List.map_id _)
    exact if_neg fun heq : c = '\\' => h (heq ▸ hc)
  rw [toSlashes, hmap, String.ofList_toList]

/-- A separator that is in one of the parts is in the text that joins them. -/
theorem mem_toList_intercalate {c : Char} {names : List String} {s : String} (hs : s ∈ names)
    (hc : c ∈ s.toList) : c ∈ ("/".intercalate names).toList := by
  rw [String.toList_intercalate]
  obtain ⟨front, back, rfl⟩ := List.append_of_mem hs
  rw [List.map_append, List.map_cons, show "/".toList = ['/'] from rfl]
  generalize front.map String.toList = starts
  induction starts with
  | nil =>
    rw [List.nil_append, Joined.intercalate_cons_eq]
    exact List.mem_append_left _ hc
  | cons l starts ih =>
    rw [List.cons_append, List.intercalate_cons_of_ne_nil (by simp)]
    exact List.mem_append_right _ ih

theorem mem_of_mem_toList_intercalate {c : Char} {names : List String}
    (hc : c ∈ ("/".intercalate names).toList) : c = '/' ∨ ∃ s ∈ names, c ∈ s.toList := by
  rw [String.toList_intercalate, show "/".toList = ['/'] from rfl] at hc
  cases names with
  | nil => simp at hc
  | cons s rest =>
    rw [List.map_cons, Joined.intercalate_cons_eq, List.mem_append, List.mem_flatMap] at hc
    rcases hc with hc | ⟨l, hl, hc⟩
    · exact .inr ⟨s, List.mem_cons_self, hc⟩
    · obtain ⟨t, ht, rfl⟩ := List.mem_map.mp hl
      rcases List.mem_cons.mp hc with heq | hc
      · exact .inl heq
      · exact .inr ⟨t, List.mem_cons_of_mem _ ht, hc⟩

variable {dir file file' : String}

theorem FileBelow.normalForm_eq (hfile : FileBelow dir file) :
    normalForm file = normalForm dir ++ below dir file := by
  obtain ⟨c, rest, hstrip⟩ := hfile.inside
  rw [below, hstrip]
  exact strip?_eq_some_iff.mp hstrip

/-- The names of a file below a directory and of the directory. -/
theorem FileBelow.names (hdir : Path.isAbsolute dir = true) (hfile : FileBelow dir file) :
    ∃ above under, normalForm dir = .root :: named above ∧ below dir file = named under ∧
      file = assemble (.root :: named (above ++ under)) ∧
      ∀ s ∈ above ++ under, IsName s ∧ '\\' ∉ s.toList := by
  obtain ⟨above, habove, -⟩ := normalForm_of_isAbsolute hdir
  obtain ⟨all, hall, hnames⟩ := normalForm_of_isAbsolute hfile.isAbsolute
  obtain ⟨c, rest, hstrip⟩ := hfile.inside
  have hsplit := strip?_eq_some_iff.mp hstrip
  rw [habove, hall, List.cons_append, List.cons.injEq] at hsplit
  obtain ⟨front, under, rfl, hfront, hunder⟩ := List.map_eq_append_iff.mp hsplit.2
  obtain rfl : front = above := named_injective hfront
  have hnormal := hfile.normal
  rw [hall] at hnormal
  refine ⟨front, under, habove, ?_, hnormal.symm, fun s hs => ⟨hnames s hs, fun hback => ?_⟩⟩
  · rw [below, hstrip, named, hunder]
    rfl
  · refine hfile.plain ?_
    rw [← hnormal, assemble_root, String.toList_append]
    exact List.mem_append_right _ (mem_toList_intercalate hs hback)

/-! ## The stored path -/

/-- A normalized absolute file is the same when it is made absolute. -/
theorem FileBelow.ensureAbsolute (hfile : FileBelow dir file) (cwd? : Option String) :
    ensureAbsolute file cwd? = file := by
  rw [Path.ensureAbsolute, if_pos hfile.isAbsolute, slashed, hfile.normal,
    toSlashes_eq_self hfile.plain]

theorem labelOf_concat_name (parts : List Component) (s : String) :
    labelOf (parts ++ [.name s]) = s := by simp [labelOf]

/-- The root has no folder name. -/
theorem anchorName_of_root (hdir : Path.isAbsolute dir = true) (hroot : normalForm dir = [.root]) :
    anchorName dir = "" ∨ anchorName dir = "/" := by
  have hplain : ∀ s, .name s ∈ normalForm dir → '\\' ∉ s.toList := by simp [hroot]
  rw [anchorName]
  rcases normalForm_trimSeparators hdir hplain with ⟨htrim, -⟩ | htrim
  · rw [htrim]
    exact .inl (by decide)
  · rw [htrim, hroot]
    exact .inr (by decide)

/-- The folder name of any other directory is its last name. -/
theorem anchorName_of_name (hdir : Path.isAbsolute dir = true) {front : List String} {d : String}
    (hnormal : normalForm dir = .root :: named (front ++ [d]))
    (hplain : ∀ s ∈ front ++ [d], '\\' ∉ s.toList) : anchorName dir = d := by
  have hplain' : ∀ s, .name s ∈ normalForm dir → '\\' ∉ s.toList := by
    intro s hs
    rw [hnormal, List.mem_cons, named, List.mem_map] at hs
    obtain heq | ⟨t, ht, heq⟩ := hs
    · cases heq
    · exact Component.name.inj heq ▸ hplain t ht
  rw [anchorName]
  rcases normalForm_trimSeparators hdir hplain' with ⟨-, hroot⟩ | htrim
  · rw [hnormal, named_append] at hroot
    simp [named] at hroot
  · rw [htrim, hnormal, named_append, ← List.cons_append]
    exact labelOf_concat_name _ d

/-- Names behind the last of them are names of the file. -/
theorem exists_named_behindLast (c : Component) (names : List String) :
    ∃ own, behindLast c (named names) = named own ∧ own <:+ names := by
  obtain ⟨front, hfront⟩ := behindLast_suffix c (named names)
  obtain ⟨skipped, own, rfl, -, hown⟩ := List.map_eq_append_iff.mp hfront.symm
  exact ⟨own, hown.symm, List.suffix_append skipped own⟩

theorem assemble_named (names : List String) : assemble (named names) = "/".intercalate names := by
  cases names with
  | nil => rfl
  | cons s rest =>
    rw [named, List.map_cons, assemble, ← List.map_cons, ← named, map_text_named]
    exact fun _ h => by cases h

theorem slashed_names {names : List String} (hplain : ∀ s ∈ names, '\\' ∉ s.toList) :
    slashed (named names) = "/".intercalate names := by
  rw [slashed, assemble_named]
  refine toSlashes_eq_self fun hback => ?_
  obtain heq | ⟨s, hs, hmem⟩ := mem_of_mem_toList_intercalate hback
  · cases heq
  · exact hplain s hs hmem

variable {ctx : PathContext}

/-- What is stored of a file below the root is all of it. -/
theorem FileBelow.filePath_of_root (hdir : Path.isAbsolute dir = true)
    (hroot : normalForm dir = [.root]) (hanchor : ctx.anchor? = some dir)
    (hfile : FileBelow dir file) : ctx.filePath file = file := by
  obtain ⟨above, under, habove, -, hassemble, hnames⟩ := hfile.names hdir
  obtain rfl : above = [] := by
    rw [hroot] at habove
    exact (List.map_eq_nil_iff.mp (List.cons.inj habove).2.symm)
  rw [PathContext.filePath, hanchor]
  dsimp only
  rw [hfile.ensureAbsolute, clipToAnchor]
  rcases anchorName_of_root hdir hroot with hname | hname
  · rw [hname, if_pos rfl]
  · have hnone : fromLastName? "/" (components file) = none := by
      refine fromLastName?_of_notMem fun hmem => ?_
      rw [hassemble, components_assemble fun s hs => (hnames s hs).1, List.mem_cons] at hmem
      obtain heq | hmem := hmem
      · cases heq
      · obtain ⟨s, hs, heq⟩ := List.mem_map.mp hmem
        exact (hnames s hs).1.notMem (Component.name.inj heq ▸ by decide)
    rw [hname, if_neg (by decide), hnone]

/-- **What is stored of a file is the folder and the part of the file that is its own**, both of
them names. -/
theorem FileBelow.filePath_of_name (hdir : Path.isAbsolute dir = true) {front : List String}
    {d : String} (hnormal : normalForm dir = .root :: named (front ++ [d]))
    (hanchor : ctx.anchor? = some dir) (hfile : FileBelow dir file) :
    ∃ own, ownPart dir file = named own ∧ ctx.filePath file = "/".intercalate (d :: own) ∧
      ∀ s ∈ d :: own, IsName s ∧ '\\' ∉ s.toList := by
  obtain ⟨above, under, habove, hunder, hassemble, hnames⟩ := hfile.names hdir
  obtain rfl : above = front ++ [d] :=
    named_injective (List.cons.inj (habove.symm.trans hnormal)).2
  have hfolder : folder dir = .name d := by
    rw [folder, hnormal, named_append, ← List.cons_append]
    exact List.getLastD_concat
  obtain ⟨own, hown, hsuffix⟩ := exists_named_behindLast (.name d) under
  have hstored : ∀ s ∈ d :: own, IsName s ∧ '\\' ∉ s.toList :=
    List.forall_mem_cons.mpr ⟨hnames d (by simp), fun s hs =>
      hnames s (List.mem_append_right _ (hsuffix.subset hs))⟩
  have hcomponents : components file = (.root :: named front) ++ .name d :: named under := by
    rw [hassemble, components_assemble fun s hs => (hnames s hs).1]
    simp [named]
  have hplain : ∀ s ∈ front ++ [d], '\\' ∉ s.toList := fun s hs =>
    (hnames s (List.mem_append_left _ hs)).2
  refine ⟨own, by rw [ownPart, hunder, hfolder, hown], ?_, hstored⟩
  rw [PathContext.filePath, hanchor]
  dsimp only
  rw [hfile.ensureAbsolute, clipToAnchor, anchorName_of_name hdir hnormal hplain,
    if_neg (hstored d List.mem_cons_self).1.ne_empty, hcomponents, fromLastName?_append_cons, hown]
  change slashed (named (d :: own)) = _
  rw [slashed_names fun s hs => (hstored s hs).2]

/-- A directory is the root, or it is a folder with a name. -/
theorem root_or_name (hdir : Path.isAbsolute dir = true) :
    normalForm dir = [.root] ∨ ∃ front d, normalForm dir = .root :: named (front ++ [d]) := by
  obtain ⟨names, hnormal, -⟩ := normalForm_of_isAbsolute hdir
  rcases List.eq_nil_or_concat names with rfl | ⟨front, d, rfl⟩
  · exact .inl hnormal
  · exact .inr ⟨front, d, by rw [hnormal, List.concat_eq_append]⟩

/-- Below the root the own part of a file is all of it. -/
theorem FileBelow.ownPart_of_root (hdir : Path.isAbsolute dir = true)
    (hroot : normalForm dir = [.root]) (hfile : FileBelow dir file) :
    ownPart dir file = below dir file := by
  obtain ⟨above, under, -, hunder, -⟩ := hfile.names hdir
  refine behindLast_of_notMem fun hmem => ?_
  rw [folder, hroot, hunder] at hmem
  obtain ⟨s, -, heq⟩ := List.mem_map.mp hmem
  cases heq

/-- **Two files below a directory are stored under one path exactly if their own parts agree.** -/
theorem filePath_eq_iff (hdir : Path.isAbsolute dir = true) (hanchor : ctx.anchor? = some dir)
    (hfile : FileBelow dir file) (hfile' : FileBelow dir file') :
    ctx.filePath file = ctx.filePath file' ↔ ownPart dir file = ownPart dir file' := by
  rcases root_or_name hdir with hroot | ⟨front, d, hnormal⟩
  · rw [hfile.filePath_of_root hdir hroot hanchor, hfile'.filePath_of_root hdir hroot hanchor]
    refine ⟨fun h => by rw [h], fun h => ?_⟩
    rw [hfile.ownPart_of_root hdir hroot, hfile'.ownPart_of_root hdir hroot] at h
    rw [← hfile.normal, ← hfile'.normal, hfile.normalForm_eq, h, ← hfile'.normalForm_eq]
  · obtain ⟨own, hown, hstored, hnames⟩ := hfile.filePath_of_name hdir hnormal hanchor
    obtain ⟨own', hown', hstored', hnames'⟩ := hfile'.filePath_of_name hdir hnormal hanchor
    rw [hstored, hstored', hown, hown']
    refine ⟨fun h => ?_, fun h => by rw [named_injective h]⟩
    have hparts := congrArg components h
    rw [components_join fun s hs => (hnames s hs).1,
      components_join fun s hs => (hnames' s hs).1] at hparts
    exact (List.cons.inj hparts).2

/-! ## The path in the identity -/

theorem notMem_toSlashes (s : String) : '\\' ∉ (toSlashes s).toList := by
  rw [toSlashes, String.toList_ofList, List.mem_map]
  rintro ⟨c, -, hc⟩
  split at hc
  · exact absurd hc (by decide)
  · rename_i hne
    exact hne hc

theorem toSlashes_toSlashes (s : String) : toSlashes (toSlashes s) = toSlashes s :=
  toSlashes_eq_self (notMem_toSlashes s)

/-- The normal form of a file below a directory is what its text says. -/
theorem FileBelow.exists_names (hdir : Path.isAbsolute dir = true) (hfile : FileBelow dir file) :
    ∃ names, normalForm file = .root :: named names ∧ components file = normalForm file ∧
      ∀ s ∈ names, IsName s ∧ '\\' ∉ s.toList := by
  obtain ⟨above, under, habove, hunder, hassemble, hnames⟩ := hfile.names hdir
  have hnormal : normalForm file = .root :: named (above ++ under) := by
    rw [hfile.normalForm_eq, habove, hunder, named_append, List.cons_append]
  refine ⟨above ++ under, hnormal, ?_, hnames⟩
  rw [hnormal, hassemble, components_assemble fun s hs => (hnames s hs).1]

/-- The identity takes of a file what is left of it below the root, or all of it. -/
theorem FileBelow.components_identityRelative (hdir : Path.isAbsolute dir = true)
    (hfile : FileBelow dir file) (root : String) :
    components (identityRelative file root) =
      (strip? (normalForm root) (normalForm file)).getD (normalForm file) := by
  obtain ⟨names, hnormal, hcomponents, hnames⟩ := hfile.exists_names hdir
  rw [identityRelative, toSlashes_eq_self hfile.plain]
  split
  · rename_i hskip
    obtain rfl : root = "" := hskip.resolve_right (by simp [hfile.isAbsolute])
    rw [hcomponents, show normalForm "" = [] from by decide]
    rfl
  · cases hstrip : strip? (normalForm root) (normalForm file) with
    | none => exact hcomponents
    | some rest =>
      have hsplit := strip?_eq_some_iff.mp hstrip
      change components (slashed rest) = rest
      cases hfront : normalForm root with
      | nil =>
        -- a root without components has the file below it as it is
        obtain rfl : normalForm file = rest := by rw [hsplit, hfront, List.nil_append]
        rw [slashed, hfile.normal, toSlashes_eq_self hfile.plain, hcomponents]
      | cons c front =>
        -- what is left of the file begins behind its root, so it is names
        rw [hnormal, hfront, List.cons_append, List.cons.injEq] at hsplit
        obtain ⟨skipped, own, rfl, -, rfl⟩ := List.map_eq_append_iff.mp hsplit.2
        have hown : ∀ s ∈ own, IsName s ∧ '\\' ∉ s.toList := fun s hs =>
          hnames s (List.mem_append_right _ hs)
        change components (slashed (named own)) = named own
        rw [slashed_names fun s hs => (hown s hs).2, components_join fun s hs => (hown s hs).1]

/-- What is left below a root is no path that is not below it. -/
theorem strip?_ne_of_eq_none {front : List Component} {names : List String}
    (h : strip? front (.root :: named names) = none) (names' : List String) :
    strip? front (.root :: named names') ≠ some (.root :: named names) := by
  intro hstrip
  cases front with
  | nil => cases h
  | cons c front =>
    have hsplit := (List.cons.inj (strip?_eq_some_iff.mp hstrip)).2
    have hroot : Component.root ∈ named names' := by
      rw [hsplit]
      exact List.mem_append_right _ List.mem_cons_self
    obtain ⟨s, -, hs⟩ := List.mem_map.mp hroot
    cases hs

/-- **What the identity takes of an absolute file tells the file**, whatever the root is. -/
theorem identityRelative_injective (hdir : Path.isAbsolute dir = true) (hfile : FileBelow dir file)
    (hfile' : FileBelow dir file') (h : identityRelative file root = identityRelative file' root) :
    file = file' := by
  obtain ⟨names, hnormal, -⟩ := hfile.exists_names hdir
  obtain ⟨names', hnormal', -⟩ := hfile'.exists_names hdir
  have hparts := congrArg components h
  rw [hfile.components_identityRelative hdir, hfile'.components_identityRelative hdir] at hparts
  have hforms : normalForm file = normalForm file' := by
    cases hstrip : strip? (normalForm root) (normalForm file) with
    | none =>
      cases hstrip' : strip? (normalForm root) (normalForm file') with
      | none => rwa [hstrip, hstrip'] at hparts
      | some rest =>
        obtain rfl : normalForm file = rest := by rwa [hstrip, hstrip'] at hparts
        rw [hnormal] at hstrip hstrip'
        rw [hnormal'] at hstrip'
        exact absurd hstrip' (strip?_ne_of_eq_none hstrip names')
    | some rest =>
      cases hstrip' : strip? (normalForm root) (normalForm file') with
      | none =>
        obtain rfl : rest = normalForm file' := by rwa [hstrip, hstrip'] at hparts
        rw [hnormal'] at hstrip hstrip'
        rw [hnormal] at hstrip
        exact absurd hstrip (strip?_ne_of_eq_none hstrip' names)
      | some rest' =>
        obtain rfl : rest = rest' := by rwa [hstrip, hstrip'] at hparts
        rw [strip?_eq_some_iff.mp hstrip, strip?_eq_some_iff.mp hstrip']
  rw [← hfile.normal, ← hfile'.normal, hforms]

/-- **What the identity takes of a stored path tells the stored path.** -/
theorem identityRelative_filePath_injective (hdir : Path.isAbsolute dir = true)
    (hanchor : ctx.anchor? = some dir) (hfile : FileBelow dir file) (hfile' : FileBelow dir file')
    (h : identityRelative (ctx.filePath file) root = identityRelative (ctx.filePath file') root) :
    ctx.filePath file = ctx.filePath file' := by
  rcases root_or_name hdir with hroot | ⟨front, d, hnormal⟩
  · rw [hfile.filePath_of_root hdir hroot hanchor,
      hfile'.filePath_of_root hdir hroot hanchor] at h ⊢
    exact identityRelative_injective hdir hfile hfile' h
  · -- a path that begins with the folder is relative, and is taken as it is
    have hself : ∀ {file}, FileBelow dir file →
        identityRelative (ctx.filePath file) root = ctx.filePath file := by
      intro file hfile
      obtain ⟨own, -, hstored, hnames⟩ := hfile.filePath_of_name hdir hnormal hanchor
      have hrelative := isAbsolute_intercalate fun s hs => (hnames s hs).1.isSegment
      rw [hstored, identityRelative, if_pos (.inr (by simp [hrelative])), ←
        slashed_names fun s hs => (hnames s hs).2, slashed, toSlashes_toSlashes]
    rwa [hself hfile, hself hfile'] at h

end LintLedger.Path
