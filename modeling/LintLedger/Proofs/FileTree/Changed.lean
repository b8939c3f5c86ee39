import LintLedger.Proofs.FileTree.Below

/-!
# Changes that stay below a directory

A program that only makes directories and writes files changes a tree no further than the paths say
that it uses.  Every file that is not where one of the written paths leads is as it was, and no
other file was made.  If all these paths are names below one directory, and no links lead out of it,
nothing outside of that directory has changed.

## Main Definitions

* `FileTree.Changed` -- directories that some paths mean were made, and files that others mean were
  written
* `FileTree.IsBelow` -- a path that is names below a directory
* `FileTree.KeepsOutside` -- the files that are not below a directory are as they were

## Main Statements

* `FileTree.Changed.file_iff_or` -- which files are as they were
* `FileTree.Changed.keepsOutside` -- changes below a directory leave what is outside as it was
-/

namespace LintLedger.FileTree

/-- What a tree comes to when directories that some paths mean are made in it, and files that others
mean are written. -/
inductive Changed (Dir File : String → Prop) (t : FileTree) : FileTree → Prop where
  | refl : Changed Dir File t t
  | made {t₁ t₂ : FileTree} {path : String} :
      Changed Dir File t t₁ → Dir path → t₁.makeDirs path = .ok t₂ → Changed Dir File t t₂
  | written {t₁ t₂ : FileTree} {path : String} {content : FileContent} :
      Changed Dir File t t₁ → File path → t₁.putContent path content = .ok t₂ →
      Changed Dir File t t₂

/-- A path that is names below a directory, one or more. -/
def IsBelow (dir path : String) : Prop :=
  ∃ names, names ≠ [] ∧ (∀ name ∈ names, Path.IsName name) ∧ path = names.foldl Path.join dir

/-- The files of two trees are the same, but for those that are below a directory or where links
from below it lead. -/
def KeepsOutside (dir : String) (t t' : FileTree) : Prop :=
  ∀ place content executable,
    (t.at? place = some (.file content executable) ↔
      t'.at? place = some (.file content executable)) ∨
    ∃ base, t'.locate dir = .ok base ∧
      (t.PlainBelow base → ∃ names, names ≠ [] ∧ place = base ++ names)

variable {Dir File : String → Prop} {t t' t'' : FileTree}

/-! ## Making directories -/

/-- Making directories makes no files. -/
theorem file_of_makeDirsFrom {done : String} {parts : List Path.Component}
    (h : t.makeDirsFrom done parts = .ok t') {place : List String} {content : FileContent}
    {executable : Bool} (hfile : t'.at? place = some (.file content executable)) :
    t.at? place = some (.file content executable) := by
  induction parts generalizing t done with
  | nil =>
    cases h
    exact hfile
  | cons c rest ih =>
    unfold makeDirsFrom at h
    dsimp only at h
    split at h
    · cases h
    · split at h
      · exact ih h
      · cases h
      · rcases Node.at?_put_cases rfl (ih h) with ⟨more, -, hmore⟩ | hold
        · -- what was put is a directory with nothing in it
          cases more <;> cases hmore
        · exact hold

/-- The files after making directories are those before. -/
theorem file_iff_of_makeDirs {path : String} (h : t.makeDirs path = .ok t') {place : List String}
    {content : FileContent} {executable : Bool} :
    t.at? place = some (.file content executable) ↔
      t'.at? place = some (.file content executable) := by
  constructor
  · intro hfile
    obtain ⟨m, hm, rfl | ⟨hdir, -⟩⟩ := intact_of_makeDirsFrom h place _ hfile
    · exact hm
    · cases hdir
  · exact file_of_makeDirsFrom h

/-! ## Writing files -/

/-- The files after one was written are those before, but for the one that was written. -/
theorem file_iff_of_put {place other : List String} {content content' : FileContent}
    {executable executable' : Bool} (hplain : ∀ m, t.at? place = some m → m.isDir = false)
    (hne : other ≠ place) :
    t.at? other = some (.file content' executable') ↔
      (Node.put (.file content executable) place t).at? other =
        some (.file content' executable') := by
  constructor
  · exact fun hfile => Node.at?_put_of_ne hplain hfile hne
  · intro hfile
    rcases Node.at?_put_cases rfl hfile with ⟨rest, rfl, hrest⟩ | hold
    · -- nothing is below a file
      cases rest with
      | nil => exact absurd (List.append_nil place) hne
      | cons _ _ => cases hrest
    · exact hold

namespace Changed

theorem trans (first : Changed Dir File t t') (second : Changed Dir File t' t'') :
    Changed Dir File t t'' := by
  induction second with
  | refl => exact first
  | made _ hpath h ih => exact ih.made hpath h
  | written _ hpath h ih => exact ih.written hpath h

theorem mono {Dir' File' : String → Prop} (h : Changed Dir File t t')
    (hdirs : ∀ path, Dir path → Dir' path) (hfiles : ∀ path, File path → File' path) :
    Changed Dir' File' t t' := by
  induction h with
  | refl => exact .refl
  | made _ hpath h ih => exact ih.made (hdirs _ hpath) h
  | written _ hpath h ih => exact ih.written (hfiles _ hpath) h

/-- Changes make no links. -/
theorem linked (h : Changed Dir File t t') : Node.Linked t' t := by
  induction h with
  | refl => exact .refl t
  | made _ _ h ih => exact (linked_of_makeDirsFrom h).trans ih
  | written _ _ h ih => exact (linked_of_putContent h).trans ih

/-- **Which files are as they were**: all that are not where a written path leads in the end. -/
theorem file_iff_or (h : Changed Dir File t t') (place : List String) (content : FileContent)
    (executable : Bool) :
    (t.at? place = some (.file content executable) ↔
      t'.at? place = some (.file content executable)) ∨
    ∃ path, File path ∧ t'.locate path = .ok place ∧ (t'.at? place).isSome := by
  -- what a written path led to, it leads to after every further change
  have hstays {t₁ t₂ : FileTree} (hcarries : Node.Carries Node.Alike t₁ t₂)
      (hwritten : ∃ path, File path ∧ t₁.locate path = .ok place ∧ (t₁.at? place).isSome) :
      ∃ path, File path ∧ t₂.locate path = .ok place ∧ (t₂.at? place).isSome := by
    obtain ⟨path, hpath, hlocate, hsome⟩ := hwritten
    obtain ⟨m, hm⟩ := Option.isSome_iff_exists.mp hsome
    obtain ⟨m', hm', -⟩ := hcarries place m hm
    exact ⟨path, hpath, locate_of_carries hcarries hlocate (.inl hsome), by rw [hm']; rfl⟩
  induction h with
  | refl => exact .inl Iff.rfl
  | made _ _ h ih =>
    rcases ih with hsame | hwritten
    · exact .inl (hsame.trans (file_iff_of_makeDirs h))
    · exact .inr (hstays (carries_of_makeDirs h) hwritten)
  | @written t₁ t₂ path content' _ hpath h ih =>
    have hcarries := carries_of_putContent h
    obtain ⟨where', executable', hlocate, rfl, hold⟩ := exists_put_of_putContent h
    by_cases hplace : place = where'
    · subst hplace
      have hself := Node.at?_put_self (settled_of_locate hlocate).hasRoom
        (.file content' executable')
      refine .inr ⟨path, hpath, ?_, by rw [hself]; rfl⟩
      exact locate_of_carries hcarries hlocate (.inr ⟨content', executable', hself⟩)
    · rcases ih with hsame | hwritten
      · exact .inl (hsame.trans (file_iff_of_put (fun m hm => (hold m hm).1) hplace))
      · exact .inr (hstays hcarries hwritten)

/-- **Changes below a directory leave what is outside as it was.** -/
theorem keepsOutside {dir : String} (hdir : dir ≠ "") (h : Changed Dir File t t')
    (hfiles : ∀ path, File path → IsBelow dir path) : KeepsOutside dir t t' := by
  intro place content executable
  apply (h.file_iff_or place content executable).imp_right
  rintro ⟨path, hpath, hlocate, -⟩
  obtain ⟨names, hne, hnames, rfl⟩ := hfiles path hpath
  obtain ⟨base, hbase, -, hspelled⟩ := locate_foldl_join hdir hnames hne hlocate
  refine ⟨base, hbase, fun hplain => ⟨names, hne, hspelled ?_⟩⟩
  -- a link below the directory would have been there before
  exact fun below target hlink => hplain below target (h.linked _ _ hlink)

end Changed

end LintLedger.FileTree
