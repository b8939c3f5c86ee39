import LintLedger.Project
import LintLedger.Proofs.FileTree.Below
import LintLedger.Proofs.Path.Slug
import Mathlib.Data.List.Lex
import Mathlib.Data.Prod.Lex
import Mathlib.Data.String.Basic

/-!
# What discovery finds

Discovery lists the names that lead to directories and looks for markers behind them.  The walk below
a root is told by an induction on its depth, each directory being a proper tree of its own, and what
lies below the root is then found by the names that lead to it.  The names are found in order; paths
are compared component by component, and the components of a path below a root are those of the root
and the names, so paths are in the order of the names.

On one level a link to a directory is found like a directory, and on several levels no link is.  So a
project is discovered in the one way and lost in the other exactly if it is a link.

## Main Definitions

* `Path.Precedes` -- the order of paths, the first component that differs deciding
* `Project.candidates` -- the directories among which projects are looked for
* `Project.IsBelow` -- a directory that is a project below a root

## Main Statements

* `Project.mem_directories_iff` -- the directories on a walk
* `Project.exists_of_mem_discover` -- how discovered projects are called
* `Project.pairwise_discover` -- projects are discovered in order
* `Project.mem_below_iff` -- what is found below a root without links
* `Project.discover_linkless` -- what is discovered below a root without links
* `Project.discover_recursive_iff` -- what of one level is discovered on several
-/

namespace LintLedger

/-! ## The order of paths -/

namespace Path

/-- The rank of a kind of components. -/
def Component.rank : Component → Nat
  | .root => 0
  | .here => 1
  | .up => 2
  | .name _ => 3

/-- What a component is compared by: its kind, and for names their texts. -/
def Component.key (c : Component) : Nat ×ₗ String := toLex (c.rank, c.text)

/-- A path comes before another if the first of their components that differ does, or if it is
where the other goes on from. -/
def Precedes (p q : String) : Prop :=
  (components p).map Component.key < (components q).map Component.key

theorem key_name_lt {s s' : String} (h : s < s') :
    (Component.name s).key < (Component.name s').key :=
  Prod.Lex.toLex_lt_toLex.mpr (.inr ⟨rfl, h⟩)

end Path

namespace Project

variable {t : FileTree} {root : String} {place : List String} {recursive : Bool}

/-! ## Paths below a root -/

@[simp] theorem pathBelow_nil (root : String) : pathBelow root [] = root := rfl

theorem pathBelow_singleton (root name : String) :
    pathBelow root [name] = Path.join root name := rfl

theorem pathBelow_concat (root : String) (front : List String) (last : String) :
    pathBelow root (front ++ [last]) = Path.join (pathBelow root front) last := by
  rw [pathBelow, List.foldl_concat, pathBelow]

/-- The components of a path below a root are those of the root and the names. -/
theorem components_pathBelow (root : String) {names : List String}
    (h : ∀ name ∈ names, Path.IsName name) :
    Path.components (pathBelow root names) = Path.components root ++ Path.named names := by
  induction names using List.reverseRecOn with
  | nil => simp [Path.named]
  | append_singleton front name ih =>
    rw [pathBelow_concat, Path.components_join_name _ (h name (by simp)),
      ih fun s hs => h s (List.mem_append_left _ hs), Path.named_append, List.append_assoc]
    rfl

/-- Different names lead to different paths. -/
theorem pathBelow_injective {names more : List String} (h : ∀ name ∈ names, Path.IsName name)
    (hmore : ∀ name ∈ more, Path.IsName name) (heq : pathBelow root names = pathBelow root more) :
    names = more := by
  have hparts := congrArg Path.components heq
  rw [components_pathBelow root h, components_pathBelow root hmore,
    List.append_cancel_left_eq] at hparts
  exact Path.named_injective hparts

/-- **Paths below a root are in the order of their names.** -/
theorem precedes_pathBelow (root : String) {names more : List String}
    (h : ∀ name ∈ names, Path.IsName name) (hmore : ∀ name ∈ more, Path.IsName name)
    (hlt : names < more) : Path.Precedes (pathBelow root names) (pathBelow root more) := by
  rw [Path.Precedes, components_pathBelow root h, components_pathBelow root hmore, List.map_append,
    List.map_append, Path.named, Path.named, List.map_map, List.map_map]
  exact List.append_left_lt (List.map_lt (fun _ _ => Path.key_name_lt) hlt)

/-! ## Sorting -/

theorem mem_withoutRepeats {found : List (List String)} {names : List String} :
    names ∈ withoutRepeats found ↔ names ∈ found := by
  fun_induction withoutRepeats found with
  | case1 a rest ih => simp [ih]
  | case2 a b rest hne ih => rw [List.mem_cons, ih, ← List.mem_cons]
  | case3 found => rfl

/-- Lists of names are compared as the library compares lists. -/
theorem precedes_iff {a b : List String} : precedes a b = true ↔ a ≤ b := by
  induction a generalizing b with
  | nil => exact iff_of_true rfl (not_lt.mp (List.not_lt_nil b))
  | cons s rest ih =>
    cases b with
    | nil => exact iff_of_false Bool.false_ne_true (not_le.mpr (List.nil_lt_cons s rest))
    | cons s' rest' =>
      rw [precedes, le_iff_eq_or_lt, List.cons_lt_cons_iff]
      split
      · rename_i heq
        rw [ih, le_iff_eq_or_lt]
        simp [heq]
      · rename_i hne
        simp [hne]

/-- A list in order is in strict order without its repeats. -/
theorem pairwise_withoutRepeats {found : List (List String)} (h : found.Pairwise (· ≤ ·)) :
    (withoutRepeats found).Pairwise (· < ·) := by
  fun_induction withoutRepeats found with
  | case1 a rest ih => exact ih h.of_cons
  | case2 a b rest hne ih =>
    obtain ⟨hfirst, hrest⟩ := List.pairwise_cons.mp h
    refine List.pairwise_cons.mpr ⟨fun names hnames => ?_, ih hrest⟩
    have hlt : a < b := lt_of_le_of_ne (hfirst b List.mem_cons_self) hne
    rcases List.mem_cons.mp (mem_withoutRepeats.mp hnames) with rfl | hlater
    · exact hlt
    · exact hlt.trans_le ((List.pairwise_cons.mp hrest).1 names hlater)
  | case3 found hshort =>
    cases found with
    | nil => exact .nil
    | cons a rest =>
      cases rest with
      | nil => exact List.pairwise_singleton _ a
      | cons b rest => exact absurd rfl (hshort a b rest)

/-- What is found below a root is found in order. -/
theorem pairwise_below (t : FileTree) (root : String) (recursive : Bool) :
    (below t root recursive).Pairwise (· < ·) := by
  refine pairwise_withoutRepeats ?_
  refine (List.pairwise_mergeSort ?_ ?_ _).imp precedes_iff.mp
  · intro a b c hab hbc
    exact precedes_iff.mpr ((precedes_iff.mp hab).trans (precedes_iff.mp hbc))
  · intro a b
    rw [Bool.or_eq_true, precedes_iff, precedes_iff]
    exact le_total a b

/-! ## Found and discovered -/

/-- The directories among which projects are looked for, by the names that lead to them. -/
def candidates (t : FileTree) (root : String) (recursive : Bool) : List (List String) :=
  match t.node? root with
  | some n => if recursive then directories maxDepth n else children t root n
  | none => []

/-- What is found below a root are the directories with a marker. -/
theorem mem_below {names : List String} :
    names ∈ below t root recursive ↔
      names ∈ candidates t root recursive ∧ isProject t (pathBelow root names) = true := by
  rw [below, mem_withoutRepeats, List.mem_mergeSort, List.mem_filter]
  rfl

/-- What is discovered is what is found, or the root if nothing is. -/
theorem mem_discover {p : String} : p ∈ discover t root recursive ↔
    (below t root recursive = [] ∧ p = root) ∨
      ∃ names ∈ below t root recursive, pathBelow root names = p := by
  unfold discover
  split
  · rename_i hnone
    simp [hnone]
  · rename_i hsome
    rw [List.mem_map]
    exact (or_iff_right fun hnone => hsome hnone.1).symm

theorem discover_eq_of_below_eq_nil (h : below t root recursive = []) :
    discover t root recursive = [root] := by
  rw [discover, h]

/-- Something is always discovered. -/
theorem discover_ne_nil (t : FileTree) (root : String) (recursive : Bool) :
    discover t root recursive ≠ [] := by
  unfold discover
  split
  · exact List.cons_ne_nil _ _
  · rename_i hsome
    exact mt List.map_eq_nil_iff.mp hsome

/-- What is found is discovered. -/
theorem mem_discover_of_mem_below {names : List String} (h : names ∈ below t root recursive) :
    pathBelow root names ∈ discover t root recursive :=
  mem_discover.mpr (.inr ⟨names, h, rfl⟩)

/-! ## How discovered projects are called -/

theorem ne_nil_of_mem_directories {depth : Nat} {n : Node} {names : List String}
    (h : names ∈ directories depth n) : names ≠ [] := by
  cases depth with
  | zero => cases h
  | succ depth =>
    obtain ⟨entry, -, hnames⟩ := List.mem_flatMap.mp h
    dsimp only at hnames
    split at hnames
    · cases hnames
    · obtain rfl | hdeeper := List.mem_cons.mp hnames
      · exact List.cons_ne_nil _ _
      · obtain ⟨deeper, -, rfl⟩ := List.mem_map.mp hdeeper
        exact List.cons_ne_nil _ _

/-- What is found below a root has a last name, and where one level is looked at, no other. -/
theorem exists_of_mem_below {names : List String} (h : names ∈ below t root recursive) :
    ∃ front last, names = front ++ [last] ∧ (recursive = false → front = []) := by
  have hfound := (mem_below.mp h).1
  unfold candidates at hfound
  split at hfound
  · split at hfound
    · rename_i hrecursive
      obtain ⟨front, last, rfl⟩ :=
        (List.eq_nil_or_concat' names).resolve_left (ne_nil_of_mem_directories hfound)
      exact ⟨front, last, rfl, fun hflat => by rw [hflat] at hrecursive; cases hrecursive⟩
    · obtain ⟨entry, -, rfl⟩ := List.mem_map.mp hfound
      exact ⟨[], entry.1, rfl, fun _ => rfl⟩
  · cases hfound

/-- **How two discovered projects are called**: each has a last name below the root, and where one
level is looked at, these are all that differs. -/
theorem exists_of_mem_discover {a b : String}
    (ha : a ∈ discover t root recursive) (hb : b ∈ discover t root recursive) (hne : a ≠ b) :
    ∃ front last front' last', a = pathBelow root (front ++ [last]) ∧
      b = pathBelow root (front' ++ [last']) ∧
      (recursive = false → front = [] ∧ front' = [] ∧ last ≠ last') := by
  by_cases hnone : below t root recursive = []
  · rw [discover_eq_of_below_eq_nil hnone, List.mem_singleton] at ha hb
    exact absurd (ha.trans hb.symm) hne
  · obtain ⟨names, hnames, rfl⟩ := (mem_discover.mp ha).resolve_left fun h => hnone h.1
    obtain ⟨names', hnames', rfl⟩ := (mem_discover.mp hb).resolve_left fun h => hnone h.1
    obtain ⟨front, last, rfl, hfront⟩ := exists_of_mem_below hnames
    obtain ⟨front', last', rfl, hfront'⟩ := exists_of_mem_below hnames'
    refine ⟨front, last, front', last', rfl, rfl, fun hflat => ⟨hfront hflat, hfront' hflat, ?_⟩⟩
    rintro rfl
    rw [hfront hflat, hfront' hflat] at hne
    exact hne rfl

/-! ## The walk below a directory -/

/-- Names on a walk begin with that of a directory among the entries, and go on below it. -/
theorem cons_mem_directories_iff {depth : Nat} {n : Node} (h : n.Proper) {name : String}
    {rest : List String} :
    name :: rest ∈ directories (depth + 1) n ↔
      ∃ child, n.child? name = some child ∧ child.isDir = true ∧ name ∉ excluded ∧
        (rest = [] ∨ rest ∈ directories depth child) := by
  cases n with
  | dir entries =>
    rw [directories, List.mem_flatMap]
    constructor
    · rintro ⟨⟨name', child⟩, hentry, hnames⟩
      dsimp only at hnames
      split at hnames
      · cases hnames
      · rename_i hkept
        rw [Bool.not_eq_true, Bool.or_eq_false_iff, Bool.not_eq_false', List.contains_eq_mem,
          decide_eq_false_iff_not] at hkept
        obtain ⟨rfl, hrest⟩ : name = name' ∧ (rest = [] ∨ rest ∈ directories depth child) := by
          rcases List.mem_cons.mp hnames with heq | hdeeper
          · exact ⟨(List.cons.inj heq).1, .inl (List.cons.inj heq).2⟩
          · obtain ⟨deeper, hmem, heq⟩ := List.mem_map.mp hdeeper
            obtain ⟨rfl, rfl⟩ := List.cons.inj heq
            exact ⟨rfl, .inr hmem⟩
        exact ⟨child, h.child?_eq_some_iff.mpr hentry, hkept.2, hkept.1, hrest⟩
    · rintro ⟨child, hchild, hdir, hplain, hrest⟩
      refine ⟨(name, child), h.child?_eq_some_iff.mp hchild, ?_⟩
      dsimp only
      rw [if_neg (by simp [hdir, hplain])]
      rcases hrest with rfl | hdeeper
      · exact List.mem_cons_self
      · exact List.mem_cons_of_mem _ (List.mem_map_of_mem hdeeper)
  | _ => simp [directories, Node.child?, Node.entries?]

/-- **The directories on a walk** are those at most as deep as it goes, with no excluded name on the
way. -/
theorem mem_directories_iff {depth : Nat} {n : Node} (h : n.Proper) {names : List String} :
    names ∈ directories depth n ↔
      names ≠ [] ∧ names.length ≤ depth ∧ (n.at? names).any Node.isDir = true ∧
        ∀ name ∈ names, name ∉ excluded := by
  induction depth generalizing n names with
  | zero =>
    rw [directories]
    refine iff_of_false List.not_mem_nil fun hnames => hnames.1 ?_
    exact List.eq_nil_of_length_eq_zero (Nat.le_zero.mp hnames.2.1)
  | succ depth ih =>
    cases names with
    | nil => exact iff_of_false (fun hnil => ne_nil_of_mem_directories hnil rfl) fun h => h.1 rfl
    | cons name rest =>
      rw [cons_mem_directories_iff h]
      constructor
      · rintro ⟨child, hchild, hdir, hname, rfl | hrest⟩
        · refine ⟨List.cons_ne_nil _ _, by simp, ?_, List.forall_mem_singleton.mpr hname⟩
          rwa [Node.at?_singleton, hchild]
        · obtain ⟨-, hlength, hat, hnames⟩ := (ih (h.child? hchild)).mp hrest
          refine ⟨List.cons_ne_nil _ _, Nat.succ_le_succ hlength, ?_,
            List.forall_mem_cons.mpr ⟨hname, hnames⟩⟩
          rwa [Node.at?, hchild]
      · rintro ⟨-, hlength, hat, hnames⟩
        obtain ⟨hname, hrest⟩ := List.forall_mem_cons.mp hnames
        obtain ⟨m, hm, hdir⟩ := (Option.any_eq_true _ _).mp hat
        obtain ⟨child, hchild, hbehind⟩ := Option.bind_eq_some_iff.mp hm
        by_cases hlast : rest = []
        · subst hlast
          cases hbehind
          exact ⟨_, hchild, hdir, hname, .inl rfl⟩
        · refine ⟨child, hchild, Node.isDir_of_at? hbehind hlast, hname, .inr ?_⟩
          refine (ih (h.child? hchild)).mpr ⟨hlast, Nat.le_of_succ_le_succ hlength, ?_, hrest⟩
          rwa [hbehind]

/-- What leads to a directory on a walk is names. -/
theorem isName_of_mem_directories {depth : Nat} {n : Node} (h : n.Proper) {names : List String}
    (hnames : names ∈ directories depth n) : ∀ name ∈ names, Path.IsName name := by
  obtain ⟨m, hm, -⟩ := (Option.any_eq_true _ _).mp ((mem_directories_iff h).mp hnames).2.2.1
  exact h.isName hm

/-- **The directories on one level** are the entries that mean directories, links among them. -/
theorem mem_children_iff {n : Node} (h : n.Proper) {names : List String} :
    names ∈ children t root n ↔
      ∃ name child, names = [name] ∧ n.child? name = some child ∧
        t.isDir (Path.join root name) = true ∧ name ∉ excluded := by
  cases n with
  | dir entries =>
    rw [children, List.mem_map]
    constructor
    · rintro ⟨⟨name, child⟩, hentry, rfl⟩
      obtain ⟨hmem, hkept⟩ := List.mem_filter.mp hentry
      exact ⟨name, child, rfl, h.child?_eq_some_iff.mpr hmem, by simpa using hkept⟩
    · rintro ⟨name, child, rfl, hchild, hdir, hname⟩
      refine ⟨(name, child), List.mem_filter.mpr ⟨h.child?_eq_some_iff.mp hchild, ?_⟩, rfl⟩
      simpa [hname] using hdir
  | _ => simp [children, Node.child?, Node.entries?]

/-! ## Below a root -/

section Proper

variable (hproper : t.Proper)
include hproper

/-- What is found below a root is found under names. -/
theorem isName_of_mem_below {names : List String} (h : names ∈ below t root recursive) :
    ∀ name ∈ names, Path.IsName name := by
  have hfound := (mem_below.mp h).1
  unfold candidates at hfound
  split at hfound
  · rename_i n hn
    obtain ⟨place, -, hat⟩ := FileTree.node?_eq_some_iff.mp hn
    have hnProper : n.Proper := hproper.at? hat
    split at hfound
    · exact isName_of_mem_directories hnProper hfound
    · obtain ⟨name, child, rfl, hchild, -⟩ := (mem_children_iff hnProper).mp hfound
      exact hnProper.isName ((Node.at?_singleton name n).trans hchild)
  · cases hfound

/-- Paths below a root are discovered if their names are found. -/
theorem mem_discover_pathBelow_iff {names : List String} (hnames : ∀ name ∈ names, Path.IsName name)
    (hne : names ≠ []) :
    pathBelow root names ∈ discover t root recursive ↔ names ∈ below t root recursive := by
  refine ⟨fun h => ?_, mem_discover_of_mem_below⟩
  rcases mem_discover.mp h with ⟨-, hroot⟩ | ⟨more, hmore, heq⟩
  · exact absurd (pathBelow_injective hnames (List.forall_mem_nil _) hroot) hne
  · rwa [← pathBelow_injective (isName_of_mem_below hproper hmore) hnames heq]

/-- The root is discovered if nothing is found below it. -/
theorem mem_discover_root_iff :
    root ∈ discover t root recursive ↔ below t root recursive = [] := by
  refine mem_discover.trans ⟨?_, fun h => .inl ⟨h, rfl⟩⟩
  rintro (⟨hnone, -⟩ | ⟨names, hnames, heq⟩)
  · exact hnone
  · -- a path below the root is never the root
    obtain ⟨front, last, rfl, -⟩ := exists_of_mem_below hnames
    have hnil := pathBelow_injective (isName_of_mem_below hproper hnames) (List.forall_mem_nil _)
      (heq.trans (pathBelow_nil root).symm)
    simp at hnil

/-- **Projects are discovered in order.** -/
theorem pairwise_discover (root : String) (recursive : Bool) :
    (discover t root recursive).Pairwise Path.Precedes := by
  unfold discover
  split
  · exact List.pairwise_singleton _ root
  · exact List.pairwise_map.mpr ((pairwise_below t root recursive).imp_of_mem
      fun hnames hmore hlt => precedes_pathBelow root (isName_of_mem_below hproper hnames)
        (isName_of_mem_below hproper hmore) hlt)

/-- An entry of a root is found if it is a directory, with or without links being followed. -/
theorem singleton_mem_below_iff {n child : Node} (hroot : t.node? root = some n) {name : String}
    (hchild : n.child? name = some child) :
    [name] ∈ below t root recursive ↔
      (if recursive then child.isDir else t.isDir (Path.join root name)) = true ∧
        name ∉ excluded ∧ isProject t (Path.join root name) = true := by
  obtain ⟨place, -, hat⟩ := FileTree.node?_eq_some_iff.mp hroot
  have hn : n.Proper := hproper.at? hat
  rw [mem_below, candidates, hroot, pathBelow_singleton, ← and_assoc]
  refine and_congr_left fun _ => ?_
  dsimp only
  cases recursive with
  | true =>
    rw [if_pos rfl, if_pos rfl, show maxDepth = 3 + 1 from rfl, cons_mem_directories_iff hn]
    simp [hchild]
  | false =>
    rw [if_neg Bool.false_ne_true, if_neg Bool.false_ne_true, mem_children_iff hn]
    simp [hchild]

end Proper

/-! ## Below a root without links -/

/-- How deep discovery looks below a root. -/
def reach (recursive : Bool) : Nat := if recursive then maxDepth else 1

/-- What lies below a place and is a project: a directory that is not too deep, with a marker in it
and no excluded name on the way to it. -/
structure IsBelow (t : FileTree) (place : List String) (recursive : Bool) (names : List String) :
    Prop where
  ne_nil : names ≠ []
  length_le : names.length ≤ reach recursive
  isDir : t.isDirAt (place ++ names) = true
  marked : ∃ marker ∈ markers, (t.at? (place ++ names ++ [marker])).isSome = true
  plain : ∀ name ∈ names, name ∉ excluded

theorem isName_of_mem_markers {marker : String} (h : marker ∈ markers) : Path.IsName marker := by
  revert marker
  decide

/-- What leads to a directory in a proper tree is names. -/
theorem isName_of_isDirAt (hproper : t.Proper) {names : List String}
    (h : t.isDirAt (place ++ names) = true) : ∀ name ∈ names, Path.IsName name := by
  obtain ⟨entries, hentries⟩ := FileTree.isDirAt_iff.mp h
  exact fun name hname => hproper.isName hentries name (List.mem_append_right _ hname)

section Linkless

variable (hroot : t.locate root = .ok place) (hdir : t.isDirAt place = true)
  (hplain : t.PlainBelow place)
include hroot hdir hplain

/-- Whether a path below a root is a directory is decided by what is there. -/
theorem isDir_pathBelow {names : List String} (h : ∀ name ∈ names, Path.IsName name) :
    t.isDir (pathBelow root names) = t.isDirAt (place ++ names) := by
  rw [FileTree.isDir, pathBelow, FileTree.node?_foldl_join hroot hdir hplain h, FileTree.isDirAt]

/-- A directory below a root is marked by an entry in it. -/
theorem isProject_pathBelow_iff {names : List String} (h : ∀ name ∈ names, Path.IsName name) :
    isProject t (pathBelow root names) = true ↔
      ∃ marker ∈ markers, (t.at? (place ++ names ++ [marker])).isSome = true := by
  rw [isProject, List.any_eq_true]
  refine exists_congr fun marker => and_congr_right fun hmarker => ?_
  have hnames : ∀ name ∈ names ++ [marker], Path.IsName name :=
    List.forall_mem_append.mpr ⟨h, by simpa using isName_of_mem_markers hmarker⟩
  rw [FileTree.exists?, ← pathBelow_concat, pathBelow,
    FileTree.node?_foldl_join hroot hdir hplain hnames, List.append_assoc]

variable (hproper : t.Proper)
include hproper

/-- Projects are looked for among the directories that are not too deep, with no excluded name on
the way. -/
theorem mem_candidates_iff {names : List String} :
    names ∈ candidates t root recursive ↔
      names ≠ [] ∧ names.length ≤ reach recursive ∧ t.isDirAt (place ++ names) = true ∧
        ∀ name ∈ names, name ∉ excluded := by
  obtain ⟨entries, hentries⟩ := FileTree.isDirAt_iff.mp hdir
  rw [candidates, FileTree.node?_of_locate hroot, hentries]
  dsimp only
  cases recursive with
  | true =>
    rw [if_pos rfl, mem_directories_iff (hproper.at? hentries), FileTree.isDirAt, Node.at?_append,
      hentries, Option.bind_some]
    rfl
  | false =>
    rw [if_neg Bool.false_ne_true, mem_children_iff (hproper.at? hentries)]
    constructor
    · rintro ⟨name, child, rfl, hchild, hthere, hname⟩
      have hplace : Node.at? (place ++ [name]) t = some child := by
        rw [Node.at?_concat, hentries, Option.bind_some, hchild]
      have hisName := hproper.isName hplace name (List.mem_append_right _ List.mem_cons_self)
      rw [← pathBelow_singleton, isDir_pathBelow hroot hdir hplain
        (List.forall_mem_singleton.mpr hisName)] at hthere
      exact ⟨List.cons_ne_nil _ _, le_rfl, hthere, List.forall_mem_singleton.mpr hname⟩
    · rintro ⟨hne, hlength, hthere, hnames⟩
      obtain ⟨name, rfl⟩ := List.length_eq_one_iff.mp
        (le_antisymm hlength (List.length_pos_iff.mpr hne))
      obtain ⟨inner, hinner⟩ := FileTree.isDirAt_iff.mp hthere
      rw [Node.at?_concat, hentries, Option.bind_some] at hinner
      refine ⟨name, .dir inner, rfl, hinner, ?_, hnames name List.mem_cons_self⟩
      rwa [← pathBelow_singleton, isDir_pathBelow hroot hdir hplain
        (isName_of_isDirAt hproper hthere)]

/-- **What is found below a root without links** is what is a project there. -/
theorem mem_below_iff {names : List String} :
    names ∈ below t root recursive ↔ IsBelow t place recursive names := by
  rw [mem_below, mem_candidates_iff hroot hdir hplain hproper]
  constructor
  · rintro ⟨⟨hne, hlength, hthere, hnames⟩, hmarked⟩
    rw [isProject_pathBelow_iff hroot hdir hplain (isName_of_isDirAt hproper hthere)] at hmarked
    exact ⟨hne, hlength, hthere, hmarked, hnames⟩
  · intro h
    refine ⟨⟨h.ne_nil, h.length_le, h.isDir, h.plain⟩, ?_⟩
    rw [isProject_pathBelow_iff hroot hdir hplain (isName_of_isDirAt hproper h.isDir)]
    exact h.marked

/-- **What is discovered below a root without links**: something always is, in the order of paths;
everything is a directory at or below the root; a directory below the root is discovered exactly if
it is a project there, and the root exactly if there is no such directory, and then alone. -/
theorem discover_linkless (recursive : Bool) :
    discover t root recursive ≠ [] ∧
    (discover t root recursive).Pairwise Path.Precedes ∧
    (∀ p ∈ discover t root recursive,
      ∃ names, p = pathBelow root names ∧ t.isDirAt (place ++ names) = true) ∧
    (∀ names, names ≠ [] → t.isDirAt (place ++ names) = true →
      (pathBelow root names ∈ discover t root recursive ↔ IsBelow t place recursive names)) ∧
    (root ∈ discover t root recursive ↔ ∀ names, ¬IsBelow t place recursive names) ∧
    (root ∈ discover t root recursive → discover t root recursive = [root]) := by
  have hbelow {names : List String} :
      names ∈ below t root recursive ↔ IsBelow t place recursive names :=
    mem_below_iff hroot hdir hplain hproper
  refine ⟨discover_ne_nil t root recursive, pairwise_discover hproper root recursive,
    fun p hp => ?_, fun names hne hthere => ?_, ?_,
    fun h => discover_eq_of_below_eq_nil ((mem_discover_root_iff hproper).mp h)⟩
  · rcases mem_discover.mp hp with ⟨-, rfl⟩ | ⟨names, hnames, rfl⟩
    · exact ⟨[], rfl, by rwa [List.append_nil]⟩
    · exact ⟨names, rfl, (hbelow.mp hnames).isDir⟩
  · rw [mem_discover_pathBelow_iff hproper (isName_of_isDirAt hproper hthere) hne, hbelow]
  · rw [mem_discover_root_iff hproper, List.eq_nil_iff_forall_not_mem]
    exact forall_congr' fun names => not_congr hbelow

end Linkless

namespace Services

/-- A directory with one entry. -/
def holding (name : String) (n : Node) : Node := .dir [(name, n)]

/-- A directory with one file in it. -/
def marked (marker : String) : Node := holding marker (.file (.data []) false)

/-- A project on the first level, two on the second, and a marker below an excluded name. -/
def tree : FileTree :=
  holding "w" (.dir
    [("apps", holding "site" (marked "tsconfig.json")),
      ("services", .dir
        [(".venv", holding "lib" (marked "pyproject.toml")),
          ("billing", marked "requirements.txt")]),
      ("tools", marked "setup.py")])

theorem proper_holding {name : String} {n : Node} (hname : Path.IsName name) (h : n.Proper) :
    (holding name n).Proper :=
  .dir (List.forall_mem_singleton.mpr hname) (List.nodup_singleton name)
    (List.forall_mem_singleton.mpr h)

theorem linkless_holding {name : String} {n : Node} (h : n.Linkless) :
    (holding name n).Linkless :=
  .dir (List.forall_mem_singleton.mpr h)

theorem proper_marked {marker : String} (h : marker ∈ markers) : (marked marker).Proper :=
  proper_holding (isName_of_mem_markers h) (.file _ _)

theorem linkless_marked (marker : String) : (marked marker).Linkless :=
  linkless_holding (.file _ _)

theorem proper_tree : tree.Proper := by
  refine proper_holding (by decide) (.dir (by decide) (by decide) ?_)
  simp only [List.forall_mem_cons]
  refine ⟨proper_holding (by decide) (proper_marked (by decide)), .dir (by decide) (by decide) ?_,
    proper_marked (by decide), List.forall_mem_nil _⟩
  simp only [List.forall_mem_cons]
  exact ⟨proper_holding (by decide) (proper_marked (by decide)), proper_marked (by decide),
    List.forall_mem_nil _⟩

theorem linkless_tree : tree.Linkless := by
  refine linkless_holding (.dir ?_)
  simp only [List.forall_mem_cons]
  refine ⟨linkless_holding (linkless_marked _), .dir ?_, linkless_marked _, List.forall_mem_nil _⟩
  simp only [List.forall_mem_cons]
  exact ⟨linkless_holding (linkless_marked _), linkless_marked _, List.forall_mem_nil _⟩

theorem locate_root : tree.locate "/w" = .ok ["w"] := by
  refine FileTree.locate_of_at? (by decide) (by decide) (by decide) rfl ?_
  rintro target ⟨⟩

theorem locate_site : tree.locate "/w/apps/site" = .ok ["w", "apps", "site"] := by
  refine FileTree.locate_of_at? (by decide) (by decide) (by decide) rfl ?_
  rintro target ⟨⟩

/-- There is no directory below one that holds nothing but its marker. -/
theorem isDirAt_below_marked {place names : List String} {marker : String}
    (h : tree.at? place = some (marked marker)) (hne : names ≠ []) :
    tree.isDirAt (place ++ names) = false := by
  obtain ⟨name, rest, rfl⟩ := List.exists_cons_of_ne_nil hne
  rw [FileTree.isDirAt, Node.at?_append, h, Option.bind_some, Node.at?]
  by_cases hname : name = marker
  · cases rest <;> simp [marked, holding, Node.child?, Node.entries?, Node.at?, Node.isDir,
      Assoc.find?, hname]
  · simp [marked, holding, Node.child?, Node.entries?, Assoc.find?, hname]

theorem plainBelow (place : List String) : tree.PlainBelow place :=
  fun more target => linkless_tree (place ++ more) target

end Services

open Services in
/-- On one level, the project of the first level is discovered, and on several the projects below it
too, but in neither mode what is below an excluded name, nor the root.  Below an application nothing
is discovered, so that it stands alone. -/
theorem discover_services :
    tree.Proper ∧ tree.locate "/w" = .ok ["w"] ∧ tree.isDirAt ["w"] = true ∧
      tree.PlainBelow ["w"] ∧
      ("/w/tools" ∈ discover tree "/w" false ∧ "/w/apps/site" ∉ discover tree "/w" false ∧
        "/w" ∉ discover tree "/w" false) ∧
      ("/w/tools" ∈ discover tree "/w" true ∧ "/w/apps/site" ∈ discover tree "/w" true ∧
        "/w/services/.venv/lib" ∉ discover tree "/w" true ∧ "/w" ∉ discover tree "/w" true) ∧
      ∀ recursive, discover tree "/w/apps/site" recursive = ["/w/apps/site"] := by
  have hdir : tree.isDirAt ["w"] = true := rfl
  have htools (recursive : Bool) : IsBelow tree ["w"] recursive ["tools"] :=
    ⟨by decide, by cases recursive <;> decide, rfl,
      ⟨"setup.py", by decide, rfl⟩, by decide⟩
  refine ⟨proper_tree, locate_root, hdir, plainBelow _, ?_, ?_, fun recursive => ?_⟩
  · obtain ⟨-, -, -, hiff, hrootIff, -⟩ :=
      discover_linkless locate_root hdir (plainBelow _) proper_tree false
    refine ⟨(hiff ["tools"] (by decide) rfl).mpr (htools false), ?_, ?_⟩
    · intro hsite
      have hsite := (hiff ["apps", "site"] (by decide) rfl).mp hsite
      exact absurd hsite.length_le (by decide)
    · exact fun hroot => hrootIff.mp hroot ["tools"] (htools false)
  · obtain ⟨-, -, -, hiff, hrootIff, -⟩ :=
      discover_linkless locate_root hdir (plainBelow _) proper_tree true
    have hsite : IsBelow tree ["w"] true ["apps", "site"] :=
      ⟨by decide, by decide, rfl, ⟨"tsconfig.json", by decide, rfl⟩,
        by decide⟩
    refine ⟨(hiff ["tools"] (by decide) rfl).mpr (htools true),
      (hiff ["apps", "site"] (by decide) rfl).mpr hsite, ?_, ?_⟩
    · intro hlib
      have hlib := (hiff ["services", ".venv", "lib"] (by decide) rfl).mp hlib
      exact absurd (hlib.plain ".venv" (by decide)) (by decide)
    · exact fun hroot => hrootIff.mp hroot ["tools"] (htools true)
  -- the application holds nothing but its marker, so that it is discovered alone
  · obtain ⟨-, -, -, -, hrootIff, halone⟩ :=
      discover_linkless locate_site rfl (plainBelow _) proper_tree recursive
    refine halone (hrootIff.mpr fun names hbelow => ?_)
    have hnone := isDirAt_below_marked (rfl : tree.at? ["w", "apps", "site"] = _) hbelow.ne_nil
    exact absurd hbelow.isDir (by rw [hnone]; decide)

/-! ## One level and several -/

/-- An entry of a root that means a directory is one, unless it is a link. -/
theorem isDir_child_iff (hproper : t.Proper) {n child : Node} (hroot : t.node? root = some n)
    {name : String} (hchild : n.child? name = some child)
    (hmeant : t.isDir (Path.join root name) = true) :
    child.isDir = true ↔ ∀ target, child ≠ .link target := by
  constructor
  · rintro hdir target rfl
    cases hdir
  · intro hlink
    obtain ⟨place, hplace, hat⟩ := FileTree.node?_eq_some_iff.mp hroot
    have hrootDir : t.isDirAt place = true := by
      rw [FileTree.isDirAt, hat]
      exact Node.isDir_of_at? ((Node.at?_singleton name n).trans hchild) (List.cons_ne_nil _ _)
    have hthere : t.at? (place ++ [name]) = some child := by
      rw [Node.at?_concat, hat, Option.bind_some, hchild]
    have hname : ∀ name' ∈ [name], Path.IsName name' := fun name' h =>
      hproper.isName hthere name' (List.mem_append_right _ h)
    have hfound := FileTree.node?_foldl_join_of_at? hplace hrootDir hname hthere hlink
    rw [FileTree.isDir, ← pathBelow_singleton, pathBelow, hfound] at hmeant
    exact hmeant

/-- **What is discovered on one level is discovered on several, unless it is a link**: the one walk
takes a link to a directory for a directory, and the other does not. -/
theorem discover_recursive_iff (hproper : t.Proper) (hsome : below t root false ≠ []) {p : String}
    (hp : p ∈ discover t root false) :
    ∃ name child, Path.IsName name ∧ p = Path.join root name ∧
      (t.node? root).bind (·.child? name) = some child ∧
      (p ∈ discover t root true ↔ ∀ target, child ≠ .link target) := by
  obtain ⟨names, hnames, rfl⟩ := (mem_discover.mp hp).resolve_left fun h => hsome h.1
  have hcandidate := (mem_below.mp hnames).1
  cases hroot : t.node? root with
  | none =>
    rw [candidates, hroot] at hcandidate
    cases hcandidate
  | some n =>
    obtain ⟨place, -, hat⟩ := FileTree.node?_eq_some_iff.mp hroot
    rw [candidates, hroot] at hcandidate
    obtain ⟨name, child, rfl, hchild, hmeant, -⟩ :=
      (mem_children_iff (hproper.at? hat)).mp hcandidate
    have hname := isName_of_mem_below hproper hnames
    have hmarked := ((singleton_mem_below_iff hproper hroot hchild).mp hnames).2
    refine ⟨name, child, hname name List.mem_cons_self, rfl, hchild, ?_⟩
    rw [mem_discover_pathBelow_iff hproper hname (List.cons_ne_nil _ _),
      singleton_mem_below_iff hproper hroot hchild, and_iff_left hmarked, if_pos rfl,
      isDir_child_iff hproper hroot hchild hmeant]

namespace Linked

open Services (holding marked)

/-- A root with a project and a link to another one. -/
def entries : List (String × Node) :=
  [("api", marked "pyproject.toml"), ("web", .link "/other/web")]

/-- The root, and the project that the link holds. -/
def tree : FileTree :=
  .dir [("other", holding "web" (marked "package.json")), ("w", .dir entries)]

theorem proper_tree : tree.Proper := by
  have hentries : (Node.dir entries).Proper := by
    refine .dir (by decide) (by decide) ?_
    simp only [entries, List.forall_mem_cons]
    exact ⟨Services.proper_marked (by decide), .link _, List.forall_mem_nil _⟩
  refine .dir (by decide) (by decide) ?_
  simp only [List.forall_mem_cons]
  exact ⟨Services.proper_holding (by decide) (Services.proper_marked (by decide)), hentries,
    List.forall_mem_nil _⟩

theorem locate_of_at? {path : String} {place : List String} {entries : List (String × Node)}
    (hne : path ≠ "") (hsteps : FileTree.steps path = place)
    (hat : tree.at? place = some (.dir entries)) : tree.locate path = .ok place := by
  refine FileTree.locate_of_at? hne hsteps (proper_tree.isName hat) hat ?_
  rintro target ⟨⟩

theorem node?_root : tree.node? "/w" = some (.dir entries) :=
  FileTree.node?_eq_some_iff.mpr ⟨["w"], locate_of_at? (by decide) (by decide) rfl, rfl⟩

/-- The link leads to the other project. -/
theorem locate_web : tree.locate "/w/web" = .ok ["other", "web"] := by
  have hroot : tree.at? ([] ++ ["w"]) = some (.dir entries) := rfl
  have hlink : tree.at? (["w"] ++ ["web"]) = some (.link "/other/web") := rfl
  have hother : tree.at? ([] ++ ["other", "web"]) = some (marked "package.json") := rfl
  have hdirs : tree.isDirAt [] = true ∧ tree.isDirAt ["w"] = true := ⟨rfl, rfl⟩
  rw [FileTree.locate_of_steps (by decide) (by decide : _ = ["w", "web"]),
    FileTree.walk_node hdirs.1 (by decide) (by decide) hroot (by rintro target ⟨⟩),
    show FileTree.linkLimit = 39 + 1 from rfl, List.nil_append,
    FileTree.walk_link hdirs.2 (by decide) (by decide) hlink rfl, if_pos (by decide),
    show FileTree.steps "/other/web" ++ [] = ["other", "web"] by decide]
  exact FileTree.walk_of_at? (by decide) hother (by rintro target ⟨⟩)

/-- Both entries of the root are found on one level. -/
theorem mem_below_level {name : String} (h : name ∈ ["api", "web"]) :
    [name] ∈ below tree "/w" false := by
  have hmeant : ∃ place marker, tree.locate (Path.join "/w" name) = .ok place ∧
      tree.at? place = some (marked marker) ∧ marker ∈ markers := by
    simp only [List.mem_cons, List.not_mem_nil, or_false] at h
    rcases h with rfl | rfl
    · exact ⟨["w", "api"], "pyproject.toml",
        locate_of_at? (by decide) (by decide) (rfl : _ = some (marked "pyproject.toml")),
        rfl, by decide⟩
    · exact ⟨["other", "web"], "package.json", locate_web, rfl, by decide⟩
  obtain ⟨place, marker, hlocate, hat, hmarker⟩ := hmeant
  obtain ⟨child, hchild⟩ : ∃ child, (Node.dir entries).child? name = some child := by
    simp only [List.mem_cons, List.not_mem_nil, or_false] at h
    rcases h with rfl | rfl <;> exact ⟨_, rfl⟩
  have hdir : tree.isDirAt place = true := FileTree.isDirAt_iff.mpr ⟨_, hat⟩
  refine (singleton_mem_below_iff proper_tree node?_root hchild).mpr ⟨?_, ?_, ?_⟩
  · rw [if_neg Bool.false_ne_true, FileTree.isDir, FileTree.node?_of_locate hlocate, hat]
    rfl
  · have hplain : ∀ name ∈ ["api", "web"], name ∉ excluded := by decide
    exact hplain name h
  · have hentry : tree.at? (place ++ [marker]) = some (.file (.data []) false) := by
      rw [Node.at?_concat, hat]
      simp [marked, holding, Node.child?, Node.entries?, Assoc.find?]
    refine List.any_eq_true.mpr ⟨marker, hmarker, ?_⟩
    have hfound := FileTree.node?_foldl_join_of_at? hlocate hdir
      (List.forall_mem_singleton.mpr (isName_of_mem_markers hmarker)) hentry
      (by rintro target ⟨⟩)
    rw [List.foldl_cons, List.foldl_nil] at hfound
    rw [FileTree.exists?, hfound]
    rfl

end Linked

open Linked in
/-- Of a directory and a link, both of them discovered on one level, the directory is discovered on
several. -/
theorem discover_recursive_of_directory :
    tree.Proper ∧ below tree "/w" false ≠ [] ∧ "/w/api" ∈ discover tree "/w" false ∧
      "/w/api" ∈ discover tree "/w" true := by
  have hbelow : ["api"] ∈ below tree "/w" false := mem_below_level (by decide)
  have hsome : below tree "/w" false ≠ [] := List.ne_nil_of_mem hbelow
  have hapi : "/w/api" ∈ discover tree "/w" false := mem_discover_of_mem_below hbelow
  obtain ⟨name, child, hname, hpath, hchild, hiff⟩ := discover_recursive_iff proper_tree hsome hapi
  rw [show "/w/api" = pathBelow "/w" ["api"] by decide, ← pathBelow_singleton] at hpath
  have hnames : ["api"] = [name] :=
    pathBelow_injective (by decide) (List.forall_mem_singleton.mpr hname) hpath
  obtain rfl := List.singleton_inj.mp hnames
  refine ⟨proper_tree, hsome, hapi, hiff.mpr ?_⟩
  rw [node?_root] at hchild
  cases hchild
  nofun

open Linked in
/-- **A link that is discovered on one level need not be discovered on several.** -/
theorem not_discover_recursive : ¬∀ (t : FileTree) (root p : String), t.Proper →
    below t root false ≠ [] → p ∈ discover t root false → p ∈ discover t root true := by
  intro h
  have hbelow : ["web"] ∈ below tree "/w" false := mem_below_level (by decide)
  have hweb : "/w/web" ∈ discover tree "/w" true :=
    h tree "/w" "/w/web" proper_tree (List.ne_nil_of_mem hbelow) (mem_discover_of_mem_below hbelow)
  have hlink : (Node.dir entries).child? "web" = some (.link "/other/web") := rfl
  have hrecursive : ["web"] ∈ below tree "/w" true :=
    (mem_discover_pathBelow_iff proper_tree (by decide) (List.cons_ne_nil _ _)).mp hweb
  have hdir := ((singleton_mem_below_iff proper_tree node?_root hlink).mp hrecursive).1
  cases hdir

end Project

end LintLedger
