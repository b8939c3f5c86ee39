import LintLedger.Proofs.Path.Relative
import Mathlib.Data.List.Infix

/-!
# Common ancestors

Where nothing else tells the root of a report, it is named after the common ancestor of the files in
it.  What two paths share is the longest list of components with which both normal forms begin, and
in the order of lists by what they begin with this is the greatest lower bound.  So the common
ancestor of many paths is the greatest lower bound of their normal forms, and neither the order of
the paths nor how often one of them is listed has a part in it.

## Main Definitions

* `Path.CommonFront` -- components with which every path begins

## Main Statements

* `Path.prefix_sharedFront_iff` -- what two lists share is their greatest lower bound
* `Path.commonAncestor_eq_some_iff` -- the common ancestor is the longest common front
* `Path.commonAncestor_longest` -- when there is one, which one it is, and what it depends on
-/

namespace LintLedger.Path

variable {front a b c first : List Component} {rest : List (List Component)} {paths : List String}

/-! ## What lists share -/

/-- **What two lists share** begins with what both of them begin with, and with nothing else. -/
theorem prefix_sharedFront_iff : front <+: sharedFront a b ↔ front <+: a ∧ front <+: b := by
  induction a generalizing front b with
  | nil => simp +contextual [sharedFront]
  | cons x a ih =>
    cases b with
    | nil => simp +contextual [sharedFront]
    | cons y b =>
      cases front with
      | nil => simp
      | cons f front =>
        rw [sharedFront, List.cons_prefix_cons, List.cons_prefix_cons]
        split
        · rename_i heq
          rw [List.cons_prefix_cons, ih, ← heq]
          tauto
        · rename_i hne
          refine iff_of_false (by simp) ?_
          rintro ⟨⟨rfl, -⟩, rfl, -⟩
          exact hne rfl

/-- What many lists share is found one list at a time. -/
theorem prefix_foldl_sharedFront_iff :
    front <+: rest.foldl sharedFront first ↔ ∀ parts ∈ first :: rest, front <+: parts := by
  induction rest generalizing first with
  | nil => simp
  | cons parts rest ih =>
    simp only [List.foldl_cons, ih, List.forall_mem_cons, prefix_sharedFront_iff, and_assoc]

/-! ## Common fronts -/

/-- Components with which the normal form of every path begins.  Empty paths do not count, and there
is a path that does. -/
structure CommonFront (paths : List String) (front : List Component) : Prop where
  exists_path : ∃ p ∈ paths, p ≠ ""
  begins : ∀ p ∈ paths, p ≠ "" → front <+: normalForm p

/-- The paths that count decide what a common front is. -/
theorem commonFront_congr {paths' : List String} (h : ∀ p, p ≠ "" → (p ∈ paths' ↔ p ∈ paths)) :
    CommonFront paths' front ↔ CommonFront paths front := by
  constructor
  · rintro ⟨⟨p, hp, hne⟩, hbegins⟩
    exact ⟨⟨p, (h p hne).mp hp, hne⟩, fun q hq hq' => hbegins q ((h q hq').mpr hq) hq'⟩
  · rintro ⟨⟨p, hp, hne⟩, hbegins⟩
    exact ⟨⟨p, (h p hne).mpr hp, hne⟩, fun q hq hq' => hbegins q ((h q hq').mp hq) hq'⟩

theorem not_commonFront (h : (paths.filter (· ≠ "")).map normalForm = []) :
    ¬ CommonFront paths front := by
  rintro ⟨⟨p, hp, hne⟩, -⟩
  have hmem : normalForm p ∈ (paths.filter (· ≠ "")).map normalForm :=
    List.mem_map_of_mem (List.mem_filter.mpr ⟨hp, by simpa using hne⟩)
  rw [h] at hmem
  cases hmem

/-- The common fronts are what the shared components begin with. -/
theorem commonFront_iff (h : (paths.filter (· ≠ "")).map normalForm = first :: rest) :
    CommonFront paths front ↔ front <+: rest.foldl sharedFront first := by
  rw [prefix_foldl_sharedFront_iff, ← h]
  simp only [List.forall_mem_map, List.mem_filter, decide_eq_true_eq, and_imp]
  refine ⟨fun hfront => hfront.begins, fun hbegins => ⟨?_, hbegins⟩⟩
  obtain ⟨p, hp, -⟩ := List.mem_map.mp (h ▸ List.mem_cons_self :
    first ∈ (paths.filter (· ≠ "")).map normalForm)
  obtain ⟨hmem, hne⟩ := List.mem_filter.mp hp
  exact ⟨p, hmem, by simpa using hne⟩

/-- The common ancestor is what the paths share, if they share a component. -/
theorem commonAncestor_eq_some_iff_shared
    (h : (paths.filter (· ≠ "")).map normalForm = first :: rest) :
    commonAncestor paths = some c ↔ c ≠ [] ∧ rest.foldl sharedFront first = c := by
  rw [commonAncestor, h]
  dsimp only
  cases rest.foldl sharedFront first with
  | nil =>
    refine iff_of_false nofun ?_
    rintro ⟨hne, rfl⟩
    exact hne rfl
  | cons x shared =>
    constructor
    · rintro ⟨⟩
      exact ⟨List.cons_ne_nil x shared, rfl⟩
    · rintro ⟨-, rfl⟩
      rfl

/-- **The common ancestor is the longest common front**, unless that is empty. -/
theorem commonAncestor_eq_some_iff :
    commonAncestor paths = some c ↔
      c ≠ [] ∧ CommonFront paths c ∧ ∀ front, CommonFront paths front → front <+: c := by
  cases hforms : (paths.filter (· ≠ "")).map normalForm with
  | nil =>
    rw [commonAncestor, hforms]
    exact iff_of_false nofun fun h => not_commonFront hforms h.2.1
  | cons first rest =>
    rw [commonAncestor_eq_some_iff_shared hforms]
    simp only [commonFront_iff hforms]
    refine and_congr_right fun _ => ⟨?_, ?_⟩
    · rintro rfl
      exact ⟨List.prefix_rfl, fun _ hfront => hfront⟩
    · -- the shared components are a common front themselves, so the longest one begins with them
      rintro ⟨hfront, hlongest⟩
      exact antisymm (r := (· <+: ·)) (hlongest _ List.prefix_rfl) hfront

/-! ## Ancestors as texts -/

/-- What a normal form begins with is told from its text. -/
theorem components_assemble_of_prefix {p : String} (h : front <+: normalForm p) :
    components (assemble front) = front := by
  cases habsolute : isAbsolute p with
  | true =>
    obtain ⟨names, hnormal, hnames⟩ := normalForm_of_isAbsolute habsolute
    rw [hnormal, List.prefix_cons_iff] at h
    obtain rfl | ⟨inner, rfl, hinner⟩ := h
    · rfl
    · obtain ⟨own, hown, rfl⟩ := List.prefix_map_iff.mp hinner
      exact components_assemble fun s hs => hnames s (hown.subset hs)
  | false =>
    exact components_assemble_of_inner fun c hc =>
      isInner_of_mem_normalForm habsolute c (h.subset hc)

/-- **The longest common ancestor.**  Paths have a common ancestor exactly if they have a common
front that is not empty.  It is the longest common front, and its components are told from its text.
It depends on nothing but which paths there are: neither on their order, nor on how often a path is
listed, nor on empty ones. -/
theorem commonAncestor_longest (paths : List String) :
    ((∃ c, commonAncestor paths = some c) ↔ ∃ front, front ≠ [] ∧ CommonFront paths front) ∧
    (∀ c, commonAncestor paths = some c →
      c ≠ [] ∧ CommonFront paths c ∧ (∀ front, CommonFront paths front → front <+: c) ∧
        components (assemble c) = c) ∧
    ∀ paths', (∀ p, p ≠ "" → (p ∈ paths' ↔ p ∈ paths)) →
      commonAncestor paths' = commonAncestor paths := by
  refine ⟨⟨?_, ?_⟩, ?_, ?_⟩
  · rintro ⟨c, hc⟩
    obtain ⟨hne, hfront, -⟩ := commonAncestor_eq_some_iff.mp hc
    exact ⟨c, hne, hfront⟩
  · rintro ⟨front, hne, hfront⟩
    cases hforms : (paths.filter (· ≠ "")).map normalForm with
    | nil => exact absurd hfront (not_commonFront hforms)
    | cons first rest =>
      refine ⟨rest.foldl sharedFront first, commonAncestor_eq_some_iff.mpr ⟨?_, ?_, ?_⟩⟩
      · intro hnil
        rw [commonFront_iff hforms, hnil, List.prefix_nil] at hfront
        exact hne hfront
      · exact (commonFront_iff hforms).mpr List.prefix_rfl
      · exact fun _ => (commonFront_iff hforms).mp
  · intro c hc
    obtain ⟨hne, hfront, hmax⟩ := commonAncestor_eq_some_iff.mp hc
    obtain ⟨p, hp, hp'⟩ := hfront.exists_path
    exact ⟨hne, hfront, hmax, components_assemble_of_prefix (hfront.begins p hp hp')⟩
  · intro paths' hsame
    refine Option.ext fun c => ?_
    simp only [commonAncestor_eq_some_iff, commonFront_congr hsame]

/-- Two files in a folder beside the working directory, in another order, one of them twice and an
empty path left out. -/
theorem commonAncestor_longest_of_siblings :
    let paths := ["../x/./a.py", "", "../x/y/../b.py"]
    let paths' := ["../x/y/../b.py", "../x/./a.py", "../x/y/../b.py"]
    commonAncestor paths = some [.up, .name "x"] ∧
      (∀ front, CommonFront paths front → front <+: [.up, .name "x"]) ∧
      components "../x" = [.up, .name "x"] ∧
      (∀ p, p ≠ "" → (p ∈ paths' ↔ p ∈ paths)) ∧
      commonAncestor paths' = some [.up, .name "x"] := by
  intro paths paths'
  have hancestor : commonAncestor paths = some [.up, .name "x"] := by decide
  have hsame : ∀ p, p ≠ "" → (p ∈ paths' ↔ p ∈ paths) := by
    intro p hp
    simp only [paths, paths', List.mem_cons, List.not_mem_nil, or_false, hp, false_or]
    tauto
  obtain ⟨-, hspec, hcongr⟩ := commonAncestor_longest paths
  obtain ⟨-, -, hlongest, htext⟩ := hspec _ hancestor
  exact ⟨hancestor, hlongest, htext, hsame, (hcongr paths' hsame).trans hancestor⟩

/-- A relative and an absolute path have no common ancestor. -/
example : commonAncestor ["/w/api", "w/api"] = none := by decide

end LintLedger.Path
