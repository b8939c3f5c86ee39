import LintLedger.Proofs.Analyzer.Fields

/-!
# The ranks of blocks

Radon gives every block of a file a rank, from A for the best to F for the worst.  The summary of a
file counts the ranks and names the worst of them.  A block without a rank counts as one of the
best, and what a report has in place of a rank is counted as it is, although it is not on the scale;
so the counts add up to the number of blocks.

The worst rank is looked for in the counts, from the end of the scale.  The counts tell of each rank
how often it occurs, so what is found is the last of the ranks that occur, wherever in the file they
stand and however often they do.

## Main Definitions

* `Radon.LastWith` -- the last element of a list with some property
* `Radon.IsWorst` -- the worst rank among some texts

## Main Statements

* `Radon.sum_values_countOf` -- counts add up to the number of texts
* `Radon.countOf_eq_of_perm` -- counts do not depend on the order of the texts
* `Radon.find?_reverse_eq_some_iff` -- the last element is found from the end
* `Radon.isWorst_worstRank` -- the worst rank is found in the counts
* `Radon.ranks_of_blocks` -- what the summary of a file says of the ranks of its blocks
-/

namespace LintLedger

/-! ## Counts -/

/-- One more of something makes one more in all. -/
theorem Assoc.sum_values_modify {m : Assoc Nat} (h : Ascending m) (k : String) :
    (m.modify k fun n => n.getD 0 + 1).values.sum = m.values.sum + 1 := by
  have hcons (p : String × Nat) (rest : Assoc Nat) :
      values (p :: rest) = p.2 :: values rest := rfl
  induction m with
  | nil => rfl
  | cons p rest ih =>
    obtain ⟨k', n⟩ := p
    -- the change is made in front of the first pair, in it or behind it
    rcases lt_trichotomy k k' with hlt | rfl | hgt
    · rw [modify_cons_of_lt h hlt, hcons, List.sum_cons]
      exact Nat.add_comm ..
    · rw [modify_cons_self, hcons, hcons, List.sum_cons, List.sum_cons]
      exact Nat.add_right_comm ..
    · rw [modify_cons_of_gt hgt, hcons, hcons, List.sum_cons, List.sum_cons,
        ih (ascending_cons.mp h).2]
      exact (Nat.add_assoc ..).symm

namespace Radon

variable {names names' : List String} {rank : String}

/-- **Counts add up to the number of texts.** -/
theorem sum_values_countOf (names : List String) : (countOf names).values.sum = names.length := by
  induction names using List.reverseRecOn with
  | nil => rfl
  | append_singleton names last ih =>
    rw [countOf_concat, Assoc.sum_values_modify (ascending_countOf names), ih, List.length_append,
      List.length_singleton]

/-- How often a text occurs, whether or not it does. -/
theorem getD_find?_countOf (names : List String) (name : String) :
    ((countOf names).find? name).getD 0 = names.count name := by
  rw [find?_countOf]
  split
  · rename_i hzero
    exact hzero.symm
  · rfl

/-- **Counts do not depend on the order of the texts.** -/
theorem countOf_eq_of_perm (h : names.Perm names') : countOf names = countOf names' := by
  apply Assoc.eq_of_mem_iff (ascending_countOf names) (ascending_countOf names')
  intro p
  rw [← Assoc.find?_eq_some_iff (ascending_countOf names),
    ← Assoc.find?_eq_some_iff (ascending_countOf names'), find?_countOf, find?_countOf,
    h.count_eq]

/-! ## The worst rank -/

/-- The last element of a list that has some property. -/
structure LastWith (p : String → Bool) (scale : List String) (rank : String) : Prop where
  mem : rank ∈ scale
  holds : p rank = true
  le : ∀ other ∈ scale, p other = true → scale.idxOf other ≤ scale.idxOf rank

section LastWith

variable {p : String → Bool} {front : List String} {last : String}

/-- An element with the property at the end of a list is the last one. -/
theorem lastWith_concat_of_pos (hlast : last ∉ front) (hp : p last = true) :
    LastWith p (front ++ [last]) rank ↔ rank = last := by
  have hend : (front ++ [last]).idxOf last = front.length := by
    rw [List.idxOf_append_of_notMem hlast, List.idxOf_cons_self, Nat.add_zero]
  have hmem : last ∈ front ++ [last] := List.mem_append_right _ List.mem_cons_self
  constructor
  · rintro ⟨hrank, -, hle⟩
    rcases List.mem_append.mp hrank with hfront | hlast'
    · -- an element in front stands before the end
      have hlt := List.idxOf_lt_length_of_mem hfront
      rw [← List.idxOf_append_of_mem hfront] at hlt
      exact absurd (hend ▸ hle last hmem hp) (Nat.not_le_of_lt hlt)
    · exact List.mem_singleton.mp hlast'
  · rintro rfl
    refine ⟨hmem, hp, fun other hother _ => ?_⟩
    have hlt := List.idxOf_lt_length_of_mem hother
    rw [List.length_append, List.length_singleton] at hlt
    rw [hend]
    exact Nat.le_of_lt_succ hlt

/-- An element without the property at the end of a list makes no difference. -/
theorem lastWith_concat_of_neg (hp : p last = false) :
    LastWith p (front ++ [last]) rank ↔ LastWith p front rank := by
  have hmem {name : String} (hname : p name = true) : name ∈ front ++ [last] ↔ name ∈ front := by
    have hne : name ≠ last := by
      rintro rfl
      rw [hp] at hname
      cases hname
    rw [List.mem_append, List.mem_singleton, or_iff_left hne]
  have hplace {name : String} (hname : name ∈ front) :
      (front ++ [last]).idxOf name = front.idxOf name := List.idxOf_append_of_mem hname
  constructor
  · rintro ⟨hrank, hholds, hle⟩
    have hrank' := (hmem hholds).mp hrank
    refine ⟨hrank', hholds, fun other hother hother' => ?_⟩
    rw [← hplace hother, ← hplace hrank']
    exact hle other ((hmem hother').mpr hother) hother'
  · rintro ⟨hrank, hholds, hle⟩
    refine ⟨(hmem hholds).mpr hrank, hholds, fun other hother hother' => ?_⟩
    have hother'' := (hmem hother').mp hother
    rw [hplace hother'', hplace hrank]
    exact hle other hother'' hother'

/-- The last element with a property is the first that is found from the end. -/
theorem find?_reverse_eq_some_iff {scale : List String} (h : scale.Nodup) :
    scale.reverse.find? p = some rank ↔ LastWith p scale rank := by
  induction scale using List.reverseRecOn with
  | nil =>
    constructor
    · exact nofun
    · exact fun hlast => absurd hlast.mem List.not_mem_nil
  | append_singleton front last ih =>
    obtain ⟨hfront, -, hdisjoint⟩ := List.nodup_append.mp h
    have hlast : last ∉ front := fun hmem => hdisjoint last hmem last List.mem_cons_self rfl
    rw [List.reverse_append, List.reverse_singleton, List.singleton_append, List.find?_cons]
    cases hp : p last with
    | true =>
      rw [lastWith_concat_of_pos hlast hp]
      constructor
      · rintro ⟨⟩
        rfl
      · rintro rfl
        rfl
    | false =>
      rw [lastWith_concat_of_neg hp]
      exact ih hfront

end LastWith

/-- The worst rank among some texts: the one of them that is furthest along the scale, or the best
of all if none of them is on the scale. -/
def IsWorst (names : List String) (rank : String) : Prop :=
  (rank ∈ names ∧ rank ∈ ranks ∧
    ∀ other ∈ names, other ∈ ranks → ranks.idxOf other ≤ ranks.idxOf rank) ∨
  rank = "A" ∧ ∀ other ∈ names, other ∉ ranks

theorem IsWorst.mem_ranks (h : IsWorst names rank) : rank ∈ ranks := by
  rcases h with ⟨-, hmem, -⟩ | ⟨rfl, -⟩
  · exact hmem
  · exact List.mem_cons_self

/-- **The worst rank is found in the counts.** -/
theorem isWorst_worstRank (names : List String) : IsWorst names (worstRank (countOf names)) := by
  have hoccurs (name : String) :
      decide (0 < ((countOf names).find? name).getD 0) = true ↔ name ∈ names := by
    rw [getD_find?_countOf, decide_eq_true_iff, List.count_pos_iff]
  unfold worstRank
  cases hfound : ranks.reverse.find? fun r => decide (0 < ((countOf names).find? r).getD 0) with
  | some rank =>
    have hnodup : ranks.Nodup := by decide
    obtain ⟨hmem, hrank, hmax⟩ := (find?_reverse_eq_some_iff hnodup).mp hfound
    refine .inl ⟨(hoccurs rank).mp hrank, hmem, fun other hother hscale => ?_⟩
    exact hmax other hscale ((hoccurs other).mpr hother)
  | none =>
    refine .inr ⟨rfl, fun other hother hscale => ?_⟩
    exact List.find?_eq_none.mp hfound other (List.mem_reverse.mpr hscale)
      ((hoccurs other).mpr hother)

/-! ## The summary of a file -/

/-- **What the summary of a file says of the ranks of its blocks.**  There is a count for each of
them, of how often it occurs, and the counts add up to the number of blocks.  The worst rank is on
the scale.  If the rank of some block is on the scale, the worst rank is that of a block, and no
block has one further along; if none is, it is the best.  In another order the same blocks have the
same summary. -/
theorem ranks_of_blocks (blocks : List Json) :
    (complexityOf blocks).blocks = blocks.length ∧
    (complexityOf blocks).rankCounts.values.sum = (complexityOf blocks).blocks ∧
    (∀ rank, ((complexityOf blocks).rankCounts.find? rank).getD 0 =
      (blocks.map blockRank).count rank) ∧
    (complexityOf blocks).worstRank ∈ ["A", "B", "C", "D", "E", "F"] ∧
    ((∃ block ∈ blocks, blockRank block ∈ ranks) →
      (∃ block ∈ blocks, blockRank block = (complexityOf blocks).worstRank) ∧
      ∀ block ∈ blocks, blockRank block ∈ ranks →
        ranks.idxOf (blockRank block) ≤ ranks.idxOf (complexityOf blocks).worstRank) ∧
    ((∀ block ∈ blocks, blockRank block ∉ ranks) → (complexityOf blocks).worstRank = "A") ∧
    ∀ blocks', blocks.Perm blocks' →
      (complexityOf blocks').blocks = (complexityOf blocks).blocks ∧
      (complexityOf blocks').rankCounts = (complexityOf blocks).rankCounts ∧
      (complexityOf blocks').worstRank = (complexityOf blocks).worstRank := by
  have hworst : IsWorst (blocks.map blockRank) (complexityOf blocks).worstRank :=
    isWorst_worstRank _
  refine ⟨rfl, ?_, getD_find?_countOf _, hworst.mem_ranks, ?_, ?_, ?_⟩
  · show (countOf (blocks.map blockRank)).values.sum = blocks.length
    rw [sum_values_countOf, List.length_map]
  · rintro ⟨block, hblock, hscale⟩
    rcases hworst with ⟨hmem, -, hmax⟩ | ⟨-, hnone⟩
    · refine ⟨List.mem_map.mp hmem, fun other hother hother' => ?_⟩
      exact hmax _ (List.mem_map_of_mem hother) hother'
    · exact absurd hscale (hnone _ (List.mem_map_of_mem hblock))
  · intro hnone
    rcases hworst with ⟨hmem, hscale, -⟩ | ⟨hbest, -⟩
    · obtain ⟨block, hblock, hrank⟩ := List.mem_map.mp hmem
      exact absurd (hrank ▸ hscale) (hnone block hblock)
    · exact hbest
  · intro blocks' hperm
    have hcounts := countOf_eq_of_perm (hperm.map blockRank)
    refine ⟨hperm.length_eq.symm, hcounts.symm, ?_⟩
    show worstRank (countOf (blocks'.map blockRank)) = worstRank (countOf (blocks.map blockRank))
    rw [hcounts]

/-- A block with something in place of a rank. -/
def blockRanked (rank : Json) : Json := .obj [("complexity", .num (.int 3)), ("rank", rank)]

/-- The worst rank stands neither first nor last and occurs once.  One block has no rank, one a rank
that is not on the scale and one a number in its place. -/
def fiveBlocks : List Json :=
  [blockRanked (.str "A"), .obj [], blockRanked (.str "C"), blockRanked (.str "Z"),
    blockRanked (.num (.int 7))]

theorem ranks_of_five_blocks :
    (complexityOf fiveBlocks).rankCounts.values.sum = 5 ∧
    (complexityOf fiveBlocks).worstRank = "C" ∧
    (∃ block ∈ fiveBlocks, blockRank block = (complexityOf fiveBlocks).worstRank) ∧
    ranks.idxOf "C" ≤ ranks.idxOf (complexityOf fiveBlocks).worstRank ∧
    (complexityOf fiveBlocks.reverse).worstRank = (complexityOf fiveBlocks).worstRank := by
  obtain ⟨hblocks, hsum, -, -, hworst, -, hperm⟩ := ranks_of_blocks fiveBlocks
  have hthird : blockRanked (.str "C") ∈ fiveBlocks := by simp [fiveBlocks]
  have hscale : blockRank (blockRanked (.str "C")) ∈ ranks := by decide
  obtain ⟨hoccurs, hmax⟩ := hworst ⟨_, hthird, hscale⟩
  exact ⟨hsum.trans hblocks, by decide, hoccurs, hmax _ hthird hscale,
    (hperm _ (List.reverse_perm fiveBlocks).symm).2.2⟩

end Radon

end LintLedger
