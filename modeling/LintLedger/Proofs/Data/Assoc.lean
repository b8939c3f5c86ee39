import LintLedger.Data.Assoc
import Mathlib.Algebra.BigOperators.Group.List.Basic
import Mathlib.Data.List.Sort
import Mathlib.Data.String.Basic

/-!
# Ascending lists of pairs as maps

Insertion keeps the keys strictly ascending, and two lists in ascending order that have the same
pairs are equal.

## Main Statements

* `Assoc.ascending_insert` -- insertion keeps the order
* `Assoc.modify_cons_of_lt`, `Assoc.modify_cons_self`, `Assoc.modify_cons_of_gt` -- a change
  walks down the list to its place
* `Assoc.mem_insert`, `Assoc.insert_perm_cons` -- what insertion leaves and what it adds
* `Assoc.ofList_of_ascending` -- pairs in ascending order write themselves
* `Assoc.find?_eq_some_iff` -- the pairs are the answers to look-ups
* `Assoc.eq_of_mem_iff` -- the pairs determine the list
-/

namespace LintLedger.Assoc

variable {α : Type} {k j : String} {v : α} {m : Assoc α}

theorem ascending_nil : Ascending ([] : Assoc α) := List.Pairwise.nil

theorem ascending_cons {p : String × α} {rest : Assoc α} :
    Ascending (p :: rest) ↔ (∀ q ∈ rest, p.1 < q.1) ∧ Ascending rest := List.pairwise_cons

theorem ascending_of_keys (h : m.keys.Pairwise (· < ·)) : Ascending m := List.pairwise_map.mp h

/-- Changing the values leaves the order. -/
theorem ascending_mapValues {β : Type} (h : Ascending m) (f : α → β) : Ascending (m.mapValues f) :=
  List.pairwise_map.mpr h

/-- What is found when each value is changed by its key. -/
theorem find?_map {β : Type} (change : String → α → β) (m : Assoc α) (k : String) :
    find? k (m.map fun p => (p.1, change p.1 p.2)) = (m.find? k).map (change k) := by
  induction m with
  | nil => rfl
  | cons p rest ih =>
    rw [List.map_cons, find?, find?, ih]
    split
    · rename_i heq
      rw [heq]
      rfl
    · rfl

/-! ## Insertion -/

theorem mem_keys_insert : j ∈ (m.insert k v).keys ↔ j = k ∨ j ∈ m.keys := by
  induction m with
  | nil => simp [insert, keys]
  | cons p rest ih =>
    obtain ⟨k', v'⟩ := p
    rw [insert]
    split
    · simp [keys]
    · split
      · rename_i h
        subst h
        simp [keys]
      · have hcons : ∀ (w : α) (tail : Assoc α), keys ((k', w) :: tail) = k' :: tail.keys :=
          fun _ _ => rfl
        rw [hcons, hcons, List.mem_cons, ih, List.mem_cons]
        tauto

/-- What is there after an insertion was there before, or is new. -/
theorem mem_insert {p : String × α} (h : p ∈ m.insert k v) : p = (k, v) ∨ p ∈ m := by
  induction m with
  | nil => exact .inl (List.mem_singleton.mp h)
  | cons q rest ih =>
    rw [insert] at h
    split at h
    · exact List.mem_cons.mp h
    · split at h
      · rcases List.mem_cons.mp h with rfl | hrest
        · exact .inl rfl
        · exact .inr (List.mem_cons_of_mem q hrest)
      · rcases List.mem_cons.mp h with rfl | hrest
        · exact .inr List.mem_cons_self
        · exact (ih hrest).imp_right (List.mem_cons_of_mem q)

/-- Insertion keeps the keys in ascending order. -/
theorem ascending_insert (h : Ascending m) : Ascending (m.insert k v) := by
  induction m with
  | nil => simp [insert, Ascending]
  | cons p rest ih =>
    obtain ⟨k', v'⟩ := p
    obtain ⟨hlt, hrest⟩ := ascending_cons.mp h
    rw [insert]
    split
    · rename_i hk
      refine ascending_cons.mpr ⟨?_, h⟩
      intro q hq
      rcases List.mem_cons.mp hq with rfl | hq
      · exact hk
      · exact hk.trans (hlt q hq)
    · split
      · rename_i heq
        subst heq
        exact ascending_cons.mpr ⟨hlt, hrest⟩
      · rename_i hnlt hne
        refine ascending_cons.mpr ⟨?_, ih hrest⟩
        intro q hq
        have hkey : q.1 ∈ keys (insert k v rest) := List.mem_map_of_mem hq
        rcases mem_keys_insert.mp hkey with hqk | hmem
        · rw [hqk]
          exact lt_of_le_of_ne (not_lt.mp hnlt) (Ne.symm hne)
        · obtain ⟨q', hq', heq⟩ := List.mem_map.mp hmem
          rw [← heq]
          exact hlt q' hq'

/-- A key that was not there is put in front, up to order. -/
theorem insert_perm_cons (hk : k ∉ m.keys) : (m.insert k v).Perm ((k, v) :: m) := by
  induction m with
  | nil => simp [insert]
  | cons p rest ih =>
    obtain ⟨k', v'⟩ := p
    have hne : k ≠ k' := fun h => hk (by simp [keys, h])
    have hrest : k ∉ keys rest := fun h => hk (List.mem_cons_of_mem _ h)
    rw [insert, if_neg hne]
    split
    · exact List.Perm.refl _
    · exact ((ih hrest).cons _).trans (List.Perm.swap _ _ _)

/-- What a list of pairs writes is in ascending order. -/
theorem ascending_ofList (pairs : List (String × α)) : Ascending (ofList pairs) := by
  have hfold (m : Assoc α) (h : Ascending m) :
      Ascending (pairs.foldl (fun m p => insert p.1 p.2 m) m) := by
    induction pairs generalizing m with
    | nil => exact h
    | cons p rest ih => exact ih _ (ascending_insert h)
  exact hfold [] ascending_nil

theorem mem_keys_ofList {pairs : List (String × α)} :
    j ∈ (ofList pairs).keys ↔ j ∈ pairs.map Prod.fst := by
  have hfold (m : Assoc α) : j ∈ keys (pairs.foldl (fun m p => insert p.1 p.2 m) m) ↔
      j ∈ m.keys ∨ j ∈ pairs.map Prod.fst := by
    induction pairs generalizing m with
    | nil => simp
    | cons p rest ih =>
      rw [List.foldl_cons, ih, mem_keys_insert, List.map_cons, List.mem_cons]
      tauto
  exact (hfold []).trans (by simp [keys])

/-- A greater key is written at the end. -/
theorem insert_of_forall_lt (h : ∀ p ∈ m, p.1 < k) : m.insert k v = m ++ [(k, v)] := by
  induction m with
  | nil => rfl
  | cons p rest ih =>
    have hlt := h p List.mem_cons_self
    rw [insert, if_neg hlt.not_gt, if_neg hlt.ne', ih fun q hq => h q (List.mem_cons_of_mem p hq)]
    rfl

/-- Pairs in ascending order write themselves. -/
theorem ofList_of_ascending (h : Ascending m) : ofList m = m := by
  have hfold (front rest : Assoc α) (h : Ascending (front ++ rest)) :
      rest.foldl (fun m p => insert p.1 p.2 m) front = front ++ rest := by
    induction rest generalizing front with
    | nil => simp
    | cons p rest ih =>
      have hlt : ∀ q ∈ front, q.1 < p.1 := fun q hq =>
        (List.pairwise_append.mp h).2.2 q hq p List.mem_cons_self
      rw [List.foldl_cons, insert_of_forall_lt hlt, ih (front ++ [p]) (by simpa using h)]
      simp
  exact hfold [] m h

/-- What a list of pairs writes are pairs of the list. -/
theorem mem_of_mem_ofList {pairs : List (String × α)} {p : String × α} (h : p ∈ ofList pairs) :
    p ∈ pairs := by
  have hfold (m : Assoc α) (rest : List (String × α))
      (h : p ∈ rest.foldl (fun m p => insert p.1 p.2 m) m) : p ∈ m ∨ p ∈ rest := by
    induction rest generalizing m with
    | nil => exact .inl h
    | cons q rest ih =>
      rcases ih _ h with hinsert | hrest
      · rcases mem_insert hinsert with rfl | hm
        · exact .inr List.mem_cons_self
        · exact .inl hm
      · exact .inr (List.mem_cons_of_mem q hrest)
  simpa using hfold [] pairs h

/-! ## Look-up -/

/-- Where every key is greater there is nothing to find. -/
theorem find?_eq_none_of_forall_lt (h : ∀ q ∈ m, k < q.1) : m.find? k = none := by
  induction m with
  | nil => rfl
  | cons p rest ih =>
    have hlt : k < p.1 := h p List.mem_cons_self
    rw [find?, if_neg hlt.ne]
    exact ih fun q hq => h q (List.mem_cons_of_mem _ hq)

theorem mem_of_find?_eq_some (h : m.find? k = some v) : (k, v) ∈ m := by
  induction m with
  | nil => simp [find?] at h
  | cons p rest ih =>
    obtain ⟨k', v'⟩ := p
    rw [find?] at h
    split at h
    · rename_i heq
      cases h
      simp [heq]
    · exact List.mem_cons_of_mem _ (ih h)

/-- The pairs are the answers to look-ups, if no two of them have one key. -/
theorem find?_eq_some_iff_of_nodup (hm : m.keys.Nodup) : m.find? k = some v ↔ (k, v) ∈ m := by
  refine ⟨mem_of_find?_eq_some, fun hmem => ?_⟩
  induction m with
  | nil => simp at hmem
  | cons p rest ih =>
    obtain ⟨k', v'⟩ := p
    obtain ⟨hfresh, hrest⟩ := List.nodup_cons.mp hm
    rcases List.mem_cons.mp hmem with heq | hmem
    · cases heq
      simp [find?]
    · have hne : k ≠ k' := fun heq => hfresh (List.mem_map.mpr ⟨(k, v), hmem, heq⟩)
      rw [find?, if_neg hne]
      exact ih hrest hmem

theorem nodup_of_ascending (h : Ascending m) : m.Nodup :=
  h.imp fun hlt heq => absurd (congrArg Prod.fst heq) hlt.ne

theorem nodup_keys_of_ascending (h : Ascending m) : m.keys.Nodup := by
  have hkeys : m.keys.Pairwise (· < ·) := List.pairwise_map.mpr h
  exact hkeys.imp fun hlt => hlt.ne

/-- The pairs are the answers to look-ups. -/
theorem find?_eq_some_iff (hm : Ascending m) : m.find? k = some v ↔ (k, v) ∈ m :=
  find?_eq_some_iff_of_nodup (nodup_keys_of_ascending hm)

/-- Lists in ascending order with the same pairs are equal. -/
theorem eq_of_mem_iff {m' : Assoc α} (hm : Ascending m) (hm' : Ascending m')
    (h : ∀ p, p ∈ m ↔ p ∈ m') : m = m' := by
  have hperm : m.Perm m' :=
    (List.perm_ext_iff_of_nodup (nodup_of_ascending hm) (nodup_of_ascending hm')).mpr h
  exact hperm.eq_of_pairwise (fun p q _ _ hpq hqp => absurd hqp hpq.asymm) hm hm'

/-! ## Change -/

variable {f : Option α → α}

theorem modify_nil : modify k f [] = [(k, f none)] := rfl

theorem modify_cons_of_lt {p : String × α} {rest : Assoc α} (hm : Ascending (p :: rest))
    (h : k < p.1) : modify k f (p :: rest) = (k, f none) :: p :: rest := by
  have hnone : find? k (p :: rest) = none := by
    refine find?_eq_none_of_forall_lt fun q hq => ?_
    rcases List.mem_cons.mp hq with rfl | hq
    · exact h
    · exact h.trans ((ascending_cons.mp hm).1 q hq)
  rw [modify, hnone, insert, if_pos h]

theorem modify_cons_self {rest : Assoc α} :
    modify k f ((k, v) :: rest) = (k, f (some v)) :: rest := by
  simp [modify, find?, insert]

theorem modify_cons_of_gt {p : String × α} {rest : Assoc α} (h : p.1 < k) :
    modify k f (p :: rest) = p :: modify k f rest := by
  rw [modify, find?, if_neg h.ne', insert, if_neg h.not_gt, if_neg h.ne', modify]

theorem ascending_modify (h : Ascending m) : Ascending (m.modify k f) := ascending_insert h

end LintLedger.Assoc
