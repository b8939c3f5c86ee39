import LintLedger.Json.Reader
import LintLedger.Proofs.Data.Assoc

/-!
# What the JSON reader gives

A value that was read fits inside as many containers as the reader allows, its integers fit in 64
bits, and the members of its objects are in ascending order.  What else a reader of reports can
rely on is left to it.

## Main Definitions

* `Number.InRange` -- an integer that the reader keeps as one
* `Json.Readable` -- a value as the reader gives it

## Main Statements

* `Json.Readable.mono` -- a value that fits inside some containers fits inside more of them
* `Json.readable_of_parse?` -- what is read from a text is readable
-/

namespace LintLedger

/-- An integer that the reader keeps as one: it fits in 64 bits with or without sign. -/
def Number.InRange : Number → Prop
  | .int i => Text.int64Min ≤ i ∧ i ≤ Int.ofNat Json.maxWord
  | .real _ => True

namespace Json

/-- A value as the reader gives it inside at most so many containers: integers fit in 64 bits,
and the members of an object are in ascending order. -/
def Readable : Nat → Json → Prop
  | _, .null => True
  | _, .bool _ => True
  | _, .num n => n.InRange
  | _, .str _ => True
  | 0, .arr _ => False
  | depth + 1, .arr items => ∀ v ∈ items, Readable depth v
  | 0, .obj _ => False
  | depth + 1, .obj members => Assoc.Ascending members ∧ ∀ p ∈ members, Readable depth p.2

variable {depth : Nat} {rest : List Char}

@[simp] theorem readable_null : Readable depth .null := by cases depth <;> trivial

@[simp] theorem readable_bool (b : Bool) : Readable depth (.bool b) := by cases depth <;> trivial

@[simp] theorem readable_str (s : String) : Readable depth (.str s) := by cases depth <;> trivial

@[simp] theorem readable_num {n : Number} : Readable depth (.num n) ↔ n.InRange := by
  cases depth <;> rfl

@[simp] theorem readable_arr {items : List Json} :
    Readable (depth + 1) (.arr items) ↔ ∀ v ∈ items, Readable depth v := Iff.rfl

@[simp] theorem readable_obj {members : List (String × Json)} :
    Readable (depth + 1) (.obj members) ↔
      Assoc.Ascending members ∧ ∀ p ∈ members, Readable depth p.2 := Iff.rfl

/-- A list is inside a container of its own. -/
theorem Readable.exists_of_arr {items : List Json} (h : (Json.arr items).Readable depth) :
    ∃ inner, depth = inner + 1 ∧ ∀ v ∈ items, v.Readable inner := by
  cases depth with
  | zero => exact h.elim
  | succ inner => exact ⟨inner, rfl, h⟩

/-- So is an object. -/
theorem Readable.exists_of_obj {members : List (String × Json)}
    (h : (Json.obj members).Readable depth) :
    ∃ inner, depth = inner + 1 ∧ Assoc.Ascending members ∧ ∀ p ∈ members, p.2.Readable inner := by
  cases depth with
  | zero => exact h.elim
  | succ inner => exact ⟨inner, rfl, h⟩

/-- A value that fits inside some containers fits inside more of them. -/
theorem Readable.mono {depth' : Nat} {v : Json} (hle : depth ≤ depth') (h : v.Readable depth) :
    v.Readable depth' := by
  -- by the depth, which each item of a list and each member of an object has one less of
  induction depth using Nat.strongRecOn generalizing depth' v with
  | ind depth ih =>
    cases v with
    | null | bool | str => simp
    | num n => exact readable_num.mpr (readable_num.mp h)
    | arr items =>
      obtain ⟨inner, rfl, hitems⟩ := h.exists_of_arr
      obtain ⟨more, rfl⟩ := Nat.exists_eq_add_of_lt hle
      exact readable_arr.mpr fun v hv =>
        ih inner (Nat.lt_succ_self inner) (by omega) (hitems v hv)
    | obj members =>
      obtain ⟨inner, rfl, hascending, hvalues⟩ := h.exists_of_obj
      obtain ⟨more, rfl⟩ := Nat.exists_eq_add_of_lt hle
      exact readable_obj.mpr ⟨hascending, fun p hp =>
        ih inner (Nat.lt_succ_self inner) (by omega) (hvalues p hp)⟩

/-! ## Numbers -/

theorem accumulate_le {sig : Nat} (h : sig ≤ maxWord) (ds : List Char) :
    (accumulate sig ds).1 ≤ maxWord := by
  induction ds generalizing sig with
  | nil => exact h
  | cons d ds ih =>
    rw [accumulate]
    dsimp only
    split
    · exact h
    · rename_i hfits
      exact ih (Nat.not_lt.mp hfits)

theorem inRange_integerOf {sig : Nat} (h : sig ≤ maxWord) (negative : Bool) :
    (integerOf negative sig).InRange := by
  unfold integerOf
  split
  · split
    · trivial
    · rename_i hsig
      simp only [not_or, Nat.not_lt] at hsig
      refine ⟨?_, ?_⟩ <;> simp only [Text.int64Min, Int.ofNat_eq_natCast] <;> omega
  · exact ⟨by simp only [Text.int64Min, Int.ofNat_eq_natCast]; omega, Int.ofNat_le.mpr h⟩

theorem inRange_of_floatOfParts {negative : Bool} {sig : Nat} {e : Int} {n : Number}
    (h : floatOfParts negative sig e = some n) : n.InRange := by
  obtain ⟨x, -, rfl⟩ := Option.map_eq_some_iff.mp h
  trivial

/-- What is scaled is no integer. -/
theorem inRange_of_readScale? {negative : Bool} {sig : Nat} {e : Int} {cs : List Char} {n : Number}
    (h : readScale? negative sig e cs = some (n, rest)) : n.InRange := by
  cases cs with
  | nil =>
    obtain ⟨m, hm, heq⟩ := Option.map_eq_some_iff.mp h
    cases heq
    exact inRange_of_floatOfParts hm
  | cons c cs =>
    rw [readScale?] at h
    split at h
    · obtain ⟨⟨down, size, more⟩, -, hexponent⟩ := Option.bind_eq_some_iff.mp h
      obtain ⟨m, hm, heq⟩ := Option.map_eq_some_iff.mp hexponent
      cases heq
      unfold withExponent at hm
      split at hm
      · split at hm
        · cases hm
        · cases hm
          trivial
      · exact inRange_of_floatOfParts hm
    · obtain ⟨m, hm, heq⟩ := Option.map_eq_some_iff.mp h
      cases heq
      exact inRange_of_floatOfParts hm

theorem inRange_of_readMagnitude? {negative : Bool} {cs : List Char} {n : Number}
    (h : readMagnitude? negative cs = some (n, rest)) : n.InRange := by
  have hsig := accumulate_le (Nat.zero_le maxWord) (cs.takeWhile Char.isDigit)
  simp only [readMagnitude?] at h
  split at h
  · cases h
  split at h
  · split at h
    · cases h
    · exact inRange_of_readScale? h
  · split at h
    · exact inRange_of_readScale? h
    · cases h
      exact inRange_integerOf hsig negative
  · split at h
    · exact inRange_of_readScale? h
    · cases h
      exact inRange_integerOf hsig negative

theorem inRange_of_readNumber? {cs : List Char} {n : Number}
    (h : readNumber? cs = some (n, rest)) : n.InRange := by
  unfold readNumber? at h
  split at h <;> exact inRange_of_readMagnitude? h

/-! ## Values -/

/-- What holds of every item that is read holds of the items of an array. -/
theorem forall_of_itemsWith {item : List Char → Option (Json × List Char)} {P : Json → Prop}
    (hitem : ∀ cs v rest, item cs = some (v, rest) → P v) {fuel : Nat} {acc items : List Json}
    {cs : List Char} (hacc : ∀ v ∈ acc, P v)
    (h : itemsWith item fuel acc cs = some (items, rest)) : ∀ v ∈ items, P v := by
  induction fuel generalizing acc cs with
  | zero => cases h
  | succ fuel ih =>
    obtain ⟨⟨v, more⟩, hv, hrest⟩ := Option.bind_eq_some_iff.mp h
    have hmore : ∀ w ∈ v :: acc, P w := List.forall_mem_cons.mpr ⟨hitem _ _ _ hv, hacc⟩
    dsimp only at hrest
    split at hrest
    · exact ih hmore hrest
    · cases hrest
      intro w hw
      exact hmore w (List.mem_reverse.mp hw)
    · cases hrest

/-- What holds of every value that is read holds of the members of an object. -/
theorem forall_of_membersWith {item : List Char → Option (Json × List Char)} {P : Json → Prop}
    (hitem : ∀ cs v rest, item cs = some (v, rest) → P v) {fuel : Nat}
    {acc members : List (String × Json)} {cs : List Char} (hacc : ∀ p ∈ acc, P p.2)
    (h : membersWith item fuel acc cs = some (members, rest)) : ∀ p ∈ members, P p.2 := by
  induction fuel generalizing acc cs with
  | zero => cases h
  | succ fuel ih =>
    rw [membersWith] at h
    split at h
    · obtain ⟨⟨key, afterKey⟩, -, hkey⟩ := Option.bind_eq_some_iff.mp h
      dsimp only at hkey
      split at hkey
      · obtain ⟨⟨v, more⟩, hv, hrest⟩ := Option.bind_eq_some_iff.mp hkey
        have hmore : ∀ p ∈ (key, v) :: acc, P p.2 :=
          List.forall_mem_cons.mpr ⟨hitem _ _ _ hv, hacc⟩
        dsimp only at hrest
        split at hrest
        · exact ih hmore hrest
        · cases hrest
          intro p hp
          exact hmore p (List.mem_reverse.mp hp)
        · cases hrest
      · cases hkey
    · cases h

/-- What is read inside at most so many containers. -/
theorem readable_of_readValue? {depth : Nat} {cs : List Char} {v : Json}
    (h : readValue? depth cs = some (v, rest)) : v.Readable depth := by
  -- containers are entered at one depth less, so that the induction is on the depth
  induction depth using Nat.strongRecOn generalizing cs v rest with
  | ind depth ih =>
    rw [readValue?.eq_def] at h
    dsimp only at h
    split at h
    · cases h
    split at h
    · obtain ⟨more, -, heq⟩ := Option.map_eq_some_iff.mp h
      cases heq
      simp
    · obtain ⟨more, -, heq⟩ := Option.map_eq_some_iff.mp h
      cases heq
      simp
    · obtain ⟨more, -, heq⟩ := Option.map_eq_some_iff.mp h
      cases heq
      simp
    · obtain ⟨⟨s, more⟩, -, heq⟩ := Option.map_eq_some_iff.mp h
      cases heq
      simp
    · split at h
      · cases h
      · rename_i inner
        split at h
        · cases h
          simp
        · obtain ⟨⟨items, more⟩, hitems, heq⟩ := Option.map_eq_some_iff.mp h
          cases heq
          exact readable_arr.mpr (forall_of_itemsWith
            (fun _ _ _ => ih inner (Nat.lt_succ_self inner)) (by simp) hitems)
    · split at h
      · cases h
      · rename_i inner
        split at h
        · cases h
          exact readable_obj.mpr ⟨Assoc.ascending_nil, by simp⟩
        · obtain ⟨⟨members, more⟩, hmembers, heq⟩ := Option.map_eq_some_iff.mp h
          cases heq
          have hvalues := forall_of_membersWith
            (fun _ _ _ => ih inner (Nat.lt_succ_self inner)) (by simp) hmembers
          exact readable_obj.mpr ⟨Assoc.ascending_ofList _,
            fun p hp => hvalues p (Assoc.mem_of_mem_ofList hp)⟩
    · obtain ⟨⟨n, more⟩, hn, heq⟩ := Option.map_eq_some_iff.mp h
      cases heq
      exact readable_num.mpr (inRange_of_readNumber? hn)

/-- **What is read from a text is readable.** -/
theorem readable_of_parse? {s : String} {v : Json} (h : parse? s = some v) :
    v.Readable maxDepth := by
  obtain ⟨⟨w, more⟩, hread, heq⟩ := Option.bind_eq_some_iff.mp h
  dsimp only at heq
  split at heq
  · cases heq
    exact readable_of_readValue? hread
  · cases heq

end Json

end LintLedger
