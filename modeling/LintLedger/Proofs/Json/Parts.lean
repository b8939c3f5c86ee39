import LintLedger.Json.Reading
import LintLedger.Proofs.Json.Readable

/-!
# Parts of documents

What readers of reports take out of a document lies inside of it: a part fits inside fewer
containers and has fewer values than the whole.  An integer that is read leniently fits in 64 bits,
and a float is that of a number or of a text that writes one.

## Main Definitions

* `Json.Held` -- an optional value that fits inside so many containers
* `Json.size` -- how many values a document consists of
* `Json.Writes` -- the float that a value is or writes

## Main Statements

* `Json.held_get?_of_succ`, `Json.Held.of_mem_itemsOf` -- members and items lie inside
* `Json.size_le_of_get?`, `Json.size_le_of_mem_itemsOf` -- they have no more values
* `Json.fitsInt64_of_asInt?` -- an integer that is read leniently
* `Json.asFloat?_eq_some_iff` -- a float that is read leniently
-/

namespace LintLedger.Json

variable {depth : Nat} {v : Json} {v? : Option Json}

/-- An optional value that fits inside so many containers. -/
def Held (depth : Nat) (v? : Option Json) : Prop := ∀ v, v? = some v → v.Readable depth

/-- A value that is there is held where it fits. -/
theorem held_some (h : v.Readable depth) : Held depth (some v) := by
  rintro w ⟨⟩
  exact h

/-- A member of an object lies inside of it. -/
theorem held_get?_of_succ (h : v.Readable (depth + 1)) (key : String) :
    Held depth (v.get? key) := by
  intro w hw
  cases v with
  | obj members =>
    exact (readable_obj.mp h).2 (key, w) (Assoc.mem_of_find?_eq_some hw)
  | _ => cases hw

/-- A member may be held in as many containers as the object, which is all that most readers need.
-/
theorem held_get? (h : v.Readable depth) (key : String) : Held depth (v.get? key) :=
  held_get?_of_succ (h.mono (Nat.le_succ depth)) key

/-- What is looked up along a path lies inside of the value at its start. -/
theorem held_dig? (h : v.Readable depth) (keys : List String) : Held depth (v.dig? keys) := by
  induction keys generalizing v with
  | nil => exact held_some h
  | cons key keys ih =>
    intro w hw
    obtain ⟨u, hu, hdig⟩ := Option.bind_eq_some_iff.mp hw
    exact ih (held_get? h key u hu) w hdig

/-- What is left out when it is empty is held when it is not. -/
theorem held_nonEmpty? (h : Held depth v?) : Held depth (nonEmpty? v?) := by
  intro w hw
  -- the first four cases are the values that count as empty
  unfold nonEmpty? at hw
  split at hw
  case h_5 => exact h w hw
  all_goals cases hw

theorem Held.filter (h : Held depth v?) (p : Json → Bool) : Held depth (v?.filter p) :=
  fun w hw => h w (Option.filter_eq_some_iff.mp hw).1

/-- Readers put null in place of a value that is missing. -/
theorem Held.getD_null (h : Held depth v?) : (v?.getD .null).Readable depth := by
  cases v? with
  | none => exact readable_null
  | some v => exact h v rfl

/-- An item of a list lies inside of it. -/
theorem Held.of_mem_itemsOf_of_succ (h : Held (depth + 1) v?) {w : Json} (hw : w ∈ itemsOf v?) :
    w.Readable depth := by
  unfold itemsOf at hw
  split at hw
  · exact readable_arr.mp (h _ rfl) w hw
  · cases hw

theorem Held.of_mem_itemsOf (h : Held depth v?) {w : Json} (hw : w ∈ itemsOf v?) :
    w.Readable depth :=
  Held.of_mem_itemsOf_of_succ (fun v hv => (h v hv).mono (Nat.le_succ depth)) hw

/-! ## The size of documents -/

mutual

/-- How many values a document consists of. -/
def size : Json → Nat
  | .arr items => 1 + sizeOfItems items
  | .obj members => 1 + sizeOfMembers members
  | _ => 1

/-- How many values the items of a list consist of. -/
def sizeOfItems : List Json → Nat
  | [] => 0
  | v :: rest => v.size + sizeOfItems rest

/-- How many values the members of an object consist of. -/
def sizeOfMembers : List (String × Json) → Nat
  | [] => 0
  | (_, v) :: rest => v.size + sizeOfMembers rest

end

/-- A value counts itself. -/
theorem one_le_size (v : Json) : 1 ≤ v.size := by
  cases v <;> simp only [size] <;> omega

/-- So a list has no more items than their values are. -/
theorem length_le_sizeOfItems (items : List Json) : items.length ≤ sizeOfItems items := by
  induction items with
  | nil => exact Nat.zero_le _
  | cons v rest ih =>
    have hone := one_le_size v
    simp only [sizeOfItems, List.length_cons]
    omega

/-- An item has no more values than all items together, … -/
theorem size_le_sizeOfItems {items : List Json} {v : Json} (h : v ∈ items) :
    v.size ≤ sizeOfItems items := by
  induction items with
  | nil => cases h
  | cons w rest ih =>
    simp only [sizeOfItems]
    rcases List.mem_cons.mp h with rfl | hrest
    · omega
    · have := ih hrest
      omega

/-- … and a member no more than all members. -/
theorem size_le_sizeOfMembers {members : List (String × Json)} {p : String × Json}
    (h : p ∈ members) : p.2.size ≤ sizeOfMembers members := by
  induction members with
  | nil => cases h
  | cons q rest ih =>
    simp only [sizeOfMembers]
    rcases List.mem_cons.mp h with rfl | hrest
    · omega
    · have := ih hrest
      omega

/-- A member of an object has no more values than the object. -/
theorem size_le_of_get? {key : String} {w : Json} (h : v.get? key = some w) : w.size ≤ v.size := by
  cases v with
  | obj members =>
    have hmember : w.size ≤ sizeOfMembers members :=
      size_le_sizeOfMembers (Assoc.mem_of_find?_eq_some h)
    simp only [size]
    omega
  | _ => cases h

/-- A list has no more items than values. -/
theorem length_le_of_arr? {items : List Json} (h : v.arr? = some items) :
    items.length ≤ v.size := by
  cases v with
  | arr items =>
    cases h
    have hlength := length_le_sizeOfItems items
    simp only [size]
    omega
  | _ => cases h

theorem size_le_of_mem_itemsOf {w : Json} (h : w ∈ itemsOf (some v)) : w.size ≤ v.size := by
  cases v with
  | arr items =>
    have hitem := size_le_sizeOfItems h
    simp only [size, itemsOf] at hitem ⊢
    omega
  | _ => cases h

/-- The same of the items of a member. -/
theorem size_le_of_mem_itemsOf_get? {key : String} {w : Json} (h : w ∈ itemsOf (v.get? key)) :
    w.size ≤ v.size := by
  cases hget : v.get? key with
  | none =>
    rw [hget] at h
    cases h
  | some u =>
    rw [hget] at h
    exact Nat.le_trans (size_le_of_mem_itemsOf h) (size_le_of_get? hget)

theorem length_itemsOf_le (v : Json) : (itemsOf (some v)).length ≤ v.size := by
  cases v with
  | arr items => exact length_le_of_arr? rfl
  | _ => exact Nat.zero_le _

/-- A member that is a list has no more items than the whole has values. -/
theorem length_itemsOf_get?_le (v : Json) (key : String) :
    (itemsOf (v.get? key)).length ≤ v.size := by
  cases hget : v.get? key with
  | none => exact Nat.zero_le _
  | some w => exact Nat.le_trans (length_itemsOf_le w) (size_le_of_get? hget)

/-! ## Integers -/

/-- The bounds of 64 bits, spelled out for `omega`. -/
theorem fitsInt64_iff {i : Int} :
    Text.fitsInt64 i = true ↔ -9223372036854775808 ≤ i ∧ i ≤ 9223372036854775807 := by
  simp only [Text.fitsInt64, Bool.and_eq_true, decide_eq_true_eq]
  rfl

/-- A float is cut at the bounds, and what is no number becomes zero. -/
theorem fitsInt64_truncateFloat (x : Float) : Text.fitsInt64 (truncateFloat x) = true := by
  unfold truncateFloat
  split
  · decide
  · split <;> decide
  · rename_i negative value _
    -- the bounds are stated of the sign and the magnitude, so that the shifts need not be computed
    have hcut (magnitude : Int) (h : 0 ≤ magnitude) :
        Text.fitsInt64 (if negative then max Text.int64Min (-magnitude)
          else min Text.int64Max magnitude) = true := by
      rw [fitsInt64_iff]
      simp only [Text.int64Min, Text.int64Max]
      split <;> omega
    exact hcut _ (by split <;> exact Int.natCast_nonneg _)

/-- A number as an integer fits in 64 bits. -/
theorem fitsInt64_toInt64 (n : Number) : Text.fitsInt64 n.toInt64 = true := by
  cases n with
  | int i =>
    rw [fitsInt64_iff]
    simp only [Number.toInt64, Text.int64Min, Text.int64Max]
    omega
  | real x => exact fitsInt64_truncateFloat x

/-- A text is read as an integer only if that fits. -/
theorem fitsInt64_of_int64Of? {s : String} {i : Int} (h : Text.int64Of? s = some i) :
    Text.fitsInt64 i = true := (Option.filter_eq_some_iff.mp h).2

/-- An integer that is read leniently fits in 64 bits. -/
theorem fitsInt64_of_asInt? {i : Int} (h : asInt? v? = some i) : Text.fitsInt64 i = true := by
  unfold asInt? at h
  split at h
  · cases h
    exact fitsInt64_toInt64 _
  · exact fitsInt64_of_int64Of? h
  · cases h

/-- So does what stands for one that is missing. -/
theorem fitsInt64_getD_asInt? (v? : Option Json) :
    Text.fitsInt64 ((asInt? v?).getD 0) = true := by
  cases h : asInt? v? with
  | none => decide
  | some i => exact fitsInt64_of_asInt? h

/-- A number of values fits in 64 bits. -/
theorem fitsInt64_natCast {n size : Nat} (hle : n ≤ size) (hsize : (size : Int) ≤ Text.int64Max) :
    Text.fitsInt64 (n : Int) = true :=
  fitsInt64_iff.mpr ⟨by omega, Int.le_trans (Int.ofNat_le.mpr hle) hsize⟩

theorem readable_ofNat {n : Nat} (h : n ≤ maxWord) : (Json.ofNat n).Readable depth :=
  readable_num.mpr ⟨by simp only [Text.int64Min]; omega, Int.ofNat_le.mpr h⟩

/-- A float that is not finite is written as null, so that every float can be read back. -/
theorem readable_ofFloat (x : Float) : (Json.ofFloat x).Readable depth := by
  unfold Json.ofFloat
  split
  · exact readable_num.mpr trivial
  · exact readable_null

/-- What fits in 64 bits is in the range of the integers of documents. -/
theorem inRange_of_fitsInt64 {i : Int} (h : Text.fitsInt64 i = true) : (Number.int i).InRange := by
  have := fitsInt64_iff.mp h
  simp only [Number.InRange, Text.int64Min, maxWord, Int.ofNat_eq_natCast]
  omega

/-! ## Floats -/

/-- The float that a number is, or that a text writes with blanks around it. -/
inductive Writes : Json → Float → Prop where
  | number (n : Number) : Writes (.num n) n.toFloat
  | text {s : String} {x : Float} :
      Decimal.floatOf? (Text.trim s) = some x → Writes (.str s) x

/-- Numbers and texts are read as floats, and nothing else is. -/
theorem asFloat?_some_eq_some_iff {x : Float} : asFloat? (some v) = some x ↔ v.Writes x := by
  constructor
  · intro h
    cases v with
    | num n => cases h; exact .number n
    | str s => exact .text h
    | _ => cases h
  · intro h
    cases h with
    | number _ => rfl
    | text hread => exact hread

/-- A float that is read leniently is written where it is read. -/
theorem asFloat?_eq_some_iff {x : Float} :
    asFloat? v? = some x ↔ ∃ v, v? = some v ∧ v.Writes x := by
  cases v? with
  | none => simp [asFloat?]
  | some v => simp [asFloat?_some_eq_some_iff]

end LintLedger.Json
