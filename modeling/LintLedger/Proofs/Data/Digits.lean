import LintLedger.Proofs.Data.Joined
import LintLedger.Text.Integer
import Mathlib.Data.List.Induction
import Mathlib.Data.String.Basic
import Mathlib.Tactic.Linarith
import Mathlib.Tactic.Ring

/-!
# The digits of a number

The text of a natural number has decimal digits only, and the number is read back from them.  A
zero in front is the whole text.

Numbers that are written with the same number of digits are in the order of their texts, which is
what zeros in front are for.

An integer may have a sign, which is the hyphen.

## Main Definitions

* `Digits.padded` -- a number with zeros in front up to a width

## Main Statements

* `Digits.notMem_toDigits` -- what is no digit is not in the text of a number
* `Digits.natOfDigits_toDigits`, `Digits.int64Of?_toString` -- a number is read back from its digits
* `Digits.length_toDigits_of_head` -- the only number that begins with a zero
* `Digits.toString_int_hyphen` -- an integer in front of a hyphen is told
* `Digits.lt_iff_natOfDigits_lt` -- digits of one length are in the order of their numbers
* `Digits.padded_natOfDigits` -- digits are those of their number in their width
* `Digits.padded_append_lt_iff` -- numbers of one width in front of texts
-/

namespace LintLedger.Digits

variable {n : Nat}

theorem toList_toString (n : Nat) : (toString n).toList = Nat.toDigits 10 n := by
  rw [Nat.toString_eq_ofList_toDigits, String.toList_ofList]

theorem isDigit_of_mem_toDigits {c : Char} (h : c ∈ Nat.toDigits 10 n) : c.isDigit = true :=
  Nat.isDigit_of_mem_toDigits (by decide) (by decide) h

/-- What is no digit is not in the text of a number. -/
theorem notMem_toDigits {c : Char} (hc : c.isDigit = false) (n : Nat) :
    c ∉ Nat.toDigits 10 n := by
  intro hmem
  rw [isDigit_of_mem_toDigits hmem] at hc
  cases hc

/-- A number is read back from its digits. -/
theorem natOfDigits_toDigits (n : Nat) : Text.natOfDigits (Nat.toDigits 10 n) = n := by
  have hfold := Nat.ofDigitChars_ten_toDigits (n := n)
  rwa [Nat.ofDigitChars_eq_foldl] at hfold

/-- A number is read from the characters of its text. -/
theorem natOf?_toDigits (n : Nat) : Text.natOf? (Nat.toDigits 10 n) = some n := by
  rw [Text.natOf?, if_neg (by simp),
    if_pos (List.all_eq_true.mpr fun _ => isDigit_of_mem_toDigits), natOfDigits_toDigits]

/-- A number is read from its text as an integer, if 64 bits hold it. -/
theorem int64Of?_toString (h : (n : Int) ≤ Text.int64Max) :
    Text.int64Of? (toString n) = some (n : Int) := by
  have hint : Text.intOf? (Nat.toDigits 10 n) = some (n : Int) := by
    unfold Text.intOf?
    split
    · rename_i heq
      exact absurd (heq ▸ List.mem_cons_self) (notMem_toDigits rfl n)
    · rename_i heq
      exact absurd (heq ▸ List.mem_cons_self) (notMem_toDigits rfl n)
    · rw [natOf?_toDigits]
      rfl
  have hfits : Text.fitsInt64 (n : Int) = true := by
    unfold Text.fitsInt64 Text.int64Min
    simp only [Bool.and_eq_true, decide_eq_true_eq]
    exact ⟨by omega, h⟩
  rw [Text.int64Of?, toList_toString, hint, Option.filter_some, if_pos hfits]

theorem toDigits_inj {m : Nat} (h : Nat.toDigits 10 m = Nat.toDigits 10 n) : m = n :=
  calc
    m = Text.natOfDigits (Nat.toDigits 10 m) := (natOfDigits_toDigits m).symm
    _ = Text.natOfDigits (Nat.toDigits 10 n) := by rw [h]
    _ = n := natOfDigits_toDigits n

/-- The digits of a number do not begin with a zero, unless it is all of them. -/
theorem length_toDigits_of_head (h : (Nat.toDigits 10 n).head? = some '0') :
    (Nat.toDigits 10 n).length = 1 := by
  induction n using Nat.strongRecOn with
  | ind n ih =>
    by_cases hn : n < 10
    · rw [Nat.toDigits_of_lt_base hn]
      rfl
    · have hlong := Nat.toDigits_of_base_le (by decide : 1 < 10) (Nat.le_of_not_lt hn)
      have hhead : (Nat.toDigits 10 (n / 10)).head? = some '0' := by
        rw [hlong] at h
        cases hfront : Nat.toDigits 10 (n / 10) with
        | nil => simp at hfront
        | cons d ds => simpa [hfront] using h
      have hone := ih (n / 10) (by omega) hhead
      -- then the digits in front of the last one are a zero, and the number is below ten
      have hvalue : Text.natOfDigits (Nat.toDigits 10 (n / 10)) = 0 := by
        obtain ⟨d, hd⟩ := List.length_eq_one_iff.mp hone
        rw [hd] at hhead ⊢
        cases hhead
        rfl
      rw [natOfDigits_toDigits] at hvalue
      omega

/-! ## Integers -/

/-- An integer is written with its digits, behind a sign if it is negative. -/
theorem toList_toString_int (i : Int) :
    (toString i).toList = (if i < 0 then ['-'] else []) ++ Nat.toDigits 10 i.natAbs := by
  cases i with
  | ofNat n =>
    rw [if_neg (by simp), List.nil_append]
    exact toList_toString n
  | negSucc n =>
    rw [if_pos (Int.negSucc_lt_zero n)]
    change ("-" ++ toString (n + 1)).toList = _
    rw [String.toList_append, toList_toString]
    rfl

theorem notMem_toString_int {c : Char} (hdigit : c.isDigit = false) (hsign : c ≠ '-') (i : Int) :
    c ∉ (toString i).toList := by
  rw [toList_toString_int, List.mem_append]
  rintro (h | h)
  · split at h
    · exact hsign (List.mem_singleton.mp h)
    · cases h
  · exact notMem_toDigits hdigit _ h

/-- An integer in front of a hyphen is told, whether it has a sign or not. -/
theorem toString_int_hyphen {i j : Int} {r r' : List Char}
    (h : (toString i).toList ++ '-' :: r = (toString j).toList ++ '-' :: r') : i = j ∧ r = r' := by
  have hhyphen (n : Nat) : '-' ∉ Nat.toDigits 10 n := notMem_toDigits rfl n
  -- digits do not begin with a sign
  have hsign {m n : Nat} {r r' : List Char} :
      '-' :: (Nat.toDigits 10 m ++ '-' :: r) ≠ Nat.toDigits 10 n ++ '-' :: r' := by
    intro heq
    have hdigits : (Nat.toDigits 10 n) ≠ [] := Nat.toDigits_ne_nil
    obtain ⟨d, ds, hn⟩ := List.exists_cons_of_ne_nil hdigits
    rw [hn, List.cons_append] at heq
    exact hhyphen n (hn ▸ (List.cons.inj heq).1 ▸ List.mem_cons_self)
  rw [toList_toString_int, toList_toString_int] at h
  by_cases hi : i < 0 <;> by_cases hj : j < 0
  · rw [if_pos hi, if_pos hj] at h
    obtain ⟨hdigits, hr⟩ := Joined.front_eq (hhyphen _) (hhyphen _) (List.cons.inj h).2
    have habs := toDigits_inj hdigits
    exact ⟨by omega, hr⟩
  · rw [if_pos hi, if_neg hj] at h
    exact absurd h hsign
  · rw [if_neg hi, if_pos hj] at h
    exact absurd h.symm hsign
  · rw [if_neg hi, if_neg hj] at h
    obtain ⟨hdigits, hr⟩ := Joined.front_eq (hhyphen _) (hhyphen _) h
    have habs := toDigits_inj hdigits
    exact ⟨by omega, hr⟩

theorem toString_int_inj {i j : Int} (h : toString i = toString j) : i = j := by
  have hfront : (toString i).toList ++ ['-'] = (toString j).toList ++ ['-'] := by rw [h]
  exact (toString_int_hyphen hfront).1

/-! ## Digits of one length -/

theorem natOfDigits_append (front back : List Char) :
    Text.natOfDigits (front ++ back) =
      Text.natOfDigits front * 10 ^ back.length + Text.natOfDigits back := by
  induction back using List.reverseRecOn with
  | nil => simp [Text.natOfDigits]
  | append_singleton back c ih =>
    have hlast (cs : List Char) :
        Text.natOfDigits (cs ++ [c]) = 10 * Text.natOfDigits cs + Text.digitValue c := by
      rw [Text.natOfDigits, List.foldl_append]
      rfl
    rw [← List.append_assoc, hlast, hlast, ih, List.length_append, List.length_singleton, pow_succ]
    ring

theorem natOfDigits_cons (c : Char) (cs : List Char) :
    Text.natOfDigits (c :: cs) = Text.digitValue c * 10 ^ cs.length + Text.natOfDigits cs := by
  have hone : Text.natOfDigits [c] = Text.digitValue c := by
    rw [Text.natOfDigits, List.foldl_cons, List.foldl_nil, Nat.mul_zero, Nat.zero_add]
  rw [← hone, ← natOfDigits_append, List.singleton_append]

/-- Where a digit stands among the characters. -/
theorem isDigit_iff {c : Char} : c.isDigit = true ↔ 48 ≤ c.toNat ∧ c.toNat ≤ 57 :=
  Char.isDigit_iff_toNat

theorem digitValue_eq (c : Char) : Text.digitValue c = c.toNat - 48 := rfl

/-- Digits are in the order of their characters. -/
theorem digitValue_lt_iff {c d : Char} (hc : c.isDigit = true) (hd : d.isDigit = true) :
    Text.digitValue c < Text.digitValue d ↔ c < d := by
  have hlt : c < d ↔ c.toNat < d.toNat := Iff.rfl
  rw [isDigit_iff] at hc hd
  rw [hlt, digitValue_eq, digitValue_eq]
  omega

theorem digitValue_inj {c d : Char} (hc : c.isDigit = true) (hd : d.isDigit = true) :
    Text.digitValue c = Text.digitValue d ↔ c = d := by
  rw [isDigit_iff] at hc hd
  rw [digitValue_eq, digitValue_eq, ← Char.toNat_inj]
  omega

theorem natOfDigits_lt {cs : List Char} (h : ∀ c ∈ cs, c.isDigit = true) :
    Text.natOfDigits cs < 10 ^ cs.length := by
  induction cs with
  | nil => simp [Text.natOfDigits]
  | cons c rest ih =>
    obtain ⟨hc, hrest⟩ := List.forall_mem_cons.mp h
    have hdigit : Text.digitValue c + 1 ≤ 10 := by
      rw [isDigit_iff] at hc
      rw [digitValue_eq]
      omega
    calc
      Text.natOfDigits (c :: rest)
        = Text.digitValue c * 10 ^ rest.length + Text.natOfDigits rest := natOfDigits_cons c rest
      _ < (Text.digitValue c + 1) * 10 ^ rest.length := by linarith [ih hrest]
      _ ≤ 10 * 10 ^ rest.length := Nat.mul_le_mul_right _ hdigit
      _ = 10 ^ (c :: rest).length := by rw [List.length_cons, pow_succ']

/-- Numbers with a leading digit and a rest below its place are in the order of the digits first. -/
theorem place_lt_iff {a b x y place : Nat} (hx : x < place) (hy : y < place) :
    a * place + x < b * place + y ↔ a < b ∨ a = b ∧ x < y := by
  rcases Nat.lt_trichotomy a b with hlt | rfl | hgt
  · have hplace := Nat.mul_le_mul_right place hlt
    rw [Nat.succ_mul] at hplace
    exact iff_of_true (by omega) (.inl hlt)
  · simp
  · have hplace := Nat.mul_le_mul_right place hgt
    rw [Nat.succ_mul] at hplace
    exact iff_of_false (by omega) (by omega)

/-- **Digits of one length** are in the order of their numbers. -/
theorem lt_iff_natOfDigits_lt {cs ds : List Char} (hlength : cs.length = ds.length)
    (hcs : ∀ c ∈ cs, c.isDigit = true) (hds : ∀ d ∈ ds, d.isDigit = true) :
    cs < ds ↔ Text.natOfDigits cs < Text.natOfDigits ds := by
  induction cs generalizing ds with
  | nil =>
    rw [List.length_eq_zero_iff.mp hlength.symm]
    simp
  | cons c cs ih =>
    cases ds with
    | nil => cases hlength
    | cons d ds =>
      obtain ⟨hc, hcs⟩ := List.forall_mem_cons.mp hcs
      obtain ⟨hd, hds⟩ := List.forall_mem_cons.mp hds
      have hlength : cs.length = ds.length := by simpa using hlength
      have hrest := natOfDigits_lt hcs
      rw [hlength] at hrest
      -- the first digits decide, or the rest does: in the texts, and in the numbers by their places
      rw [List.cons_lt_cons_iff, ih hlength hcs hds, ← digitValue_lt_iff hc hd,
        ← digitValue_inj hc hd, natOfDigits_cons, natOfDigits_cons, hlength,
        place_lt_iff hrest (natOfDigits_lt hds)]

/-- Digits of one length with one number are the same. -/
theorem eq_of_natOfDigits_eq {cs ds : List Char} (hlength : cs.length = ds.length)
    (hcs : ∀ c ∈ cs, c.isDigit = true) (hds : ∀ d ∈ ds, d.isDigit = true)
    (h : Text.natOfDigits cs = Text.natOfDigits ds) : cs = ds := by
  rcases lt_trichotomy cs ds with hlt | heq | hgt
  · exact absurd ((lt_iff_natOfDigits_lt hlength hcs hds).mp hlt) h.not_lt
  · exact heq
  · exact absurd ((lt_iff_natOfDigits_lt hlength.symm hds hcs).mp hgt) h.not_gt

/-! ## Numbers of a fixed width -/

/-- A number with zeros in front up to a width. -/
def padded (width n : Nat) : List Char :=
  List.replicate (width - (Nat.toDigits 10 n).length) '0' ++ Nat.toDigits 10 n

theorem isDigit_of_mem_padded {width : Nat} {c : Char} (h : c ∈ padded width n) :
    c.isDigit = true := by
  rcases List.mem_append.mp h with hzero | hdigit
  · rw [List.eq_of_mem_replicate hzero]
    decide
  · exact isDigit_of_mem_toDigits hdigit

theorem length_padded {width : Nat} (h : n < 10 ^ width) (hwidth : 0 < width) :
    (padded width n).length = width := by
  have hle := (Nat.length_toDigits_le_iff (by decide : 1 < 10) hwidth).mpr h
  rw [padded, List.length_append, List.length_replicate]
  omega

theorem natOfDigits_padded (width n : Nat) : Text.natOfDigits (padded width n) = n := by
  have hzeros (k : Nat) : Text.natOfDigits (List.replicate k '0') = 0 := by
    induction k with
    | zero => rfl
    | succ k ih => rw [List.replicate_succ, natOfDigits_cons, ih, digitValue_eq]; simp
  rw [padded, natOfDigits_append, hzeros, natOfDigits_toDigits, Nat.zero_mul, Nat.zero_add]

/-- Digits are those of their number in their width. -/
theorem padded_natOfDigits {cs : List Char} (h : ∀ c ∈ cs, c.isDigit = true) (hne : cs ≠ []) :
    padded cs.length (Text.natOfDigits cs) = cs := by
  have hlength := length_padded (natOfDigits_lt h) (List.length_pos_iff.mpr hne)
  exact eq_of_natOfDigits_eq hlength (fun _ => isDigit_of_mem_padded) h (natOfDigits_padded _ _)

/-- Texts that begin with lists of one length are in the order of these first. -/
theorem append_lt_append_iff {a b x y : List Char} (h : a.length = b.length) :
    a ++ x < b ++ y ↔ a < b ∨ a = b ∧ x < y := by
  induction a generalizing b with
  | nil =>
    rw [List.length_eq_zero_iff.mp h.symm]
    simp
  | cons c a ih =>
    cases b with
    | nil => cases h
    | cons d b =>
      have h : a.length = b.length := by simpa using h
      rw [List.cons_append, List.cons_append, List.cons_lt_cons_iff, ih h, List.cons_lt_cons_iff,
        List.cons.injEq]
      tauto

/-- **Numbers of one width in front of texts** decide the order of the texts first. -/
theorem padded_append_lt_iff {width m : Nat} {x y : List Char} (hm : m < 10 ^ width)
    (hn : n < 10 ^ width) (hwidth : 0 < width) :
    padded width m ++ x < padded width n ++ y ↔ m < n ∨ m = n ∧ x < y := by
  have hlength : (padded width m).length = (padded width n).length :=
    (length_padded hm hwidth).trans (length_padded hn hwidth).symm
  have heq : padded width m = padded width n ↔ m = n := by
    refine ⟨fun h => ?_, congrArg _⟩
    rw [← natOfDigits_padded width m, h, natOfDigits_padded]
  rw [append_lt_append_iff hlength, heq, lt_iff_natOfDigits_lt hlength
    (fun _ => isDigit_of_mem_padded) (fun _ => isDigit_of_mem_padded), natOfDigits_padded,
    natOfDigits_padded]

end LintLedger.Digits
