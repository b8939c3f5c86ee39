import LintLedger.Json.Writer
import LintLedger.Proofs.Data.Digits
import LintLedger.Proofs.Data.Joined
import LintLedger.Proofs.Json.Readable

/-!
# JSON text read back

The compact text of a value is read back as that value, if the value is one that a reader gives
and its floats are read back from their own texts.  The reader takes the first digits of a float
and scales them by a power of ten, which is not always the float that was written.

## Main Definitions

* `Number.ReadsBack` -- a number that is read back from its text
* `Json.Within` -- a value that is part of another
* `Json.FloatsReadBack` -- the floats in a value are read back from their texts

## Main Statements

* `Json.readValue?_render` -- a value is read back from its text, whatever comes after it
* `Json.parse?_render` -- the same for a whole text
* `Json.exists_not_readsBack` -- a float that is not read back
-/

namespace LintLedger

/-- A number that is read back from its text. -/
def Number.ReadsBack (n : Number) : Prop := Json.readNumber? n.render.toList = some (n, [])

namespace Json

/-- A value that is part of another, or all of it. -/
inductive Within : Json → Json → Prop
  | self (v : Json) : Within v v
  | item {v w : Json} {items : List Json} (hmem : w ∈ items) (h : Within v w) :
    Within v (.arr items)
  | member {v w : Json} {key : String} {members : List (String × Json)}
    (hmem : (key, w) ∈ members) (h : Within v w) : Within v (.obj members)

/-- The floats in a value are read back from their texts. -/
def FloatsReadBack (v : Json) : Prop :=
  ∀ x, Within (.num (.real x)) v → (Number.real x).ReadsBack

/-- What comes after a value inside a container, or nothing. -/
def Ends (rest : List Char) : Prop := ∀ c ∈ rest.head?, c = ',' ∨ c = ']' ∨ c = '\x7d'

variable {rest : List Char}

theorem ends_nil : Ends [] := by simp [Ends]

theorem ends_cons {c : Char} (h : c = ',' ∨ c = ']' ∨ c = '\x7d') : Ends (c :: rest) := by
  intro d hd
  cases hd
  exact h

theorem Ends.not_isDigit (h : Ends rest) : ∀ c ∈ rest.head?, c.isDigit = false := by
  intro c hc
  rcases h c hc with rfl | rfl | rfl <;> rfl

/-! ## Numbers -/

section Numbers

variable {cs : List Char}

/-- An exponent goes no further than a value does. -/
theorem readExponent?_append (h : Ends rest) :
    readExponent? (cs ++ rest) = (readExponent? cs).map fun r => (r.1, r.2.1, r.2.2 ++ rest) := by
  have hunsigned (negative : Bool) (cs : List Char) :
      (if ((cs ++ rest).takeWhile Char.isDigit).isEmpty then none
        else some (negative, Text.natOfDigits ((cs ++ rest).takeWhile Char.isDigit),
          (cs ++ rest).dropWhile Char.isDigit)) =
      (if (cs.takeWhile Char.isDigit).isEmpty then none
        else some (negative, Text.natOfDigits (cs.takeWhile Char.isDigit),
          cs.dropWhile Char.isDigit)).map fun r => (r.1, r.2.1, r.2.2 ++ rest) := by
    rw [Joined.takeWhile_append_of_head h.not_isDigit, Joined.dropWhile_append_of_head h.not_isDigit]
    split <;> rfl
  cases cs with
  | nil =>
    cases rest with
    | nil => rfl
    | cons c rest => rcases h c rfl with rfl | rfl | rfl <;> rfl
  | cons c cs =>
    by_cases hplus : c = '+'
    · subst hplus
      exact hunsigned false cs
    · by_cases hminus : c = '-'
      · subst hminus
        exact hunsigned true cs
      · simpa [readExponent?, hplus, hminus] using hunsigned false (c :: cs)

theorem readScale?_append (h : Ends rest) (negative : Bool) (sig : Nat) (e : Int) :
    readScale? negative sig e (cs ++ rest) =
      (readScale? negative sig e cs).map fun r => (r.1, r.2 ++ rest) := by
  cases cs with
  | nil =>
    cases rest with
    | nil => simp [readScale?, Function.comp_def]
    | cons c rest =>
      rcases h c rfl with rfl | rfl | rfl <;> simp [readScale?, Function.comp_def]
  | cons c cs =>
    simp only [List.cons_append, readScale?]
    split
    · rw [readExponent?_append h]
      cases readExponent? cs with
      | none => rfl
      | some r => simp [Function.comp_def]
    · simp [Function.comp_def]

theorem readMagnitude?_append (h : Ends rest) (negative : Bool) :
    readMagnitude? negative (cs ++ rest) =
      (readMagnitude? negative cs).map fun r => (r.1, r.2 ++ rest) := by
  simp only [readMagnitude?, Joined.takeWhile_append_of_head h.not_isDigit,
    Joined.dropWhile_append_of_head h.not_isDigit]
  split
  · rfl
  cases hdrop : cs.dropWhile Char.isDigit with
  | nil =>
    cases rest with
    | nil => simp
    | cons c more =>
      have hscale := @readScale?_append _ [] h negative
      rw [List.nil_append] at hscale
      rcases h c rfl with rfl | rfl | rfl <;> simp [hscale] <;> split <;> simp
  | cons c more =>
    by_cases hpoint : c = '.'
    · subst hpoint
      simp only [List.cons_append, Joined.takeWhile_append_of_head h.not_isDigit,
        Joined.dropWhile_append_of_head h.not_isDigit, readScale?_append h]
      split <;> rfl
    · have hscale := @readScale?_append _ (c :: more) h negative
      rw [List.cons_append] at hscale
      simp only [List.cons_append, hscale]
      split <;> rfl

/-- A number goes no further than a value does. -/
theorem readNumber?_append (h : Ends rest) :
    readNumber? (cs ++ rest) = (readNumber? cs).map fun r => (r.1, r.2 ++ rest) := by
  cases cs with
  | nil =>
    cases rest with
    | nil => rfl
    | cons c rest => rcases h c rfl with rfl | rfl | rfl <;> rfl
  | cons c cs =>
    by_cases hminus : c = '-'
    · subst hminus
      exact readMagnitude?_append h true
    · have hunsigned (cs : List Char) : readNumber? (c :: cs) = readMagnitude? false (c :: cs) := by
        simp [readNumber?, hminus]
      rw [List.cons_append, hunsigned, hunsigned, ← List.cons_append, readMagnitude?_append h]

/-- More digits do not make a number less. -/
theorem le_foldl_digits (ds : List Char) (sig : Nat) :
    sig ≤ ds.foldl (fun n c => 10 * n + Text.digitValue c) sig := by
  induction ds generalizing sig with
  | nil => exact Nat.le_refl sig
  | cons d ds ih =>
    calc
      sig ≤ 10 * sig + Text.digitValue d := by omega
      _ ≤ _ := ih (10 * sig + Text.digitValue d)

/-- Digits whose number fits in 64 bits are all used. -/
theorem accumulate_eq {sig : Nat} {ds : List Char}
    (h : ds.foldl (fun n c => 10 * n + Text.digitValue c) sig ≤ maxWord) :
    accumulate sig ds = (ds.foldl (fun n c => 10 * n + Text.digitValue c) sig, ds.length) := by
  induction ds generalizing sig with
  | nil => rfl
  | cons d ds ih =>
    rw [List.foldl_cons] at h
    have hnext : sig * 10 + Text.digitValue d = 10 * sig + Text.digitValue d := by omega
    have hfits : ¬ sig * 10 + Text.digitValue d > maxWord := by
      rw [hnext]
      exact Nat.not_lt.mpr (Nat.le_trans (le_foldl_digits ds _) h)
    rw [accumulate]
    simp only [if_neg hfits]
    rw [hnext, ih h]
    rfl

/-- A natural number that fits in 64 bits is read from its digits. -/
theorem readMagnitude?_toDigits {n : Nat} (h : n ≤ maxWord) (negative : Bool) :
    readMagnitude? negative (Nat.toDigits 10 n) = some (integerOf negative n, []) := by
  have hdigits : ∀ c ∈ Nat.toDigits 10 n, c.isDigit = true :=
    fun _ => Digits.isDigit_of_mem_toDigits
  have hvalue : (Nat.toDigits 10 n).foldl (fun n c => 10 * n + Text.digitValue c) 0 = n :=
    Digits.natOfDigits_toDigits n
  have hused : accumulate 0 (Nat.toDigits 10 n) = (n, (Nat.toDigits 10 n).length) := by
    rw [accumulate_eq (by rw [hvalue]; exact h), hvalue]
  have htake : (Nat.toDigits 10 n).takeWhile Char.isDigit = Nat.toDigits 10 n := by
    simpa using @List.takeWhile_append_of_pos _ _ _ [] hdigits
  have hdrop : (Nat.toDigits 10 n).dropWhile Char.isDigit = [] := by
    simpa using @List.dropWhile_append_of_pos _ _ _ [] hdigits
  have hzero : ¬ (((Nat.toDigits 10 n).isEmpty || ((Nat.toDigits 10 n).head? == some '0' &&
      decide ((Nat.toDigits 10 n).length > 1))) = true) := by
    simp only [Bool.or_eq_true, Bool.and_eq_true, beq_iff_eq, decide_eq_true_eq, not_or, not_and]
    exact ⟨by simp, fun hhead => by simp [Digits.length_toDigits_of_head hhead]⟩
  simp only [readMagnitude?, htake, hdrop, hused, if_neg hzero, Nat.sub_self, gt_iff_lt,
    Nat.lt_irrefl, if_false]

/-- Integers that fit in 64 bits are read back. -/
theorem readsBack_int {i : Int} (h : (Number.int i).InRange) : (Number.int i).ReadsBack := by
  obtain ⟨hmin, hmax⟩ := h
  change readNumber? (toString i).toList = _
  cases i with
  | ofNat n =>
    have hchars : (toString (Int.ofNat n)).toList = Nat.toDigits 10 n := Digits.toList_toString n
    have hread := readMagnitude?_toDigits (Int.ofNat_le.mp hmax) false
    rw [hchars]
    unfold readNumber?
    split
    · rename_i heq
      exact absurd (heq ▸ List.mem_cons_self) (Digits.notMem_toDigits (c := '-') rfl n)
    · exact hread
  | negSucc n =>
    have hchars : (toString (Int.negSucc n)).toList = '-' :: Nat.toDigits 10 (n + 1) := by
      change ("-" ++ toString (n + 1)).toList = _
      rw [String.toList_append, show "-".toList = ['-'] from rfl, List.singleton_append,
        Digits.toList_toString]
    have hbound : n + 1 ≤ 9223372036854775808 := by
      simp only [Text.int64Min] at hmin
      omega
    rw [hchars, readNumber?, readMagnitude?_toDigits (by simp only [maxWord]; omega) true,
      integerOf, if_pos rfl, if_neg (by omega)]
    rfl

/-- A text that begins with a number begins with a digit or a hyphen. -/
theorem head_of_readNumber? {n : Number} (h : readNumber? cs = some (n, rest)) :
    ∃ c tail, cs = c :: tail ∧ (c.isDigit = true ∨ c = '-') := by
  cases cs with
  | nil => cases h
  | cons c tail =>
    refine ⟨c, tail, rfl, ?_⟩
    by_cases hminus : c = '-'
    · exact .inr hminus
    · refine .inl ?_
      by_contra hdigit
      simp [readNumber?, hminus, readMagnitude?, hdigit] at h

end Numbers

/-! ## Strings -/

theorem hexValue?_hexDigit : ∀ n < 16, hexValue? (hexDigit n) = some n := by decide

/-- What stands after the backslash of a control character. -/
theorem readEscape?_control {c : Char} (h : c.toNat < 0x20) :
    readEscape? ('u' :: '0' :: '0' :: hexDigit (c.toNat / 16) :: hexDigit (c.toNat % 16) :: rest) =
      some (c, rest) := by
  have hhigh := hexValue?_hexDigit (c.toNat / 16) (by omega)
  have hlow := hexValue?_hexDigit (c.toNat % 16) (by omega)
  have hzero : hexValue? '0' = some 0 := rfl
  have hvalue : ((0 * 16 + 0) * 16 + c.toNat / 16) * 16 + c.toNat % 16 = c.toNat := by omega
  simp only [readEscape?, readHex4?, hzero, hhigh, hlow, Option.bind_eq_bind, Option.bind_some,
    Option.pure_def, hvalue]
  rw [if_neg (by omega), if_neg (by omega), Char.ofNat_toNat]

/-- One character inside quotes is read back in one step. -/
theorem stringBody?_escapeChar (fuel : Nat) (acc : List Char) (c : Char) (rest : List Char) :
    stringBody? (fuel + 1) acc (escapeChar c ++ rest) = stringBody? fuel (c :: acc) rest := by
  unfold escapeChar
  split
  case h_8 hquote hslash _ _ _ _ _ =>
    split
    · rename_i hcontrol
      simp only [List.cons_append, List.nil_append, stringBody?, readEscape?_control hcontrol]
      rfl
    · rename_i hplain
      have hne : c ≠ '"' ∧ c ≠ '\\' := ⟨hquote, hslash⟩
      simp [stringBody?, hne.1, hne.2, hplain]
  all_goals rfl

/-- The characters inside quotes are read back. -/
theorem stringBody?_escaped {fuel : Nat} {cs : List Char} (hfuel : cs.length < fuel)
    (acc rest : List Char) :
    stringBody? fuel acc (cs.flatMap escapeChar ++ '"' :: rest) =
      some (String.ofList (acc.reverse ++ cs), rest) := by
  induction cs generalizing fuel acc with
  | nil =>
    obtain ⟨fuel, rfl⟩ := Nat.exists_eq_add_of_lt hfuel
    simp [stringBody?]
  | cons c cs ih =>
    obtain ⟨fuel, rfl⟩ : ∃ m, fuel = m + 1 := ⟨fuel - 1, by simp at hfuel; omega⟩
    rw [List.flatMap_cons, List.append_assoc, stringBody?_escapeChar,
      ih (by simpa using hfuel), List.reverse_cons, List.append_assoc, List.singleton_append]

/-- Parts that are not empty are no more than the characters of all of them. -/
theorem length_le_length_flatMap {α : Type} {chars : α → List Char} (h : ∀ a, chars a ≠ [])
    (xs : List α) : xs.length ≤ (xs.flatMap chars).length := by
  induction xs with
  | nil => simp
  | cons x xs ih =>
    have hone := List.length_pos_iff.mpr (h x)
    rw [List.flatMap_cons, List.length_append, List.length_cons]
    omega

theorem escapeChar_ne_nil (c : Char) : escapeChar c ≠ [] := by
  unfold escapeChar
  split
  case h_8 => split <;> simp
  all_goals simp

theorem toList_quote (s : String) :
    (quote s).toList = '"' :: (s.toList.flatMap escapeChar ++ ['"']) := String.toList_ofList

/-- A string is read back from its quoted form. -/
theorem readString?_escaped (s : String) (rest : List Char) :
    readString? (s.toList.flatMap escapeChar ++ '"' :: rest) = some (s, rest) := by
  have hlength := length_le_length_flatMap escapeChar_ne_nil s.toList
  rw [readString?, stringBody?_escaped (by simp only [List.length_append]; omega)]
  simp

/-! ## Containers -/

theorem renderItems_eq_map (items : List Json) : renderItems items = items.map render := by
  induction items with
  | nil => rfl
  | cons v rest ih => rw [renderItems, ih, List.map_cons]

theorem renderMembers_eq_map (members : List (String × Json)) :
    renderMembers members = members.map fun p => quote p.1 ++ ":" ++ p.2.render := by
  induction members with
  | nil => rfl
  | cons p rest ih => rw [renderMembers, ih, List.map_cons]

/-- The characters of a member: its key in quotes, a colon and its value. -/
def memberChars (p : String × Json) : List Char :=
  '"' :: (p.1.toList.flatMap escapeChar ++ '"' :: ':' :: p.2.render.toList)

theorem toList_render_arr (v : Json) (items : List Json) :
    (Json.arr (v :: items)).render.toList =
      '[' :: (v.render.toList ++ ((items.flatMap fun w => ',' :: w.render.toList) ++ [']'])) := by
  simp only [render, renderItems_eq_map, String.toList_append, String.toList_intercalate,
    List.map_cons, List.map_map]
  rw [show ",".toList = [','] from rfl, Joined.intercalate_cons_eq, List.flatMap_map]
  simp

theorem toList_render_obj (p : String × Json) (members : List (String × Json)) :
    (Json.obj (p :: members)).render.toList =
      '\x7b' :: (memberChars p ++ ((members.flatMap fun q => ',' :: memberChars q) ++ ['\x7d'])) := by
  simp only [render, renderMembers_eq_map, String.toList_append, String.toList_intercalate,
    List.map_cons, List.map_map]
  rw [show ",".toList = [','] from rfl, Joined.intercalate_cons_eq, List.flatMap_map]
  simp [memberChars, toList_quote]

variable {item : List Char → Option (Json × List Char)}

/-- Items are read back one after the other if each of them is. -/
theorem itemsWith_render {v : Json} {items : List Json}
    (hitem : ∀ w ∈ v :: items, ∀ rest, Ends rest → item (w.render.toList ++ rest) = some (w, rest))
    {fuel : Nat} (hfuel : items.length < fuel) (acc : List Json) (rest : List Char) :
    itemsWith item fuel acc (v.render.toList ++
        ((items.flatMap fun w => ',' :: w.render.toList) ++ ']' :: rest)) =
      some (acc.reverse ++ v :: items, rest) := by
  obtain ⟨fuel, rfl⟩ : ∃ m, fuel = m + 1 := ⟨fuel - 1, by omega⟩
  induction items generalizing v fuel acc with
  | nil =>
    have hv := hitem v List.mem_cons_self (']' :: rest) (ends_cons (by simp))
    simp only [List.flatMap_nil, List.nil_append, itemsWith, hv, Option.bind_some]
    simp [skipSpace, isSpace]
  | cons w items ih =>
    have hlonger : items.length < fuel := by simpa using hfuel
    obtain ⟨fuel, rfl⟩ : ∃ m, fuel = m + 1 := ⟨fuel - 1, by omega⟩
    rw [List.flatMap_cons, List.append_assoc, List.cons_append, itemsWith,
      hitem v List.mem_cons_self _ (ends_cons (by simp)), Option.bind_some]
    have hrest := ih (fun u hu => hitem u (List.mem_cons_of_mem v hu)) (v :: acc) fuel hlonger
    simpa [skipSpace, isSpace] using hrest

/-- A member is read to the end of its value, and then the next one, … -/
theorem membersWith_next {p : String × Json}
    (hitem : ∀ rest, Ends rest → item (p.2.render.toList ++ rest) = some (p.2, rest))
    (fuel : Nat) (acc : List (String × Json)) (more : List Char) :
    membersWith item (fuel + 1) acc (memberChars p ++ ',' :: more) =
      membersWith item fuel (p :: acc) more := by
  have hvalue := hitem (',' :: more) (ends_cons (by simp))
  rw [membersWith, memberChars, List.cons_append, List.append_assoc]
  simp [readString?_escaped, skipSpace, isSpace, hvalue]

/-- … unless it is the last one. -/
theorem membersWith_last {p : String × Json}
    (hitem : ∀ rest, Ends rest → item (p.2.render.toList ++ rest) = some (p.2, rest))
    (fuel : Nat) (acc : List (String × Json)) (rest : List Char) :
    membersWith item (fuel + 1) acc (memberChars p ++ '\x7d' :: rest) =
      some ((p :: acc).reverse, rest) := by
  have hvalue := hitem ('\x7d' :: rest) (ends_cons (by simp))
  rw [membersWith, memberChars, List.cons_append, List.append_assoc]
  simp [readString?_escaped, skipSpace, isSpace, hvalue]

/-- Members are read back one after the other if each of their values is. -/
theorem membersWith_render {p : String × Json} {members : List (String × Json)}
    (hitem : ∀ q ∈ p :: members, ∀ rest, Ends rest →
      item (q.2.render.toList ++ rest) = some (q.2, rest))
    {fuel : Nat} (hfuel : members.length < fuel) (acc : List (String × Json)) (rest : List Char) :
    membersWith item fuel acc (memberChars p ++
        ((members.flatMap fun q => ',' :: memberChars q) ++ '\x7d' :: rest)) =
      some (acc.reverse ++ p :: members, rest) := by
  obtain ⟨fuel, rfl⟩ : ∃ m, fuel = m + 1 := ⟨fuel - 1, by omega⟩
  induction members generalizing p fuel acc with
  | nil =>
    rw [List.flatMap_nil, List.nil_append, membersWith_last (hitem p List.mem_cons_self),
      List.reverse_cons]
  | cons q members ih =>
    have hlonger : members.length < fuel := by simpa using hfuel
    obtain ⟨fuel, rfl⟩ : ∃ m, fuel = m + 1 := ⟨fuel - 1, by omega⟩
    have hrest := ih (fun u hu => hitem u (List.mem_cons_of_mem p hu)) (p :: acc) fuel hlonger
    rw [List.flatMap_cons, List.append_assoc, List.cons_append,
      membersWith_next (hitem p List.mem_cons_self), hrest, List.reverse_cons, List.append_assoc,
      List.singleton_append]

/-! ## Values -/

section Values

variable {depth : Nat}

theorem readValue?_null :
    readValue? depth (Json.null.render.toList ++ rest) = some (.null, rest) := by
  rw [readValue?.eq_def]
  simp [render, skipSpace, isSpace, afterWord?]

theorem readValue?_bool (b : Bool) :
    readValue? depth ((Json.bool b).render.toList ++ rest) = some (.bool b, rest) := by
  cases b <;>
  · rw [readValue?.eq_def]
    simp [render, skipSpace, isSpace, afterWord?]

theorem readValue?_str (s : String) :
    readValue? depth ((Json.str s).render.toList ++ rest) = some (.str s, rest) := by
  rw [readValue?.eq_def, render, toList_quote, List.cons_append, List.append_assoc]
  simp [skipSpace, isSpace, readString?_escaped]

/-- What begins with a digit or a hyphen is read as a number. -/
theorem readValue?_cons_of_number {c : Char} (cs : List Char) (h : c.isDigit = true ∨ c = '-') :
    readValue? depth (c :: cs) = (readNumber? (c :: cs)).map fun (n, more) => (.num n, more) := by
  have hne (d : Char) (hd : d.isDigit = false) (hminus : d ≠ '-') : c ≠ d := by
    rintro rfl
    rcases h with h | h
    · rw [hd] at h
      cases h
    · exact hminus h
  have hspace : isSpace c = false := by
    simp [isSpace, hne ' ' rfl (by decide), hne '\t' rfl (by decide), hne '\n' rfl (by decide),
      hne '\r' rfl (by decide)]
  rw [readValue?.eq_def]
  simp [skipSpace, hspace, hne 'n' rfl (by decide), hne 't' rfl (by decide),
    hne 'f' rfl (by decide), hne '"' rfl (by decide), hne '[' rfl (by decide),
    hne '\x7b' rfl (by decide)]

theorem readValue?_num {n : Number} (h : n.ReadsBack) (hrest : Ends rest) :
    readValue? depth ((Json.num n).render.toList ++ rest) = some (.num n, rest) := by
  have hread := @readNumber?_append rest n.render.toList hrest
  rw [h] at hread
  obtain ⟨c, tail, heq, hc⟩ := head_of_readNumber? h
  rw [render, heq, List.cons_append, readValue?_cons_of_number _ hc, ← List.cons_append, ← heq,
    hread]
  rfl

/-- A closing bracket is not the begin of a value. -/
theorem readValue?_eq_none {cs more : List Char} (h : skipSpace cs = ']' :: more) :
    readValue? depth cs = none := by
  have hread : readValue? depth (']' :: more) = none := by
    rw [readValue?.eq_def]
    rfl
  have hspace : skipSpace (']' :: more) = ']' :: more := by simp [skipSpace, isSpace]
  rw [readValue?.eq_def] at hread ⊢
  simp only [h]
  simpa only [hspace] using hread

theorem readValue?_openBracket (cs : List Char) :
    readValue? (depth + 1) ('[' :: cs) =
      match skipSpace cs with
      | ']' :: more => some (.arr [], more)
      | _ => (itemsWith (readValue? depth) (cs.length + 1) [] cs).map
          fun (items, more) => (.arr items, more) := by
  rw [readValue?.eq_def]
  rfl

theorem readValue?_openBrace (cs : List Char) :
    readValue? (depth + 1) ('\x7b' :: cs) =
      match skipSpace cs with
      | '\x7d' :: more => some (.obj [], more)
      | _ => (membersWith (readValue? depth) (cs.length + 1) [] cs).map
          fun (members, more) => (.obj (Assoc.ofList members), more) := by
  rw [readValue?.eq_def]
  rfl

/-- A list is read back from its text if its items are. -/
theorem readValue?_arr {items : List Json} (hitems : ∀ v ∈ items, ∀ rest, Ends rest →
      readValue? depth (v.render.toList ++ rest) = some (v, rest)) :
    readValue? (depth + 1) ((Json.arr items).render.toList ++ rest) = some (.arr items, rest) := by
  cases items with
  | nil =>
    rw [readValue?.eq_def]
    simp [render, renderItems, skipSpace, isSpace]
  | cons v items =>
    let tail := (items.flatMap fun w => ',' :: w.render.toList) ++ ']' :: rest
    have htext : (Json.arr (v :: items)).render.toList ++ rest =
        '[' :: (v.render.toList ++ tail) := by
      simp [toList_render_arr, tail]
    have hfuel : items.length < (v.render.toList ++ tail).length + 1 := by
      have hlength := length_le_length_flatMap (fun w : Json => List.cons_ne_nil ',' w.render.toList)
        items
      simp only [List.length_append, tail]
      omega
    have hread : itemsWith (readValue? depth) ((v.render.toList ++ tail).length + 1) []
        (v.render.toList ++ tail) = some (v :: items, rest) := itemsWith_render hitems hfuel [] rest
    have htail : Ends tail := by
      cases items with
      | nil => exact ends_cons (by simp)
      | cons w items => exact ends_cons (by simp)
    rw [htext, readValue?_openBracket]
    split
    · -- The first item would begin with a closing bracket.
      rename_i hmore
      have hv := hitems v List.mem_cons_self tail htail
      rw [readValue?_eq_none hmore] at hv
      cases hv
    · rw [hread]
      rfl

/-- An object is read back from its text if the values of its members are. -/
theorem readValue?_obj {members : List (String × Json)} (hascending : Assoc.Ascending members)
    (hmembers : ∀ p ∈ members, ∀ rest, Ends rest →
      readValue? depth (p.2.render.toList ++ rest) = some (p.2, rest)) :
    readValue? (depth + 1) ((Json.obj members).render.toList ++ rest) =
      some (.obj members, rest) := by
  cases members with
  | nil =>
    rw [readValue?.eq_def]
    simp [render, renderMembers, skipSpace, isSpace]
  | cons p members =>
    let tail := (members.flatMap fun q => ',' :: memberChars q) ++ '\x7d' :: rest
    have htext : (Json.obj (p :: members)).render.toList ++ rest =
        '\x7b' :: (memberChars p ++ tail) := by
      simp [toList_render_obj, tail]
    have hfuel : members.length < (memberChars p ++ tail).length + 1 := by
      have hlength := length_le_length_flatMap (fun q => List.cons_ne_nil ',' (memberChars q)) members
      simp only [List.length_append, tail]
      omega
    have hread : membersWith (readValue? depth) ((memberChars p ++ tail).length + 1) []
        (memberChars p ++ tail) = some (p :: members, rest) :=
      membersWith_render hmembers hfuel [] rest
    rw [htext, readValue?_openBrace, hread]
    simp [memberChars, skipSpace, isSpace, Assoc.ofList_of_ascending hascending]

/-- **A value is read back from its text**, whatever comes after it, if its floats are. -/
theorem readValue?_render {v : Json} (hv : v.Readable depth)
    (hfloats : v.FloatsReadBack) (hrest : Ends rest) :
    readValue? depth (v.render.toList ++ rest) = some (v, rest) := by
  induction depth using Nat.strongRecOn generalizing v rest with
  | ind depth ih =>
    cases v with
    | null => exact readValue?_null
    | bool b => exact readValue?_bool b
    | str s => exact readValue?_str s
    | num n =>
      refine readValue?_num ?_ hrest
      cases n with
      | int i => exact readsBack_int (readable_num.mp hv)
      | real x => exact hfloats x (.self _)
    | arr items =>
      obtain ⟨inner, rfl, hitems⟩ := hv.exists_of_arr
      exact readValue?_arr fun w hw rest hrest => ih inner (Nat.lt_succ_self inner)
        (hitems w hw) (fun x hx => hfloats x (.item hw hx)) hrest
    | obj members =>
      obtain ⟨inner, rfl, hascending, hvalues⟩ := hv.exists_of_obj
      exact readValue?_obj hascending fun p hp rest hrest => ih inner (Nat.lt_succ_self inner)
        (hvalues p hp) (fun x hx => hfloats x (.member hp hx)) hrest

/-- **A value is read back from its text** if its floats are. -/
theorem parse?_render {v : Json} (hv : v.Readable maxDepth) (hfloats : v.FloatsReadBack) :
    parse? v.render = some v := by
  have hread := readValue?_render hv hfloats ends_nil
  rw [List.append_nil] at hread
  rw [parse?, hread]
  rfl

/-- Not every finite float is read back: of this one the reader divides the digits, rounded to a
float, by a power of ten that is no float either. -/
theorem exists_not_readsBack : ∃ x : Float, x.isFinite = true ∧ ¬ (Number.real x).ReadsBack := by
  refine ⟨Float.ofScientific 5907362807030448 true 25, by decide, fun h => ?_⟩
  have hbits := congrArg (fun r => r.map fun p => p.1.toFloat.toBits) h
  revert hbits
  decide

example : (Number.real 0.5).ReadsBack := rfl

end Values

end Json

end LintLedger
