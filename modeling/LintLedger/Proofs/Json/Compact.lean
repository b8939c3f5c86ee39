import LintLedger.Proofs.Json.RoundTrip

/-!
# Compact text of documents

The compact text of a value has no line break, for those in strings are escaped and nothing is put
between its parts.  So documents can be written one on a line.  The line of an object begins and
ends with a brace, and what begins with a brace is read as an object or not at all.

## Main Statements

* `Json.notMem_render` -- there is no line break in the compact text of a value
* `Json.exists_render_eq_of_isObject` -- the text of an object is between braces
* `Json.isObject_of_parse?` -- what begins with a brace is an object
-/

namespace LintLedger

/-! ## Numbers -/

/-- What is no digit and no part of a format is not in the text of a decimal. -/
theorem Decimal.notMem_render {c : Char} (hdigit : c.isDigit = false) (hsign : c ≠ '.' ∧ c ≠ '-')
    {f : Decimal.RealFormat} (hend : c ∉ f.integralEnd.toList) (hmark : c ∉ f.exponentMark.toList)
    (hpositive : c ∉ f.positiveSign.toList) (d : Decimal.Scientific) :
    c ∉ (d.render f).toList := by
  obtain ⟨hpoint, hminus⟩ := hsign
  have hdigits (n : Nat) : c ∉ Nat.toDigits 10 n := Digits.notMem_toDigits hdigit n
  have htake (k n : Nat) : c ∉ (Nat.toDigits 10 n).take k :=
    fun h => hdigits n (List.mem_of_mem_take h)
  have hdrop (k n : Nat) : c ∉ (Nat.toDigits 10 n).drop k :=
    fun h => hdigits n (List.mem_of_mem_drop h)
  have hzero : c ≠ '0' := by
    rintro rfl
    cases hdigit
  have hzeros (n : Nat) : c ∉ (Decimal.zeros n).toList := by
    simp [Decimal.zeros, hzero]
  simp only [Decimal.Scientific.render, Digits.toList_toString]
  split
  · simp [hzero, hend]
  split
  · split
    · simp [hdigits, hzeros, hend]
    · split
      · simp [htake, hdrop, hpoint]
      · simp [hdigits, hzeros, hzero, hpoint]
  -- only the form with an exponent has signs and marks
  · have hfraction : c ∉ (if (Nat.toDigits 10 d.digits).length > 1 then
        "." ++ String.ofList ((Nat.toDigits 10 d.digits).drop 1) else "").toList := by
      split
      · simp only [String.toList_append, String.toList_ofList, List.mem_append, not_or]
        exact ⟨by simp [hpoint], hdrop 1 _⟩
      · simp
    have hexponent (lead : Int) : c ∉ (if lead < 0 then "-" ++ toString lead.natAbs
        else f.positiveSign ++ toString lead.natAbs).toList := by
      split
      · simp [hminus, hdigits]
      · simp [hpositive, hdigits]
    simp only [String.toList_append, String.toList_ofList, List.mem_append, not_or]
    exact ⟨⟨⟨htake 1 _, hfraction⟩, hmark⟩, hexponent _⟩

namespace Json

theorem notMem_renderReal (x : Float) : '\n' ∉ (renderReal x).toList := by
  have hdecimal (d : Decimal.Scientific) : '\n' ∉ (d.render realFormat).toList :=
    Decimal.notMem_render rfl (by decide) (by decide) (by decide) (by decide) d
  unfold renderReal
  split
  · decide
  · decide
  · rw [String.toList_append, List.mem_append, not_or]
    exact ⟨by split <;> decide, hdecimal _⟩

theorem notMem_renderNumber (n : Number) : '\n' ∉ n.render.toList := by
  cases n with
  | int i => exact Digits.notMem_toString_int rfl (by decide) i
  | real x => exact notMem_renderReal x

/-! ## Strings -/

theorem hexDigit_ne : ∀ n < 16, hexDigit n ≠ '\n' := by decide

/-- A line break inside quotes is escaped. -/
theorem notMem_escapeChar (c : Char) : '\n' ∉ escapeChar c := by
  unfold escapeChar
  split
  case h_8 =>
    rename_i hbreak _ _
    split
    · rename_i hcontrol
      have hhigh := hexDigit_ne (c.toNat / 16) (by omega)
      have hlow := hexDigit_ne (c.toNat % 16) (by omega)
      simp [hhigh.symm, hlow.symm]
    · simpa using Ne.symm hbreak
  all_goals decide

theorem notMem_escaped (s : String) : '\n' ∉ s.toList.flatMap escapeChar := by
  rw [List.mem_flatMap]
  rintro ⟨c, -, hc⟩
  exact notMem_escapeChar c hc

/-! ## Values -/

mutual

/-- **There is no line break in the compact text of a value.** -/
theorem notMem_render : (v : Json) → '\n' ∉ v.render.toList
  | .null => by decide
  | .bool true => by decide
  | .bool false => by decide
  | .num n => notMem_renderNumber n
  | .str s => by
    rw [render, toList_quote]
    simpa using notMem_escaped s
  | .arr [] => by decide
  | .arr (v :: items) => by
    have hv := notMem_render v
    have hitems := notMem_render_of_mem_items items
    rw [toList_render_arr]
    simpa [hv, List.mem_flatMap] using hitems
  | .obj [] => by decide
  | .obj (p :: members) => by
    have hmembers := notMem_render_of_mem_members (p :: members)
    have hmember : ∀ q ∈ p :: members, '\n' ∉ memberChars q := by
      intro q hq
      simpa [memberChars, hmembers q hq] using notMem_escaped q.1
    obtain ⟨hp, hrest⟩ := List.forall_mem_cons.mp hmember
    rw [toList_render_obj]
    simpa [hp, List.mem_flatMap] using fun key value h => hrest (key, value) h

theorem notMem_render_of_mem_items : (items : List Json) → ∀ v ∈ items, '\n' ∉ v.render.toList
  | [] => nofun
  | v :: rest => List.forall_mem_cons.mpr ⟨notMem_render v, notMem_render_of_mem_items rest⟩

theorem notMem_render_of_mem_members :
    (members : List (String × Json)) → ∀ p ∈ members, '\n' ∉ p.2.render.toList
  | [] => nofun
  | (_, v) :: rest =>
    List.forall_mem_cons.mpr ⟨notMem_render v, notMem_render_of_mem_members rest⟩

end

/-- The text of an object is between braces. -/
theorem exists_render_eq_of_isObject {v : Json} (h : v.isObject = true) :
    ∃ inner, v.render.toList = '\x7b' :: (inner ++ ['\x7d']) := by
  cases v with
  | obj members => exact ⟨(",".intercalate (renderMembers members)).toList, by simp [render]⟩
  | _ => cases h

/-- **What begins with a brace is read as an object**, or not at all. -/
theorem isObject_of_parse? {s : String} {v : Json} (hs : s.toList.head? = some '\x7b')
    (h : parse? s = some v) : v.isObject = true := by
  obtain ⟨rest, hrest⟩ := List.head?_eq_some_iff.mp hs
  obtain ⟨⟨w, more⟩, hread, heq⟩ := Option.bind_eq_some_iff.mp h
  have hw : w = v := by
    dsimp only at heq
    split at heq <;> cases heq
    rfl
  rw [hrest, maxDepth, readValue?_openBrace] at hread
  split at hread
  · cases hread
    rw [← hw]
    rfl
  · obtain ⟨members, -, hobject⟩ := Option.map_eq_some_iff.mp hread
    cases hobject
    rw [← hw]
    rfl

end Json

end LintLedger
