import LintLedger.Identity
import LintLedger.Proofs.Data.Joined
import Mathlib.Data.List.Basic

/-!
# What the identity of a finding tells apart

The identity is the digest of one text: the table, the root, the path below the root and the texts
of those identity fields that say something, with bars between them.  From that text the parts can
be told again where two findings have the same fields and no part but the message contains a bar.
Otherwise they cannot: nothing stands in the place of a field that says nothing, so that one field
passes for another, and a message with a bar passes for a message and a field.

## Main Definitions

* `Sha256.hexNat` -- the digits of the digest of a text, computed over numbers
* `Finding.fieldText?` -- the text of an identity field that says something
* `Finding.identityText`, `Finding.identityChars` -- the text that is digested, and its characters
* `Finding.SameIdentity` -- agreement on all that is to take part in the identity
* `Finding.SameFields`, `Finding.BarFree` -- what two findings need for being told apart
* `Finding.TellsApart` -- a digest that does not confuse the texts of two findings

## Main Statements

* `Sha256.hex_eq` -- the digest computed over numbers is the digest
* `Finding.contentKey_eq_iff` -- such findings have one identity exactly if they agree
* `Finding.contentKey_confuses_fields` -- three findings that differ and have one identity
-/

namespace LintLedger.Sha256

/-! ## The digest over numbers

Arithmetic on machine words and the growing array of the schedule are slow where the digest of a
fixed text is computed in a proof.  Over natural numbers it is quick: the words of the schedule are
put in front of a list, and the rounds take their words from two lists. -/

/-- What a word holds of a number: its last 32 bits. -/
def wrap (n : Nat) : Nat := n % 4294967296

/-- `rotate` over numbers. -/
def rotateNat (x n : Nat) : Nat := wrap (x >>> n ||| x <<< (32 - n))

/-- `State` over numbers. -/
structure Numbers where
  a : Nat
  b : Nat
  c : Nat
  d : Nat
  e : Nat
  f : Nat
  g : Nat
  h : Nat

/-- The numbers of the words of a state. -/
def State.numbers (s : State) : Numbers :=
  ⟨s.a.toNat, s.b.toNat, s.c.toNat, s.d.toNat, s.e.toNat, s.f.toNat, s.g.toNat, s.h.toNat⟩

/-- The next word of a schedule of so many words, from these with the last one first. -/
def nextNat (size : Nat) (w : List Nat) : Nat :=
  let x := w.getD (min 14 (size - 1)) 0
  let y := w.getD (min 1 (size - 1)) 0
  let s0 := rotateNat x 7 ^^^ rotateNat x 18 ^^^ (x >>> 3)
  let s1 := rotateNat y 17 ^^^ rotateNat y 19 ^^^ (y >>> 10)
  wrap (w.getD (min 15 (size - 1)) 0 + s0 + w.getD (min 6 (size - 1)) 0 + s1)

/-- Words with as many next words as asked for, the last one first. -/
def extendNat : Nat → Nat → List Nat → List Nat
  | 0, _, w => w
  | n + 1, size, w => extendNat n (size + 1) (nextNat size w :: w)

/-- `round` over numbers. -/
def roundNat (s : Numbers) (k w : Nat) : Numbers :=
  let s1 := rotateNat s.e 6 ^^^ rotateNat s.e 11 ^^^ rotateNat s.e 25
  let ch := (s.e &&& s.f) ^^^ ((4294967295 - s.e) &&& s.g)
  let t1 := s.h + s1 + ch + k + w
  let s0 := rotateNat s.a 2 ^^^ rotateNat s.a 13 ^^^ rotateNat s.a 22
  let maj := (s.a &&& s.b) ^^^ (s.a &&& s.c) ^^^ (s.b &&& s.c)
  ⟨wrap (t1 + (s0 + maj)), s.a, s.b, s.c, wrap (s.d + t1), s.e, s.f, s.g⟩

theorem toNat_rotate {x n : UInt32} (hpos : 0 < n.toNat) (hlt : n.toNat < 32) :
    (rotate x n).toNat = rotateNat x.toNat n.toNat := by
  have hx : x.toNat >>> n.toNat < 2 ^ 32 :=
    lt_of_le_of_lt (Nat.shiftRight_le _ _) x.toNat_lt
  have hsub : (32 - n).toNat = 32 - n.toNat := by
    rw [UInt32.toNat_sub_of_le]
    · rfl
    · exact UInt32.le_iff_toNat_le.mpr (by simpa using hlt.le)
  rw [rotate, rotateNat, wrap, UInt32.toNat_or, UInt32.toNat_shiftRight, UInt32.toNat_shiftLeft,
    hsub, Nat.mod_eq_of_lt hlt, Nat.mod_eq_of_lt (show 32 - n.toNat < 32 by omega),
    show 4294967296 = 2 ^ 32 from rfl, Nat.or_mod_two_pow, Nat.mod_eq_of_lt hx]

/-- One round. -/
theorem numbers_round (s : State) (k w : UInt32) :
    (round s k w).numbers = roundNat s.numbers k.toNat w.toNat := by
  simp [round, roundNat, wrap, State.numbers, toNat_rotate]

/-- Rounds with round words and the words of a schedule, one after the other. -/
def roundsNat : List Nat → List Nat → Numbers → Numbers
  | [], _, s => s
  | k :: ks, w, s => roundsNat ks w.tail (roundNat s k (w.headD 0))

/-- `compress` over numbers. -/
def compressNat (s : Numbers) (block : List Nat) : Numbers :=
  let w := (extendNat 48 block.length block.reverse).reverse
  let t := roundsNat (roundWords.toList.map UInt32.toNat) w s
  ⟨wrap (s.a + t.a), wrap (s.b + t.b), wrap (s.c + t.c), wrap (s.d + t.d),
    wrap (s.e + t.e), wrap (s.f + t.f), wrap (s.g + t.g), wrap (s.h + t.h)⟩

/-- `absorb` over numbers. -/
def absorbNat : Nat → Numbers → List Nat → Numbers
  | 0, s, _ => s
  | _, s, [] => s
  | fuel + 1, s, words => absorbNat fuel (compressNat s (words.take 16)) (words.drop 16)

/-- The eight hexadecimal digits of a number. -/
def hexNumber (n : Nat) : List Char :=
  (List.range 8).map fun i => hexDigit (n / Nat.pow 16 (7 - i) % 16)

/-- The digits of `hex` over numbers, from the characters of a text. -/
def hexNat (text : List Char) : List Char :=
  let words := (wordsOf (pad (text.flatMap Text.encodeChar))).map UInt32.toNat
  let t := absorbNat words.length State.initial.numbers words
  [t.a, t.b, t.c, t.d, t.e, t.f, t.g, t.h].flatMap hexNumber

/-- A word counted from the end of an array. -/
theorem toNat_getD_sub (w : Array UInt32) (i : Nat) :
    (w.getD (w.size - (i + 1)) 0).toNat =
      (w.toList.map UInt32.toNat).reverse.getD (min i (w.size - 1)) 0 := by
  rw [Array.getD_eq_getD_getElem?, List.getD_eq_getElem?_getD, ← List.map_reverse,
    List.getElem?_map, ← UInt32.toNat_zero, Option.getD_map]
  rcases Nat.eq_zero_or_pos w.size with hempty | hpos
  · simp [Array.size_eq_zero_iff.mp hempty]
  · rw [List.getElem?_reverse (by rw [Array.length_toList]; omega), Array.getElem?_toList,
      Array.length_toList]
    congr 3
    omega

/-- One word of the schedule. -/
theorem toNat_nextWord (w : Array UInt32) :
    (nextWord w).toNat = nextNat w.size (w.toList.map UInt32.toNat).reverse := by
  simp only [nextWord, nextNat, wrap, UInt32.toNat_add, UInt32.toNat_xor,
    UInt32.toNat_shiftRight, ← toNat_getD_sub]
  simp [toNat_rotate]

theorem toList_foldl_push (is : List Nat) (w : Array UInt32) :
    (is.foldl (fun w _ => w.push (nextWord w)) w).toList.map UInt32.toNat =
      (extendNat is.length w.size (w.toList.map UInt32.toNat).reverse).reverse := by
  induction is generalizing w with
  | nil => simp [extendNat]
  | cons i is ih =>
    rw [List.foldl_cons, ih, List.length_cons, extendNat, ← toNat_nextWord, Array.size_push,
      Array.toList_push, List.map_append, List.reverse_append]
    rfl

theorem toList_schedule (block : List UInt32) :
    (schedule block).toList.map UInt32.toNat =
      (extendNat 48 block.length (block.map UInt32.toNat).reverse).reverse := by
  rw [schedule, toList_foldl_push, List.length_range, List.size_toArray]

/-- All rounds.  Behind the last word of the schedule both sides read zeros. -/
theorem numbers_foldl_round (ks w : List UInt32) (s : State) :
    ((List.range ks.length).foldl (fun t i => round t (ks.getD i 0) (w.getD i 0)) s).numbers =
      roundsNat (ks.map UInt32.toNat) (w.map UInt32.toNat) s.numbers := by
  induction ks generalizing w s with
  | nil => rfl
  | cons k ks ih =>
    rw [List.length_cons, List.range_succ_eq_map, List.foldl_cons, List.foldl_map, List.map_cons,
      roundsNat]
    cases w with
    | nil => exact (ih [] _).trans (congrArg _ (numbers_round s k 0))
    | cons x w => exact (ih w _).trans (congrArg _ (numbers_round s k x))

/-- One block. -/
theorem numbers_compress (s : State) (block : List UInt32) :
    (compress s block).numbers = compressNat s.numbers (block.map UInt32.toNat) := by
  have hrounds : ((List.range 64).foldl (fun t i => round t (roundWords.getD i 0)
      ((schedule block).getD i 0)) s).numbers = roundsNat (roundWords.toList.map UInt32.toNat)
        (extendNat 48 block.length (block.map UInt32.toNat).reverse).reverse s.numbers := by
    rw [← toList_schedule, ← numbers_foldl_round]
    simp only [Array.getD_eq_getD_getElem?, List.getD_eq_getElem?_getD, Array.getElem?_toList]
    rfl
  rw [compressNat, List.length_map, ← hrounds]
  simp [compress, wrap, State.numbers]

theorem numbers_absorb (fuel : Nat) (s : State) (words : List UInt32) :
    (absorb fuel s words).numbers = absorbNat fuel s.numbers (words.map UInt32.toNat) := by
  fun_induction absorb fuel s words with
  | case1 => rw [absorbNat]
  | case2 fuel => cases fuel <;> simp [absorbNat]
  | case3 fuel s words hne ih =>
    cases words with
    | nil => exact absurd rfl hne
    | cons x rest =>
    rw [ih, numbers_compress, List.map_take, List.map_drop]
    rfl

theorem flatMap_hexWord (s : State) :
    [s.a, s.b, s.c, s.d, s.e, s.f, s.g, s.h].flatMap hexWord =
      [s.numbers.a, s.numbers.b, s.numbers.c, s.numbers.d, s.numbers.e, s.numbers.f, s.numbers.g,
        s.numbers.h].flatMap hexNumber := rfl

/-- **The digest of a text, computed over numbers.** -/
theorem hex_eq (text : String) : hex text = String.ofList (hexNat text.toList) := by
  rw [hex, hexOf, digest, Text.encode, hexNat, List.length_map]
  simp only [flatMap_hexWord, numbers_absorb]

/-- The digits of two digests that differ; strings of digits would have to be decoded for that. -/
theorem hex_ne_of_hexNat_ne {s t : String} (h : hexNat s.toList ≠ hexNat t.toList) :
    hex s ≠ hex t := fun hsame =>
  absurd (String.ofList_injective (by rwa [hex_eq, hex_eq] at hsame)) h

end LintLedger.Sha256

namespace LintLedger.Finding

variable {f g : Finding}

/-! ## The parts of the digested text -/

/-- The path below the root. -/
def identityPath (f : Finding) : String := Path.identityRelative f.file (Path.toSlashes f.root)

/-- The text of a field, if it says something. -/
def fieldText? (f : Finding) (name : String) : Option String :=
  ((f.column? name).filter Json.isTruthy).map Json.plain

/-- The text that is digested. -/
def identityText (f : Finding) : String := "|".intercalate f.identityParts

/-- The characters of the digested text, part by part. -/
def identityChars (f : Finding) : List Char := ['|'].intercalate (f.identityParts.map String.toList)

theorem identityChars_eq (f : Finding) : f.identityChars = f.identityText.toList := by
  rw [identityText, String.toList_intercalate, identityChars]
  rfl

theorem contentKey_eq (f : Finding) : f.contentKey = Sha256.hex f.identityText := rfl

/-- Two identities that differ, computed over numbers. -/
theorem contentKey_ne_of_hexNat_ne
    (h : Sha256.hexNat f.identityChars ≠ Sha256.hexNat g.identityChars) :
    f.contentKey ≠ g.contentKey := by
  rw [identityChars_eq, identityChars_eq] at h
  exact Sha256.hex_ne_of_hexNat_ne h

theorem identityParts_eq (f : Finding) :
    f.identityParts = f.table :: Path.toSlashes f.root :: f.identityPath ::
      identityFields.filterMap f.fieldText? := by
  unfold identityParts fieldText? identityPath
  simp only [List.cons.injEq, true_and]
  generalize identityFields = names
  induction names with
  | nil => rfl
  | cons name rest ih =>
    simp only [List.filterMap_cons]
    cases f.column? name with
    | none => simpa using ih
    | some v => by_cases htruthy : v.isTruthy <;> simp [Option.filter, htruthy, ih]

/-- The fields before the message. -/
def namingFields : List String := ["fingerprint", "row_type", "metric_type", "rule_id", "check_id"]

/-- The fields behind the message. -/
def placeFields : List String := ["line_number", "end_line_number", "col_offset", "end_col_offset"]

theorem identityFields_eq : identityFields = namingFields ++ "message" :: placeFields := rfl

/-! ## Telling findings apart -/

/-- Two findings agree on the table, the root, the path below it and the text of every identity
field, where a field that says nothing counts as absent. -/
structure SameIdentity (f g : Finding) : Prop where
  table : f.table = g.table
  root : Path.toSlashes f.root = Path.toSlashes g.root
  path : f.identityPath = g.identityPath
  fields : ∀ name ∈ identityFields, f.fieldText? name = g.fieldText? name

/-- The same identity fields of two findings say something. -/
def SameFields (f g : Finding) : Prop :=
  ∀ name ∈ identityFields, (f.fieldText? name).isSome = (g.fieldText? name).isSome

instance (f g : Finding) : Decidable (SameFields f g) :=
  inferInstanceAs (Decidable (∀ name ∈ _, _ = _))

/-- No part of the digested text contains a bar, the message apart. -/
structure BarFree (f : Finding) : Prop where
  table : '|' ∉ f.table.toList
  root : '|' ∉ (Path.toSlashes f.root).toList
  path : '|' ∉ f.identityPath.toList
  fields : ∀ name ∈ namingFields ++ placeFields, ∀ text ∈ f.fieldText? name, '|' ∉ text.toList

instance (f : Finding) : Decidable (BarFree f) :=
  decidable_of_iff
    ('|' ∉ f.table.toList ∧ '|' ∉ (Path.toSlashes f.root).toList ∧ '|' ∉ f.identityPath.toList ∧
      ∀ name ∈ namingFields ++ placeFields, ∀ text ∈ f.fieldText? name, '|' ∉ text.toList)
    ⟨fun ⟨table, root, path, fields⟩ => ⟨table, root, path, fields⟩,
      fun ⟨table, root, path, fields⟩ => ⟨table, root, path, fields⟩⟩

/-- The digest does not confuse the texts of two findings. -/
def TellsApart (f g : Finding) : Prop :=
  Sha256.hex f.identityText = Sha256.hex g.identityText → f.identityText = g.identityText

/-- Texts with different digests are not confused. -/
theorem tellsApart_of_hexNat_ne
    (h : Sha256.hexNat f.identityChars ≠ Sha256.hexNat g.identityChars) : TellsApart f g :=
  fun hsame => absurd hsame (contentKey_ne_of_hexNat_ne h)

/-- Findings that agree have one text. -/
theorem SameIdentity.identityText_eq (same : SameIdentity f g) :
    f.identityText = g.identityText := by
  have hfields : identityFields.filterMap f.fieldText? = identityFields.filterMap g.fieldText? :=
    List.filterMap_congr same.fields
  rw [identityText, identityText, identityParts_eq, identityParts_eq, same.table, same.root,
    same.path, hfields]

/-- Findings that agree have one identity. -/
theorem SameIdentity.contentKey_eq (same : SameIdentity f g) : f.contentKey = g.contentKey :=
  congrArg Sha256.hex same.identityText_eq

/-- The path is told from the digested text, if nothing else in it differs. -/
theorem identityPath_eq_of_identityText_eq (htable : f.table = g.table)
    (hroot : Path.toSlashes f.root = Path.toSlashes g.root)
    (hfields : ∀ name ∈ identityFields, f.fieldText? name = g.fieldText? name)
    (h : f.identityText = g.identityText) : f.identityPath = g.identityPath := by
  have hchars := congrArg String.toList h
  simp only [identityText, identityParts_eq, htable, hroot, List.filterMap_congr hfields,
    String.toList_intercalate, List.map_cons, show "|".toList = ['|'] from rfl,
    Joined.intercalate_cons_eq, List.flatMap_cons, List.append_cancel_left_eq, List.cons.injEq,
    true_and, List.append_cancel_right_eq, List.cons_append, String.toList_inj] at hchars
  exact hchars

/-- Fields of which the same say something have as many texts. -/
theorem length_filterMap_eq {names : List String}
    (hsame : ∀ name ∈ names, (f.fieldText? name).isSome = (g.fieldText? name).isSome) :
    (names.filterMap f.fieldText?).length = (names.filterMap g.fieldText?).length := by
  induction names with
  | nil => rfl
  | cons name rest ih =>
    have hrest := ih fun n hn => hsame n (List.mem_cons_of_mem _ hn)
    have hname := hsame name List.mem_cons_self
    rw [List.filterMap_cons, List.filterMap_cons]
    cases hf : f.fieldText? name <;> cases hg : g.fieldText? name <;> simp_all

/-- Fields of which the same say something agree if their texts in a row do. -/
theorem fieldText?_eq_of_filterMap_eq {names : List String}
    (hsame : ∀ name ∈ names, (f.fieldText? name).isSome = (g.fieldText? name).isSome)
    (h : names.filterMap f.fieldText? = names.filterMap g.fieldText?) :
    ∀ name ∈ names, f.fieldText? name = g.fieldText? name := by
  induction names with
  | nil => simp
  | cons name rest ih =>
    have hrest := ih fun n hn => hsame n (List.mem_cons_of_mem _ hn)
    have hname := hsame name List.mem_cons_self
    rw [List.filterMap_cons, List.filterMap_cons] at h
    cases hf : f.fieldText? name <;> cases hg : g.fieldText? name <;> simp_all

/-- What stands before the message in the digested text. -/
def textsBefore (f : Finding) : List String :=
  f.table :: Path.toSlashes f.root :: f.identityPath :: namingFields.filterMap f.fieldText?

/-- What stands behind the message in the digested text. -/
def textsBehind (f : Finding) : List String := placeFields.filterMap f.fieldText?

theorem toList_identityText (f : Finding) :
    f.identityText.toList = ['|'].intercalate
      (f.textsBefore.map String.toList ++ ((f.fieldText? "message").toList.map String.toList ++
        f.textsBehind.map String.toList)) := by
  rw [identityText, String.toList_intercalate, identityParts_eq, identityFields_eq,
    List.filterMap_append, List.filterMap_cons, textsBefore, textsBehind]
  cases f.fieldText? "message" <;> simp

theorem BarFree.notMem (free : BarFree f) :
    ∀ l ∈ f.textsBefore.map String.toList ++ f.textsBehind.map String.toList, '|' ∉ l := by
  intro l hl
  rw [← List.map_append, List.mem_map] at hl
  obtain ⟨text, htext, rfl⟩ := hl
  simp only [textsBefore, textsBehind, List.mem_append, List.mem_cons, List.mem_filterMap] at htext
  rcases htext with (rfl | rfl | rfl | ⟨name, hname, htext⟩) | ⟨name, hname, htext⟩
  · exact free.table
  · exact free.root
  · exact free.path
  · exact free.fields name (List.mem_append_left _ hname) text htext
  · exact free.fields name (List.mem_append_right _ hname) text htext

/-- The texts around the message and the message itself, told from the digested text. -/
theorem texts_eq_of_identityText_eq (hf : BarFree f) (hg : BarFree g)
    (hbefore : f.textsBefore.length = g.textsBefore.length)
    (hbehind : f.textsBehind.length = g.textsBehind.length)
    (hmessage : (f.fieldText? "message").isSome = (g.fieldText? "message").isSome)
    (h : f.identityText = g.identityText) :
    f.textsBefore = g.textsBefore ∧ f.fieldText? "message" = g.fieldText? "message" ∧
      f.textsBehind = g.textsBehind := by
  have hjoined := congrArg String.toList h
  have hfree := hf.notMem
  have hfree' := hg.notMem
  rw [toList_identityText, toList_identityText] at hjoined
  have hinjective := List.map_injective_iff.mpr fun a b : String => String.toList_inj.mp
  cases hm : f.fieldText? "message" with
  | some m =>
    -- the message may contain bars, so it is what is left between the parts around it
    rw [hm] at hmessage
    obtain ⟨m', hm'⟩ := Option.isSome_iff_exists.mp hmessage.symm
    rw [hm, hm'] at hjoined
    obtain ⟨hb, hmid, he⟩ := Joined.middle_eq (by simpa using hbefore) (by simpa using hbehind)
      hfree hfree' hjoined
    rw [hm', hinjective hb, String.toList_inj.mp hmid, hinjective he]
    exact ⟨rfl, rfl, rfl⟩
  | none =>
    -- without a message every part is between two bars
    have hm' : g.fieldText? "message" = none := by
      rw [hm] at hmessage
      simpa using hmessage.symm
    rw [hm, hm', Option.toList_none, List.map_nil, List.nil_append, List.nil_append] at hjoined
    have hsplit := congrArg (List.splitOn '|') hjoined
    rw [List.splitOn_intercalate _ hfree (by simp [textsBefore]),
      List.splitOn_intercalate _ hfree' (by simp [textsBefore])] at hsplit
    obtain ⟨hb, he⟩ := List.append_inj hsplit (by simpa using hbefore)
    rw [hm', hinjective hb, hinjective he]
    exact ⟨rfl, rfl, rfl⟩

/-- **The digested text tells its parts**, if two findings have the same fields and no part but the
message contains a bar. -/
theorem sameIdentity_of_identityText_eq (hf : BarFree f) (hg : BarFree g) (hsame : SameFields f g)
    (h : f.identityText = g.identityText) : SameIdentity f g := by
  have hnaming : ∀ name ∈ namingFields,
      (f.fieldText? name).isSome = (g.fieldText? name).isSome := fun name hn =>
    hsame name (List.mem_append_left _ hn)
  have hplace : ∀ name ∈ placeFields,
      (f.fieldText? name).isSome = (g.fieldText? name).isSome := fun name hn =>
    hsame name (List.mem_append_right namingFields (List.mem_cons_of_mem _ hn))
  obtain ⟨hbefore, hmessage, hbehind⟩ := texts_eq_of_identityText_eq hf hg
    (by simp [textsBefore, length_filterMap_eq hnaming]) (length_filterMap_eq hplace)
    (hsame "message" (by decide)) h
  simp only [textsBefore, List.cons.injEq] at hbefore
  obtain ⟨htable, hroot, hpath, hnames⟩ := hbefore
  refine ⟨htable, hroot, hpath, fun name hname => ?_⟩
  rw [identityFields_eq, List.mem_append, List.mem_cons] at hname
  rcases hname with hname | rfl | hname
  · exact fieldText?_eq_of_filterMap_eq hnaming hnames name hname
  · exact hmessage
  · exact fieldText?_eq_of_filterMap_eq hplace hbehind name hname

/-- **Findings with the same fields, and without bars outside their messages, have one identity
exactly if they agree** on the table, the root, the path and every identity field, provided that the
digest does not confuse their texts. -/
theorem contentKey_eq_iff (hf : BarFree f) (hg : BarFree g) (hsame : SameFields f g)
    (hdigest : TellsApart f g) : f.contentKey = g.contentKey ↔ SameIdentity f g :=
  ⟨fun h => sameIdentity_of_identityText_eq hf hg hsame (hdigest h), fun same => same.contentKey_eq⟩

/-- Two messages that contain bars are told apart. -/
theorem contentKey_eq_iff_of_messages :
    let base := (Finding.blank .mypy "/r/p/a.py" "/r/p").lines (some 3) (some 3)
    let f := base.text "message" (some "expected int | None")
    let g := base.text "message" (some "expected int | str")
    BarFree f ∧ BarFree g ∧ SameFields f g ∧ TellsApart f g ∧
      (f.contentKey = g.contentKey ↔ SameIdentity f g) ∧ f.contentKey ≠ g.contentKey := by
  intro base f g
  have hf : BarFree f := by decide
  have hg : BarFree g := by decide
  have hsame : SameFields f g := by decide
  have hne : f.contentKey ≠ g.contentKey := contentKey_ne_of_hexNat_ne (by decide +kernel)
  have hdigest : TellsApart f g := fun h => absurd h hne
  exact ⟨hf, hg, hsame, hdigest, contentKey_eq_iff hf hg hsame hdigest, hne⟩

/-- **The identity confuses fields.**  A message that ends in a bar and a number, a message with a
line and a message with a last line have one identity, under whatever digest. -/
theorem contentKey_confuses_fields :
    let base := Finding.blank .bandit "/r/p/a.py" "/r/p"
    let f := base.text "message" (some "unused import|7")
    let g := (base.lines (some 7) none).text "message" (some "unused import")
    let h := (base.lines none (some 7)).text "message" (some "unused import")
    f.identityText = g.identityText ∧ g.identityText = h.identityText ∧
      f.contentKey = g.contentKey ∧ g.contentKey = h.contentKey ∧
      ¬ SameIdentity f g ∧ ¬ SameIdentity g h := by
  intro base f g h
  have hbar : f.identityText = g.identityText := by decide
  have hgap : g.identityText = h.identityText := by decide
  refine ⟨hbar, hgap, congrArg Sha256.hex hbar, congrArg Sha256.hex hgap, fun same => ?_,
    fun same => ?_⟩
  · exact absurd (same.fields "message" (by decide)) (by decide)
  · exact absurd (same.fields "line_number" (by decide)) (by decide)

end LintLedger.Finding
