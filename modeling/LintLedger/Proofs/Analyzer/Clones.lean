import LintLedger.Analyzer.Jscpd
import LintLedger.Proofs.Data.Digits
import LintLedger.Proofs.Data.Joined
import LintLedger.Proofs.Finding.Columns
import Mathlib.Data.List.Forall2
import Mathlib.Data.Prod.Lex
import Mathlib.Data.String.Basic
import Mathlib.Data.Sym.Sym2

/-!
# Clones and the rows that they make

A clone is an unordered pair of places, a place being a file with its first and last line.  A
report may list a clone again, in the same or the other direction.  The listed clones are thinned
out by a key, which is a text: places that are the same have the same key, and with it the clones
are told apart as long as no file has a vertical bar in its name.

Where rows are asked for on both sides of every clone, nothing is thinned out: a pair that is
listed twice has four rows.

## Main Definitions

* `Jscpd.Side.place` -- where a side is
* `Jscpd.keptSides?` -- the sides of a listed clone, if it is kept
* `Jscpd.identity?` -- the pair of places of a listed clone that is kept, and its text if asked for
* `Jscpd.Reported` -- the rows of one listed clone

## Main Statements

* `Jscpd.Side.place_sorted_le` -- the first of two sorted sides is at the smaller place
* `Jscpd.keyOf_eq_of_identityOf_eq`, `Jscpd.identityOf_eq_of_keyOf_eq` -- what keys tell
* `Jscpd.exists_firstOfKey` -- what is left of listed clones
* `Jscpd.issues_of_report` -- one or two rows for each of the listed clones that are left
* `Jscpd.issues_repeated_and_lost` -- a pair with four rows, and one that is left out
-/

namespace LintLedger.Jscpd

/-! ## Places and their order -/

namespace Side

variable {a b a' b' : Side}

/-- Where a side is: its file and lines, in the order of files, then of lines. -/
def place (s : Side) : String ×ₗ Int ×ₗ Int := toLex (s.file, toLex (s.first, s.last))

/-- The side at the smaller place is the smaller side. -/
theorem cmp_of_place_lt (h : a.place < b.place) : a.cmp b = .lt ∧ b.cmp a = .gt := by
  simp only [cmp, Ordering.then_eq_lt, Ordering.then_eq_gt, compare_lt_iff_lt, compare_gt_iff_gt,
    compare_eq_iff_eq]
  simp only [place, Prod.Lex.toLex_lt_toLex] at h
  obtain hfile | ⟨hfile, hfirst | ⟨hfirst, hlast⟩⟩ := h
  · exact ⟨.inl hfile, .inl hfile⟩
  · exact ⟨.inr ⟨hfile, .inl hfirst⟩, .inr ⟨hfile.symm, .inl hfirst⟩⟩
  · exact ⟨.inr ⟨hfile, .inr ⟨hfirst, .inl hlast⟩⟩,
      .inr ⟨hfile.symm, .inr ⟨hfirst.symm, .inl hlast⟩⟩⟩

theorem sorted_eq_or (a b : Side) : a.sorted b = (a, b) ∨ a.sorted b = (b, a) := by
  unfold sorted
  split
  · exact .inr rfl
  · exact .inl rfl

/-- The first of two sorted sides is at the smaller place. -/
theorem place_sorted_le (a b : Side) : (a.sorted b).1.place ≤ (a.sorted b).2.place := by
  unfold sorted
  split
  · rename_i hgt
    refine le_of_not_gt fun hlt => ?_
    rw [(cmp_of_place_lt hlt).1] at hgt
    cases hgt
  · rename_i hgt
    exact le_of_not_gt fun hlt => hgt (cmp_of_place_lt hlt).2

theorem pair_sorted (a b : Side) :
    s((a.sorted b).1.place, (a.sorted b).2.place) = s(a.place, b.place) := by
  obtain h | h := sorted_eq_or a b
  · rw [h]
  · rw [h]
    exact Sym2.eq_swap

/-- Sorted sides at the same two places are at the same places one by one. -/
theorem place_sorted_eq_iff :
    (a.sorted b).1.place = (a'.sorted b').1.place ∧ (a.sorted b).2.place = (a'.sorted b').2.place ↔
      s(a.place, b.place) = s(a'.place, b'.place) := by
  rw [← pair_sorted a b, ← pair_sorted a' b', Sym2.eq_iff]
  constructor
  · exact .inl
  · rintro (h | ⟨hfront, hback⟩)
    · exact h
    · have hle := place_sorted_le a b
      have hle' := place_sorted_le a' b'
      rw [hfront, hback] at hle
      have hsame := le_antisymm hle' hle
      exact ⟨hfront.trans hsame.symm, hback.trans hsame⟩

/-! ## Labels -/

theorem toList_label (s : Side) :
    s.label.toList = s.file.toList ++
      ':' :: ((toString s.first).toList ++ '-' :: (toString s.last).toList) := by
  simp [label]

theorem label_eq_of_place_eq (h : a.place = b.place) : a.label = b.label := by
  have hparts : (a.file, a.first, a.last) = (b.file, b.first, b.last) := h
  simp only [Prod.mk.injEq] at hparts
  rw [label, label, hparts.1, hparts.2.1, hparts.2.2]

/-- The place is told from the label, whatever the file is called. -/
theorem place_eq_of_label_eq (h : a.label = b.label) : a.place = b.place := by
  have hclean (s : Side) : ':' ∉ (toString s.first).toList ++ '-' :: (toString s.last).toList := by
    rw [List.mem_append, List.mem_cons]
    rintro (hfirst | hhyphen | hlast)
    · exact Digits.notMem_toString_int rfl (by decide) _ hfirst
    · exact absurd hhyphen (by decide)
    · exact Digits.notMem_toString_int rfl (by decide) _ hlast
  have hlists := congrArg String.toList h
  rw [toList_label, toList_label] at hlists
  obtain ⟨hfile, hspan⟩ := Joined.back_eq (hclean a) (hclean b) hlists
  obtain ⟨hfirst, hlast⟩ := Digits.toString_int_hyphen hspan
  rw [place, place, String.toList_inj.mp hfile, hfirst,
    Digits.toString_int_inj (String.toList_inj.mp hlast)]

/-- There is a vertical bar in a label only if there is one in the file. -/
theorem notMem_label {s : Side} (h : '|' ∉ s.file.toList) : '|' ∉ s.label.toList := by
  rw [toList_label]
  simp only [List.mem_append, List.mem_cons, not_or]
  exact ⟨h, by decide, Digits.notMem_toString_int rfl (by decide) _, by decide,
    Digits.notMem_toString_int rfl (by decide) _⟩

end Side

/-! ## Identities and keys -/

/-- The unordered pair of places of a clone, and its text if that takes part. -/
abbrev Identity := Sym2 (String ×ₗ Int ×ₗ Int) × Option String

instance : DecidableEq Identity := instDecidableEqProd

variable {settings : JscpdSettings} {ctx : PathContext}

/-- The text of a listed clone, if it takes part in what identifies it. -/
def fragment? (settings : JscpdSettings) (listed : Json) : Option String :=
  if settings.fragmentInKey then listed.textAt? "fragment" else none

/-- What identifies a listed clone between two sides. -/
def identityOf (settings : JscpdSettings) (listed : Json) (a b : Side) : Identity :=
  (s(a.place, b.place), fragment? settings listed)

/-- The key of a listed clone between two sides. -/
def keyOf (settings : JscpdSettings) (listed : Json) (a b : Side) : String :=
  pairKey settings (a.sorted b).1 (a.sorted b).2 (listed.textAt? "fragment")

/-- What stands behind the places in a key. -/
def digestPart : Option String → List Char
  | some fragment => '|' :: (Sha256.hex fragment).toList
  | none => []

theorem toList_keyOf (listed : Json) (a b : Side) :
    (keyOf settings listed a b).toList = (a.sorted b).1.label.toList ++
      '|' :: ((a.sorted b).2.label.toList ++ digestPart (fragment? settings listed)) := by
  unfold keyOf pairKey fragment?
  cases listed.textAt? "fragment" with
  | none => cases settings.fragmentInKey <;> simp [digestPart]
  | some fragment => cases settings.fragmentInKey <;> simp [digestPart]

/-- Clones with one identity have one key. -/
theorem keyOf_eq_of_identityOf_eq {listed listed' : Json} {a b a' b' : Side}
    (h : identityOf settings listed a b = identityOf settings listed' a' b') :
    keyOf settings listed a b = keyOf settings listed' a' b' := by
  obtain ⟨hpair, hfragment⟩ := Prod.mk.inj h
  obtain ⟨hfirst, hsecond⟩ := Side.place_sorted_eq_iff.mpr hpair
  rw [← String.toList_inj, toList_keyOf, toList_keyOf, Side.label_eq_of_place_eq hfirst,
    Side.label_eq_of_place_eq hsecond, hfragment]

/-- Without vertical bars in the files, and if digests tell the texts, clones with one key have one
identity. -/
theorem identityOf_eq_of_keyOf_eq {listed listed' : Json} {a b a' b' : Side}
    (hbars : ∀ s ∈ [a, b, a', b'], '|' ∉ s.file.toList)
    (hdigests : ∀ f ∈ fragment? settings listed, ∀ f' ∈ fragment? settings listed',
      Sha256.hex f = Sha256.hex f' → f = f')
    (h : keyOf settings listed a b = keyOf settings listed' a' b') :
    identityOf settings listed a b = identityOf settings listed' a' b' := by
  have hclean {s t : Side} (hs : '|' ∉ s.file.toList) (ht : '|' ∉ t.file.toList) :
      '|' ∉ (s.sorted t).1.label.toList ∧ '|' ∉ (s.sorted t).2.label.toList := by
    obtain hsorted | hsorted := Side.sorted_eq_or s t <;> rw [hsorted]
    · exact ⟨Side.notMem_label hs, Side.notMem_label ht⟩
    · exact ⟨Side.notMem_label ht, Side.notMem_label hs⟩
  simp only [List.forall_mem_cons] at hbars
  obtain ⟨ha, hb, ha', hb', -⟩ := hbars
  obtain ⟨hfront, hback⟩ := hclean ha hb
  obtain ⟨hfront', hback'⟩ := hclean ha' hb'
  have hlists := congrArg String.toList h
  rw [toList_keyOf, toList_keyOf] at hlists
  -- a key is cut at its first bar, and again if a digest comes behind the second label
  obtain ⟨hfirst, hrest⟩ := Joined.front_eq hfront hfront' hlists
  have hends : (a.sorted b).2.label.toList = (a'.sorted b').2.label.toList ∧
      fragment? settings listed = fragment? settings listed' := by
    cases hf : fragment? settings listed with
    | none =>
      cases hf' : fragment? settings listed' with
      | none =>
        rw [hf, hf'] at hrest
        exact ⟨by simpa [digestPart] using hrest, rfl⟩
      | some f' =>
        rw [hf, hf', digestPart, digestPart, List.append_nil] at hrest
        exact absurd (hrest ▸ by simp) hback
    | some f =>
      cases hf' : fragment? settings listed' with
      | none =>
        rw [hf, hf', digestPart, digestPart, List.append_nil] at hrest
        exact absurd (hrest.symm ▸ by simp) hback'
      | some f' =>
        rw [hf, hf', digestPart, digestPart] at hrest
        obtain ⟨hsecond, hdigest⟩ := Joined.front_eq hback hback' hrest
        exact ⟨hsecond, congrArg some (hdigests f hf f' hf' (String.toList_inj.mp hdigest))⟩
  have hplaces := Side.place_sorted_eq_iff.mp
    ⟨Side.place_eq_of_label_eq (String.toList_inj.mp hfirst),
      Side.place_eq_of_label_eq (String.toList_inj.mp hends.1)⟩
  exact Prod.ext hplaces hends.2

/-! ## Listed clones -/

/-- The sides of a listed clone as they are listed, if both can be read and the clone is not within
one file where such clones are left out. -/
def keptSides? (settings : JscpdSettings) (ctx : PathContext) (listed : Json) :
    Option (Side × Side) :=
  ((places listed).bind fun places =>
      (Side.ofInstance? ctx places.1).bind fun a =>
        (Side.ofInstance? ctx places.2).map fun b => (a, b)).filter
    fun sides => settings.allowIntraFile || sides.1.file != sides.2.file

/-- The identity of a listed clone that is kept. -/
def identity? (settings : JscpdSettings) (ctx : PathContext) (listed : Json) : Option Identity :=
  (keptSides? settings ctx listed).map fun sides => identityOf settings listed sides.1 sides.2

/-- A listed clone between two sides. -/
def cloneOf (settings : JscpdSettings) (listed : Json) (a b : Side) : Clone where
  primary := (a.sorted b).1
  other := (a.sorted b).2
  key := keyOf settings listed a b
  lines? := Json.asInt? (listed.get? "lines")
  tokens? := Json.asInt? (listed.get? "tokens")
  format? := (Json.asText? (listed.get? "format")).or (Json.asText? (listed.get? "language"))

theorem clone?_eq (listed : Json) :
    clone? settings ctx listed =
      (keptSides? settings ctx listed).map fun sides =>
        cloneOf settings listed sides.1 sides.2 := by
  unfold clone? keptSides?
  cases places listed with
  | none => rfl
  | some places =>
    dsimp only [Option.bind_some]
    cases Side.ofInstance? ctx places.1 with
    | none => rfl
    | some a =>
      cases Side.ofInstance? ctx places.2 with
      | none => rfl
      | some b =>
        dsimp only [Option.bind_some, Option.map_some, Option.filter_some]
        cases hallow : settings.allowIntraFile <;> cases hfile : a.file == b.file <;>
          simp [cloneOf, keyOf, bne, hfile]

/-! ## The first clone of every key -/

/-- One more clone is kept if its key is new. -/
theorem firstOfKey_concat (clones : List Clone) (c : Clone) :
    firstOfKey (clones ++ [c]) =
      if c.key ∈ (firstOfKey clones).map Clone.key then firstOfKey clones
      else firstOfKey clones ++ [c] := by
  obtain ⟨step, hfirst, hstep⟩ :
      ∃ step : List Clone × List String → Clone → List Clone × List String,
        (∀ clones, firstOfKey clones = (clones.foldl step ([], [])).1.reverse) ∧
        ∀ kept c, step kept c =
          if kept.2.contains c.key then kept else (c :: kept.1, c.key :: kept.2) :=
    ⟨_, fun _ => rfl, fun _ _ => rfl⟩
  -- the keys that were seen are those of the clones that are kept
  have hseen : (clones.foldl step ([], [])).2 = (clones.foldl step ([], [])).1.map Clone.key := by
    refine List.foldlRecOn
      (motive := fun kept : List Clone × List String => kept.2 = kept.1.map Clone.key)
      clones step rfl fun kept hkept next _ => ?_
    rw [hstep]
    split
    · exact hkept
    · rw [List.map_cons, hkept]
  have hcontains : (clones.foldl step ([], [])).2.contains c.key = true ↔
      c.key ∈ (firstOfKey clones).map Clone.key := by
    rw [hseen, hfirst]
    simp
  rw [hfirst (clones ++ [c]), List.foldl_append, List.foldl_cons, List.foldl_nil, hstep]
  by_cases hold : c.key ∈ (firstOfKey clones).map Clone.key
  · rw [if_pos (hcontains.mpr hold), if_pos hold, hfirst]
  · rw [if_neg (mt hcontains.mp hold), if_neg hold, List.reverse_cons, hfirst]

theorem firstOfKey_sublist (clones : List Clone) : (firstOfKey clones).Sublist clones := by
  induction clones using List.reverseRecOn with
  | nil => exact .slnil
  | append_singleton clones c ih =>
    rw [firstOfKey_concat]
    split
    · exact ih.trans (List.sublist_append_left _ _)
    · exact ih.append (.refl _)

theorem nodup_firstOfKey (clones : List Clone) : ((firstOfKey clones).map Clone.key).Nodup := by
  induction clones using List.reverseRecOn with
  | nil => exact List.nodup_nil
  | append_singleton clones c ih =>
    rw [firstOfKey_concat]
    split
    · exact ih
    · rename_i hnew
      rw [List.map_append, List.nodup_append]
      refine ⟨ih, List.nodup_singleton _, ?_⟩
      rintro key hold key' hadded rfl
      rw [List.map_singleton, List.mem_singleton] at hadded
      exact hnew (hadded ▸ hold)

/-- Thinning out clones loses no key. -/
theorem key_mem_firstOfKey {clones : List Clone} {c : Clone} (h : c ∈ clones) :
    c.key ∈ (firstOfKey clones).map Clone.key := by
  induction clones using List.reverseRecOn with
  | nil => cases h
  | append_singleton clones d ih =>
    rw [firstOfKey_concat]
    obtain h | h := List.mem_append.mp h
    · split
      · exact ih h
      · rw [List.map_append]
        exact List.mem_append_left _ (ih h)
    · obtain rfl := List.mem_singleton.mp h
      split
      · assumption
      · simp

/-! ## Rows -/

/-- The rows of a clone are on its two sides. -/
theorem eq_sideRow_of_mem_cloneRows {root : String} {c : Clone} {f : Finding}
    (hf : f ∈ cloneRows settings ctx root c) :
    f = sideRow ctx root c c.primary c.other ∨ f = sideRow ctx root c c.other c.primary := by
  rcases List.mem_cons.mp hf with hf | hf
  · exact .inl hf
  · split at hf
    · exact .inr (List.mem_singleton.mp hf)
    · cases hf

/-- The rows of clones are those of clones that the report lists. -/
theorem exists_clone?_of_mem_issueRows {root : String} {report : Json} {f : Finding}
    (hf : f ∈ issueRows settings ctx root report) :
    ∃ listed ∈ listedClones report, ∃ c,
      clone? settings ctx listed = some c ∧ f ∈ cloneRows settings ctx root c := by
  obtain ⟨c, hkept, hrow⟩ := List.mem_flatMap.mp hf
  have hlisted : c ∈ (listedClones report).filterMap (clone? settings ctx) := by
    split at hkept
    · exact hkept
    · exact (firstOfKey_sublist _).subset hkept
  obtain ⟨listed, hmem, hclone⟩ := List.mem_filterMap.mp hlisted
  exact ⟨listed, hmem, c, hclone, hrow⟩

/-- Whether a finding is about a clone, and not about a file. -/
def isIssue (f : Finding) : Bool :=
  match f.fields.find? "row_type" with
  | some (.str kind) => kind == "issue"
  | _ => false

theorem isIssue_sideRow (root : String) (c : Clone) (side counterpart : Side) :
    isIssue (sideRow ctx root c side counterpart) = true := by
  have hfield : (sideRow ctx root c side counterpart).fields.find? "row_type" =
      some (.str "issue") := by
    simp [sideRow, Json.isNull]
  rw [isIssue, hfield]
  rfl

theorem isIssue_fileRow (root format : String) (source : String × Json) :
    isIssue (fileRow ctx root format source) = false := by
  have hfield : (fileRow ctx root format source).fields.find? "row_type" = some (.str "file") := by
    simp [fileRow, Json.isNull]
  rw [isIssue, hfield]
  rfl

/-- A finding is on a side: in its file and on its lines. -/
def OnSide (ctx : PathContext) (s : Side) (f : Finding) : Prop :=
  f.file = ctx.filePath s.reportedFile ∧ f.region.line? = some s.first ∧
    f.region.endLine? = some s.last

theorem onSide_sideRow (root : String) (c : Clone) (side counterpart : Side) :
    OnSide ctx side (sideRow ctx root c side counterpart) := by
  simp [OnSide, sideRow]

/-- The rows of one of the listed clones: one row on the side at the smaller place, or two rows,
one on each side. -/
def Reported (settings : JscpdSettings) (ctx : PathContext) (clones : List Json)
    (identity : Identity) (rows : List Finding) : Prop :=
  ∃ listed ∈ clones, ∃ small large : Side,
    (keptSides? settings ctx listed = some (small, large) ∨
      keptSides? settings ctx listed = some (large, small)) ∧
    small.place ≤ large.place ∧ identity = identityOf settings listed small large ∧
    if settings.emitBothSides then ∃ f g, rows = [f, g] ∧ OnSide ctx small f ∧ OnSide ctx large g
    else ∃ f, rows = [f] ∧ OnSide ctx small f

theorem reported_cloneRows {root : String} {clones : List Json} {listed : Json} {a b : Side}
    (hlisted : listed ∈ clones) (hsides : keptSides? settings ctx listed = some (a, b)) :
    Reported settings ctx clones (identityOf settings listed a b)
      (cloneRows settings ctx root (cloneOf settings listed a b)) := by
  refine ⟨listed, hlisted, (a.sorted b).1, (a.sorted b).2, ?_, Side.place_sorted_le a b, ?_, ?_⟩
  · obtain hsorted | hsorted := Side.sorted_eq_or a b <;> rw [hsorted]
    · exact .inl hsides
    · exact .inr hsides
  · rw [identityOf, identityOf, Side.pair_sorted]
  · unfold cloneRows
    split
    · exact ⟨_, _, rfl, onSide_sideRow .., onSide_sideRow ..⟩
    · exact ⟨_, rfl, onSide_sideRow ..⟩

/-- Keys tell the listed clones apart: no file has a vertical bar in its name, and texts that take
part have digests of their own. -/
structure Told (settings : JscpdSettings) (ctx : PathContext) (clones : List Json) : Prop where
  bars : ∀ listed ∈ clones, ∀ sides ∈ keptSides? settings ctx listed,
    '|' ∉ sides.1.file.toList ∧ '|' ∉ sides.2.file.toList
  digests : ∀ f ∈ clones.filterMap (fragment? settings),
    ∀ f' ∈ clones.filterMap (fragment? settings), Sha256.hex f = Sha256.hex f' → f = f'

/-- A listed clone that is kept, with its identity. -/
def listing? (settings : JscpdSettings) (ctx : PathContext) (listed : Json) :
    Option (Identity × Clone) :=
  (keptSides? settings ctx listed).map fun sides =>
    (identityOf settings listed sides.1 sides.2, cloneOf settings listed sides.1 sides.2)

theorem map_fst_entries (clones : List Json) :
    (clones.filterMap (listing? settings ctx)).map Prod.fst =
      clones.filterMap (identity? settings ctx) := by
  rw [List.map_filterMap]
  congr
  funext listed
  rw [listing?, identity?, Option.map_map]
  rfl

theorem map_snd_entries (clones : List Json) :
    (clones.filterMap (listing? settings ctx)).map Prod.snd =
      clones.filterMap (clone? settings ctx) := by
  rw [List.map_filterMap]
  congr
  funext listed
  rw [listing?, clone?_eq, Option.map_map]
  rfl

theorem mem_entries {clones : List Json} {e : Identity × Clone}
    (h : e ∈ clones.filterMap (listing? settings ctx)) :
    ∃ listed ∈ clones, ∃ a b, keptSides? settings ctx listed = some (a, b) ∧
      e = (identityOf settings listed a b, cloneOf settings listed a b) := by
  obtain ⟨listed, hlisted, hentry⟩ := List.mem_filterMap.mp h
  obtain ⟨⟨a, b⟩, hsides, rfl⟩ := Option.map_eq_some_iff.mp hentry
  exact ⟨listed, hlisted, a, b, hsides, rfl⟩

/-- Entries with one identity have one key. -/
theorem key_eq_of_identity_eq {clones : List Json} {e e' : Identity × Clone}
    (he : e ∈ clones.filterMap (listing? settings ctx))
    (he' : e' ∈ clones.filterMap (listing? settings ctx)) (h : e.1 = e'.1) :
    e.2.key = e'.2.key := by
  obtain ⟨listed, -, a, b, -, rfl⟩ := mem_entries he
  obtain ⟨listed', -, a', b', -, rfl⟩ := mem_entries he'
  exact keyOf_eq_of_identityOf_eq h

/-- Entries with one key have one identity, if keys tell clones apart. -/
theorem identity_eq_of_key_eq {clones : List Json} (told : Told settings ctx clones)
    {e e' : Identity × Clone} (he : e ∈ clones.filterMap (listing? settings ctx))
    (he' : e' ∈ clones.filterMap (listing? settings ctx)) (h : e.2.key = e'.2.key) :
    e.1 = e'.1 := by
  obtain ⟨listed, hlisted, a, b, hsides, rfl⟩ := mem_entries he
  obtain ⟨listed', hlisted', a', b', hsides', rfl⟩ := mem_entries he'
  refine identityOf_eq_of_keyOf_eq ?_ ?_ h
  · obtain ⟨ha, hb⟩ := told.bars listed hlisted (a, b) hsides
    obtain ⟨ha', hb'⟩ := told.bars listed' hlisted' (a', b') hsides'
    simp [ha, hb, ha', hb']
  · intro f hf f' hf'
    exact told.digests f (List.mem_filterMap.mpr ⟨listed, hlisted, hf⟩) f'
      (List.mem_filterMap.mpr ⟨listed', hlisted', hf'⟩)

/-- What is left of the listed clones: one for each identity at most, and at least if keys tell them
apart. -/
theorem exists_firstOfKey (settings : JscpdSettings) (ctx : PathContext) (clones : List Json) :
    ∃ picked : List (Identity × Clone),
      picked.Sublist (clones.filterMap (listing? settings ctx)) ∧
      firstOfKey (clones.filterMap (clone? settings ctx)) = picked.map Prod.snd ∧
      (picked.map Prod.fst).Nodup ∧
      (Told settings ctx clones →
        ∀ i ∈ clones.filterMap (identity? settings ctx), i ∈ picked.map Prod.fst) := by
  have hleft := firstOfKey_sublist (clones.filterMap (clone? settings ctx))
  rw [← map_snd_entries] at hleft
  obtain ⟨picked, hpicked, hclones⟩ := List.sublist_map_iff.mp hleft
  rw [map_snd_entries] at hclones
  refine ⟨picked, hpicked, hclones, ?_, ?_⟩
  · have hkeys := nodup_firstOfKey (clones.filterMap (clone? settings ctx))
    rw [hclones, List.map_map, List.Nodup, List.pairwise_map] at hkeys
    rw [List.Nodup, List.pairwise_map]
    refine hkeys.imp_of_mem fun he he' hne hsame => hne ?_
    exact key_eq_of_identity_eq (hpicked.subset he) (hpicked.subset he') hsame
  · intro told i hi
    rw [← map_fst_entries] at hi
    obtain ⟨e, he, rfl⟩ := List.mem_map.mp hi
    have hlisted : e.2 ∈ clones.filterMap (clone? settings ctx) := by
      rw [← map_snd_entries]
      exact List.mem_map_of_mem he
    have hkey := key_mem_firstOfKey hlisted
    rw [hclones, List.map_map] at hkey
    obtain ⟨e', he', hsame⟩ := List.mem_map.mp hkey
    exact List.mem_map.mpr ⟨e', he', identity_eq_of_key_eq told (hpicked.subset he') he hsame⟩

/-! ## The rows of a report -/

/-- The rows about clones are those of the clones. -/
theorem filter_isIssue_findings (run : RunRecord) :
    (findings settings run ctx).filter isIssue =
      issueRows settings ctx (ctx.root []) run.document := by
  have hissues : ∀ f ∈ issueRows settings ctx (ctx.root []) run.document, isIssue f = true := by
    intro f hf
    obtain ⟨c, -, hrow⟩ := List.mem_flatMap.mp hf
    obtain rfl | rfl := eq_sideRow_of_mem_cloneRows hrow
    · exact isIssue_sideRow ..
    · exact isIssue_sideRow ..
  have hfiles : ∀ f ∈ fileRows ctx (ctx.root []) run.document, ¬ isIssue f = true := by
    intro f hf
    obtain ⟨format, -, hrow⟩ := List.mem_flatMap.mp hf
    obtain ⟨source, -, rfl⟩ := List.mem_map.mp hrow
    rw [isIssue_fileRow]
    exact Bool.false_ne_true
  rw [findings, List.filter_append, List.filter_eq_self.mpr hissues,
    List.filter_eq_nil_iff.mpr hfiles, List.append_nil]

/-- The rows of entries, pair by pair. -/
def rowsOf (settings : JscpdSettings) (ctx : PathContext) (entries : List (Identity × Clone)) :
    List (Identity × List Finding) :=
  entries.map fun e => (e.1, cloneRows settings ctx (ctx.root []) e.2)

theorem map_fst_rowsOf (entries : List (Identity × Clone)) :
    (rowsOf settings ctx entries).map Prod.fst = entries.map Prod.fst := by
  rw [rowsOf, List.map_map]
  rfl

theorem flatMap_snd_rowsOf (entries : List (Identity × Clone)) :
    (rowsOf settings ctx entries).flatMap Prod.snd =
      (entries.map Prod.snd).flatMap (cloneRows settings ctx (ctx.root [])) := by
  rw [rowsOf, List.flatMap_map, List.flatMap_map]

theorem reported_of_mem_rowsOf {clones : List Json} {entries : List (Identity × Clone)}
    (h : entries.Sublist (clones.filterMap (listing? settings ctx)))
    {r : Identity × List Finding} (hr : r ∈ rowsOf settings ctx entries) :
    Reported settings ctx clones r.1 r.2 := by
  obtain ⟨e, he, rfl⟩ := List.mem_map.mp hr
  obtain ⟨listed, hlisted, a, b, hsides, rfl⟩ := mem_entries (h.subset he)
  exact reported_cloneRows hlisted hsides

/-- **What rows the listed clones have.**  Rows come pair by pair, and only for clones that are
listed and kept.  Where both sides are asked for, every clone that is kept has its two rows, as
often as it is listed.  Otherwise no pair has rows twice, and every pair has a row if keys tell the
clones apart. -/
theorem issues_of_report (settings : JscpdSettings) (run : RunRecord) (ctx : PathContext) :
    let clones := listedClones run.document
    ∃ rows : List (Identity × List Finding),
      (findings settings run ctx).filter isIssue = rows.flatMap Prod.snd ∧
      (∀ r ∈ rows, Reported settings ctx clones r.1 r.2) ∧
      if settings.emitBothSides then
        rows.map Prod.fst = clones.filterMap (identity? settings ctx)
      else
        (rows.map Prod.fst).Sublist (clones.filterMap (identity? settings ctx)) ∧
        (rows.map Prod.fst).Nodup ∧
        (Told settings ctx clones →
          ∀ i ∈ clones.filterMap (identity? settings ctx), i ∈ rows.map Prod.fst) := by
  intro clones
  rw [filter_isIssue_findings, issueRows]
  by_cases hboth : settings.emitBothSides = true
  · refine ⟨rowsOf settings ctx (clones.filterMap (listing? settings ctx)), ?_,
      fun r => reported_of_mem_rowsOf (.refl _), ?_⟩
    · rw [if_pos hboth, flatMap_snd_rowsOf, map_snd_entries]
    · rw [if_pos hboth, map_fst_rowsOf, map_fst_entries]
  · obtain ⟨picked, hpicked, hclones, hnodup, hcovers⟩ := exists_firstOfKey settings ctx clones
    refine ⟨rowsOf settings ctx picked, ?_, fun r => reported_of_mem_rowsOf hpicked, ?_⟩
    · rw [if_neg hboth, flatMap_snd_rowsOf, hclones]
    · rw [if_neg hboth, map_fst_rowsOf, ← map_fst_entries]
      refine ⟨hpicked.map _, hnodup, ?_⟩
      rw [map_fst_entries]
      exact hcovers

/-- Where one row of a pair is asked for and keys tell the clones apart, there are as many rows as
different pairs. -/
theorem length_issues (hone : settings.emitBothSides = false) (run : RunRecord) (ctx : PathContext)
    (told : Told settings ctx (listedClones run.document)) :
    ((findings settings run ctx).filter isIssue).length =
      ((listedClones run.document).filterMap (identity? settings ctx)).dedup.length := by
  obtain ⟨picked, hpicked, hclones, hnodup, hcovers⟩ :=
    exists_firstOfKey settings ctx (listedClones run.document)
  have hperm : (picked.map Prod.fst).Perm
      ((listedClones run.document).filterMap (identity? settings ctx)).dedup := by
    refine (List.perm_ext_iff_of_nodup hnodup (List.nodup_dedup _)).mpr fun i => ?_
    rw [List.mem_dedup]
    refine ⟨fun hi => ?_, hcovers told i⟩
    rw [← map_fst_entries]
    exact (hpicked.map _).subset hi
  rw [← hperm.length_eq, filter_isIssue_findings, issueRows, if_neg (by simp [hone]), hclones]
  simp [cloneRows, hone, Function.comp_def]

/-! ## Three reports -/

namespace Listing

/-- A place as reports have it. -/
def placeJson (name : String) (first last : Nat) : Json :=
  .obj [("end", Json.ofNat last), ("name", .str name), ("start", Json.ofNat first)]

/-- A listed clone with its text. -/
def clone (text : String) (a b : Json) : Json :=
  .obj [("firstFile", a), ("fragment", .str text), ("secondFile", b)]

/-- A run with a report. -/
def runOf (clones : List Json) : RunRecord where
  tool := "jscpd"
  cmd := []
  cwd := "/w/site"
  exitCode := 0
  duration := 0
  stdout := ""
  stderr := ""
  payload? := some (.obj [("duplicates", .arr clones)])

/-- The context of these runs. -/
def site : PathContext := ⟨some "/w/site", some "/w/site", none⟩

def front : Json := placeJson "src/a.ts" 3 14

def back : Json := placeJson "src/b.ts" 10 21

/-- A pair that is listed in both directions, and again with another text. -/
def mirrored : List Json := [clone "x" back front, clone "x" front back, clone "y" front back]

/-- Two pairs of files with one key. -/
def confused : List Json :=
  [clone "x" (placeJson "x" 1 2) (placeJson "y:3-4|z" 5 6),
    clone "x" (placeJson "x:1-2|y" 3 4) (placeJson "z" 5 6)]

end Listing

open Listing

/-- Where texts take part, a pair that is listed with two texts has two rows, although it is listed
three times. -/
theorem issues_of_mirrored :
    let settings : JscpdSettings := { fragmentInKey := true }
    Told settings site mirrored ∧
      ((findings settings (runOf mirrored) site).filter isIssue).length = 2 ∧
      ∃ rows : List (Identity × List Finding),
        (findings settings (runOf mirrored) site).filter isIssue = rows.flatMap Prod.snd ∧
        (rows.map Prod.fst).Nodup ∧
        ∀ i ∈ mirrored.filterMap (identity? settings site), i ∈ rows.map Prod.fst := by
  intro settings
  have hne : Sha256.hex "x" ≠ Sha256.hex "y" := Sha256.hex_ne_of_hexNat_ne (by decide +kernel)
  have hfragments : mirrored.filterMap (fragment? settings) = ["x", "x", "y"] := by
    decide
  have told : Told settings site mirrored := by
    refine ⟨by decide, ?_⟩
    rw [hfragments]
    simp [hne, hne.symm]
  obtain ⟨rows, hrows, -, -, hnodup, hcovers⟩ := issues_of_report settings (runOf mirrored) site
  refine ⟨told, ?_, rows, hrows, hnodup, hcovers told⟩
  rw [length_issues rfl _ _ told]
  decide

/-- Where both sides are asked for, a pair that is listed twice has four rows; and of two pairs, one
is left out if files have vertical bars in their names. -/
theorem issues_repeated_and_lost :
    identity? { emitBothSides := true } site (clone "x" back front) =
        identity? { emitBothSides := true } site (clone "x" front back) ∧
      ((findings { emitBothSides := true }
        (runOf [clone "x" back front, clone "x" front back]) site).filter isIssue).length = 4 ∧
    (confused.filterMap (identity? {} site)).length = 2 ∧
      (confused.filterMap (identity? {} site)).Nodup ∧
      ((findings {} (runOf confused) site).filter isIssue).length = 1 := by
  refine ⟨?_, ?_, ?_, ?_, ?_⟩ <;> decide +kernel

end LintLedger.Jscpd
