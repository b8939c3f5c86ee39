import LintLedger.Proofs.Analyzer.Places
import LintLedger.Proofs.Data.Digits
import LintLedger.Proofs.Data.Joined

/-!
# Dead code read back from its report

A report of dead code has a line for each notice, which names a file, a line of it, a message and
how certain the tool is.  Messages may hold colons, parentheses and what looks like a remark about
certainty: the name ends at the first mark of a line number, and the message at the last remark.
So what was written is read back, whatever other lines stand between.

## Main Definitions

* `Vulture.Notice`, `Vulture.Notice.text` -- what a line of a report says, and the line
* `Vulture.Notice.Legible` -- notices that a line shows without another reading
* `Vulture.Unmatched` -- lines that name no file
* `Vulture.Shows` -- the finding of a notice

## Main Statements

* `Vulture.confidenceRemark?_eq_some_iff` -- what a remark is
* `Vulture.splitRemark_append` -- a message ends at the last remark
* `Vulture.entryOfLine?_text` -- a line is read back
* `Vulture.read_of_notices` -- the findings of a report are its notices that are certain enough
-/

namespace LintLedger.Vulture

open LintLedger.Text

variable {cs digits : List Char}

/-! ## Remarks -/

theorem notMem_of_isDecimalDigit {c : Char} (hc : isDecimalDigit c = false)
    (hdigits : ∀ d ∈ digits, isDecimalDigit d = true) : c ∉ digits := by
  intro hmem
  rw [hdigits c hmem] at hc
  cases hc

/-- The word that ends a remark has blanks in front of it, and may have some behind it. -/
theorem word_iff {more : List Char} :
    ((more.dropWhile isBlank).length < more.length ∧
        trimChars (more.dropWhile isBlank) = "confidence)".toList) ↔
      ∃ gap back, more = gap ++ ("confidence)".toList ++ back) ∧ gap ≠ [] ∧
        (∀ c ∈ gap, isBlank c = true) ∧ ∀ c ∈ back, isBlank c = true := by
  constructor
  · rintro ⟨hlength, hword⟩
    obtain ⟨lead, back, hrest, hlead, hback⟩ := exists_blanks (more.dropWhile isBlank)
    rw [hword] at hrest
    have hmore := List.takeWhile_append_dropWhile (p := isBlank) (l := more)
    have hgap : more.takeWhile isBlank ≠ [] := by
      intro hnil
      rw [hnil, List.nil_append] at hmore
      exact absurd (congrArg List.length hmore) (Nat.ne_of_lt hlength)
    refine ⟨more.takeWhile isBlank ++ lead, back, ?_, List.append_ne_nil_of_left_ne_nil hgap _,
      List.forall_mem_append.mpr ⟨List.all_eq_true.mp List.all_takeWhile, hlead⟩, hback⟩
    rw [List.append_assoc, ← hrest, hmore]
  · rintro ⟨gap, back, rfl, hne, hgap, hback⟩
    have hdrop : (gap ++ ("confidence)".toList ++ back)).dropWhile isBlank =
        "confidence)".toList ++ back := Joined.dropWhile_append_cons hgap (by decide) _
    rw [hdrop, trimChars_append hback]
    exact ⟨by simp [List.length_pos_iff.mpr hne], by decide⟩

/-- **A remark about certainty** is, in parentheses, digits, a percent sign, blanks and the word.
Blanks may stand in front of it and behind it. -/
theorem confidenceRemark?_eq_some_iff :
    confidenceRemark? cs = some digits ↔
      ∃ front gap back,
        cs = front ++ '(' :: (digits ++ '%' :: (gap ++ ("confidence)".toList ++ back))) ∧
        (∀ c ∈ front, isBlank c = true) ∧ digits ≠ [] ∧
        (∀ c ∈ digits, isDecimalDigit c = true) ∧ gap ≠ [] ∧ (∀ c ∈ gap, isBlank c = true) ∧
        ∀ c ∈ back, isBlank c = true := by
  constructor
  · intro h
    rw [confidenceRemark?] at h
    split at h
    · rename_i rest hrest
      dsimp only at h
      split at h
      · rename_i more hmore
        split at h
        · rename_i hword
          cases h
          simp only [Bool.and_eq_true, Bool.not_eq_true', List.isEmpty_eq_false_iff,
            decide_eq_true_eq, beq_iff_eq, and_assoc] at hword
          obtain ⟨hne, hword⟩ := hword
          obtain ⟨gap, back, rfl, hgap⟩ := word_iff.mp hword
          -- the text is put together again from what was taken and what was left of it
          refine ⟨cs.takeWhile isBlank, gap, back, ?_, List.all_eq_true.mp List.all_takeWhile, hne,
            List.all_eq_true.mp List.all_takeWhile, hgap⟩
          rw [← hmore, List.takeWhile_append_dropWhile, ← hrest, List.takeWhile_append_dropWhile]
        · cases h
      · cases h
    · cases h
  · rintro ⟨front, gap, back, rfl, hfront, hne, hdigits, hgap⟩
    have hword := word_iff.mpr ⟨gap, back, rfl, hgap⟩
    have hopen := Joined.dropWhile_append_cons hfront (show isBlank '(' = false by decide)
    have htake := Joined.takeWhile_append_cons hdigits (show isDecimalDigit '%' = false by decide)
    have hdrop := Joined.dropWhile_append_cons hdigits (show isDecimalDigit '%' = false by decide)
    simp only [confidenceRemark?, hopen, htake, hdrop]
    rw [if_pos]
    simpa [hne] using hword

theorem splitRemark_cons (c : Char) (rest : List Char) :
    splitRemark (c :: rest) =
      match confidenceRemark? (c :: rest) with
      | some digits => ([], some digits)
      | none => (c :: (splitRemark rest).1, (splitRemark rest).2) := by
  rfl

/-- **A message ends at the last remark**: at the first place behind which nothing but a remark
stands. -/
theorem splitRemark_append {message remark : List Char}
    (hmessage : ∀ front back, message = front ++ back → back ≠ [] →
      confidenceRemark? (back ++ remark) = none)
    (hremark : confidenceRemark? remark = some digits) :
    splitRemark (message ++ remark) = (message, some digits) := by
  induction message with
  | nil =>
    cases remark with
    | nil =>
      obtain ⟨front, gap, back, hnil, -⟩ := confidenceRemark?_eq_some_iff.mp hremark
      exact absurd hnil.symm (List.append_ne_nil_of_right_ne_nil _ (List.cons_ne_nil _ _))
    | cons c rest => rw [List.nil_append, splitRemark_cons, hremark]
  | cons c message ih =>
    have hc := hmessage [] (c :: message) rfl (List.cons_ne_nil c message)
    have hrest := ih fun front back heq =>
      hmessage (c :: front) back (by rw [heq, List.cons_append])
    rw [List.cons_append] at hc ⊢
    rw [splitRemark_cons, hc, hrest]

/-! ## Notices -/

/-- What a line of a report says. -/
structure Notice where
  file : String
  line : Nat
  message : String
  confidence : Nat

namespace Notice

/-- The line of a notice. -/
def text (n : Notice) : String :=
  n.file ++ ":" ++ toString n.line ++ ": " ++ n.message ++ " (" ++ toString n.confidence
    ++ "% confidence)"

/-- A notice taken apart. -/
def entry (n : Notice) : Entry := ⟨n.file, n.line, n.message, some n.confidence⟩

end Notice

/-- Characters with a mark of a line number: a colon, decimal digits and a colon or the end.
Decimal digits are those of all scripts. -/
def HasMark (cs : List Char) : Prop :=
  ∃ front digits back, cs = front ++ ':' :: (digits ++ back) ∧ digits ≠ [] ∧
    (∀ c ∈ digits, isDecimalDigit c = true) ∧ ∀ c ∈ back.head?, c = ':'

theorem hasMark_cons_iff {c : Char} :
    HasMark (c :: cs) ↔
      (c = ':' ∧ cs.takeWhile isDecimalDigit ≠ [] ∧
        (cs.dropWhile isDecimalDigit).head?.all (· == ':') = true) ∨ HasMark cs := by
  simp only [Option.all_eq_true, beq_iff_eq]
  constructor
  · rintro ⟨front, digits, back, heq, hne, hdigits, hback⟩
    cases front with
    | nil =>
      obtain ⟨rfl, rfl⟩ := List.cons.inj heq
      have hstop : ∀ d ∈ back.head?, isDecimalDigit d = false := by
        intro d hd
        rw [hback d hd, isDecimalDigit_colon]
      refine .inl ⟨rfl, ?_, ?_⟩
      · rwa [Joined.takeWhile_append_eq hdigits hstop]
      · rwa [Joined.dropWhile_append_eq hdigits hstop]
    | cons d front =>
      exact .inr ⟨front, digits, back, (List.cons.inj heq).2, hne, hdigits, hback⟩
  · rintro (⟨rfl, hne, hback⟩ | ⟨front, digits, back, rfl, hmark⟩)
    · exact ⟨[], _, _, by rw [List.takeWhile_append_dropWhile, List.nil_append], hne,
        List.all_eq_true.mp List.all_takeWhile, hback⟩
    · exact ⟨c :: front, digits, back, rfl, hmark⟩

instance decidableHasMark : (cs : List Char) → Decidable (HasMark cs)
  | [] => .isFalse fun ⟨_, _, _, heq, _⟩ =>
    absurd heq.symm (List.append_ne_nil_of_right_ne_nil _ (List.cons_ne_nil _ _))
  | _ :: cs =>
    have := decidableHasMark cs
    decidable_of_iff _ hasMark_cons_iff.symm

/-- Notices that a line shows without another reading. -/
structure Notice.Legible (n : Notice) : Prop where
  file_ne : n.file ≠ ""
  file_break : '\n' ∉ n.file.toList
  file_blank : ∀ c ∈ n.file.toList.head?, isBlank c = false
  file_mark : ¬ HasMark n.file.toList
  message_break : '\n' ∉ n.message.toList
  message_head : ∀ c ∈ n.message.toList.head?, isBlank c = false
  message_last : ∀ c ∈ n.message.toList.getLast?, isBlank c = false
  line_le : (n.line : Int) ≤ int64Max
  confidence_le : (n.confidence : Int) ≤ int64Max

instance (n : Notice) : Decidable n.Legible :=
  decidable_of_iff
    ((n.file ≠ "" ∧ '\n' ∉ n.file.toList ∧ n.file.toList.head?.all (!isBlank ·) = true ∧
        ¬ HasMark n.file.toList) ∧
      ('\n' ∉ n.message.toList ∧ n.message.toList.head?.all (!isBlank ·) = true ∧
        n.message.toList.getLast?.all (!isBlank ·) = true) ∧
      (n.line : Int) ≤ int64Max ∧ (n.confidence : Int) ≤ int64Max) <| by
    simp only [Option.all_eq_true, Bool.not_eq_true']
    exact ⟨fun ⟨⟨hne, hbreak, hblank, hmark⟩, ⟨hbreak', hhead, hlast⟩, hline, hconfidence⟩ =>
        ⟨hne, hbreak, hblank, hmark, hbreak', hhead, hlast, hline, hconfidence⟩,
      fun h => ⟨⟨h.file_ne, h.file_break, h.file_blank, h.file_mark⟩,
        ⟨h.message_break, h.message_head, h.message_last⟩, h.line_le, h.confidence_le⟩⟩

/-- Lines that do not begin with the name of a file, a colon, decimal digits and a colon, blanks at
their ends aside. -/
def Unmatched (line : String) : Prop :=
  ∀ name digits more, Marked (trim line) name digits more → name = ""

variable {n : Notice}

/-- No line number begins inside a name without a mark. -/
theorem lineMark?_of_not_hasMark {name front back rest : List Char} (h : ¬ HasMark name)
    (hname : name = front ++ ':' :: back) : lineMark? (back ++ ':' :: rest) = none := by
  rw [Option.eq_none_iff_forall_ne_some]
  rintro ⟨digits, more⟩ hmark
  obtain ⟨heq, hne, hdigits⟩ := lineMark?_eq_some_iff.mp hmark
  refine h ?_
  -- the digits end inside the name or with it, for there is no colon among them
  obtain ⟨between, hback, hmore⟩ | ⟨between, hlong, hrest⟩ := List.append_eq_append_iff.mp heq
  · have hend : between = [] := by
      cases between with
      | nil => rfl
      | cons c between =>
        rw [List.cons_append] at hmore
        exact absurd (hback ▸ (List.cons.inj hmore).1 ▸ by simp : ':' ∈ digits)
          (notMem_of_isDecimalDigit isDecimalDigit_colon hdigits)
    rw [hend, List.append_nil] at hback
    exact ⟨front, digits, [], by rw [hname, hback, List.append_nil], hne, hdigits, by simp⟩
  · refine ⟨front, digits, between, by rw [hname, hlong], hne, hdigits, ?_⟩
    intro c hc
    cases between with
    | nil => cases hc
    | cons d between =>
      cases hc
      exact (List.cons.inj hrest).1.symm

/-- The remark that a line ends with. -/
def remark (confidence : Nat) : List Char :=
  '(' :: (Nat.toDigits 10 confidence ++ "% confidence)".toList)

theorem confidenceRemark?_remark {front : List Char} (hfront : ∀ c ∈ front, isBlank c = true)
    (confidence : Nat) :
    confidenceRemark? (front ++ remark confidence) = some (Nat.toDigits 10 confidence) :=
  confidenceRemark?_eq_some_iff.mpr ⟨front, [' '], [], rfl, hfront, Nat.toDigits_ne_nil,
    fun _ hc => isDecimalDigit_of_isDigit (Digits.isDigit_of_mem_toDigits hc), by simp,
    List.forall_mem_singleton.mpr (by decide), by simp⟩

/-- What has more than blanks in front of its last parenthesis is no remark. -/
theorem confidenceRemark?_of_mem {front : List Char} {c : Char} (hc : isBlank c = false)
    (hmem : c ∈ front) (confidence : Nat) :
    confidenceRemark? (front ++ remark confidence) = none := by
  rw [Option.eq_none_iff_forall_ne_some]
  intro digits h
  obtain ⟨blanks, gap, back, heq, hblanks, -, hdigits, -, hgap, hback⟩ :=
    confidenceRemark?_eq_some_iff.mp h
  have hbehind : '(' ∉ Nat.toDigits 10 confidence ++ "% confidence)".toList := by
    simp [Digits.notMem_toDigits (c := '(') rfl]
  have hwritten : '(' ∉ digits ++ '%' :: (gap ++ ("confidence)".toList ++ back)) := by
    have hno : '(' ∉ digits := notMem_of_isDecimalDigit (by decide) hdigits
    have hgap' : '(' ∉ gap := fun hmem => absurd (hgap _ hmem) (by decide)
    have hback' : '(' ∉ back := fun hmem => absurd (hback _ hmem) (by decide)
    simp [hno, hgap', hback']
  obtain ⟨rfl, -⟩ := Joined.back_eq hbehind hwritten heq
  rw [hblanks c hmem] at hc
  cases hc

theorem toList_text (n : Notice) :
    n.text.toList = n.file.toList ++ ':' :: (Nat.toDigits 10 n.line ++ ':' ::
      (' ' :: (n.message.toList ++ ' ' :: remark n.confidence))) := by
  simp [Notice.text, remark]

theorem trimChars_text (h : n.Legible) : trimChars n.text.toList = n.text.toList := by
  refine trimChars_eq_self (fun c hc => h.file_blank c ?_) fun c hc => ?_
  · have hne : n.file.toList ≠ [] := fun hnil => h.file_ne (String.toList_eq_nil_iff.mp hnil)
    rwa [toList_text, List.head?_append_of_ne_nil _ hne] at hc
  · have hlast : n.text.toList.getLast? = some ')' := by
      simp [toList_text, remark, List.getLast?_append, List.getLast?_cons]
    rw [hlast] at hc
    cases hc
    decide

/-- The message and the remark behind the blank that follows a line number. -/
theorem splitRemark_text (h : n.Legible) :
    splitRemark ((' ' :: (n.message.toList ++ ' ' :: remark n.confidence)).dropWhile isBlank) =
      (n.message.toList, some (Nat.toDigits 10 n.confidence)) := by
  -- without a message the blank in front of the remark is dropped as well
  obtain ⟨gap, hgap, hdrop⟩ : ∃ gap, (∀ c ∈ gap, isBlank c = true) ∧
      (' ' :: (n.message.toList ++ ' ' :: remark n.confidence)).dropWhile isBlank =
        n.message.toList ++ (gap ++ remark n.confidence) := by
    cases hmessage : n.message.toList with
    | nil => exact ⟨[], by simp, rfl⟩
    | cons c rest =>
      have hc : isBlank c = false := h.message_head c (by rw [hmessage]; rfl)
      have hblank : ∀ d ∈ [' '], isBlank d = true := List.forall_mem_singleton.mpr (by decide)
      exact ⟨[' '], hblank, Joined.dropWhile_append_cons hblank hc _⟩
  rw [hdrop]
  refine splitRemark_append (fun front back heq hne => ?_) (confidenceRemark?_remark hgap _)
  have hlast : isBlank (back.getLast hne) = false := by
    refine h.message_last _ ?_
    rw [heq, List.getLast?_append_of_ne_nil _ hne]
    exact List.getLast?_eq_some_getLast hne
  rw [← List.append_assoc]
  exact confidenceRemark?_of_mem hlast (List.mem_append_left _ (List.getLast_mem hne)) _

/-- **A line is read back.** -/
theorem entryOfLine?_text (h : n.Legible) : entryOfLine? n.text = some n.entry := by
  have hne : n.file.toList ≠ [] := fun hnil => h.file_ne (String.toList_eq_nil_iff.mp hnil)
  have hmark : lineMark? (Nat.toDigits 10 n.line ++ ':' ::
      (' ' :: (n.message.toList ++ ' ' :: remark n.confidence))) =
        some (Nat.toDigits 10 n.line, _) :=
    lineMark?_eq_some_iff.mpr ⟨rfl, Nat.toDigits_ne_nil,
      fun _ hc => isDecimalDigit_of_isDigit (Digits.isDigit_of_mem_toDigits hc)⟩
  have hsplit := @splitFile?_append_of_unmarked [] n.file.toList _ _ _
    (fun front back hname => lineMark?_of_not_hasMark h.file_mark hname) hne hmark
  have hmessage : trimChars n.message.toList = n.message.toList :=
    trimChars_eq_self h.message_head h.message_last
  rw [entryOfLine?, trimChars_text h, toList_text, hsplit, Option.bind_some]
  simp only [← Nat.toString_eq_ofList_toDigits, Digits.int64Of?_toString h.line_le, Option.map_some,
    splitRemark_text h, hmessage, Option.bind_some, Digits.int64Of?_toString h.confidence_le,
    List.reverse_nil, List.nil_append, String.ofList_toList]
  rfl

/-! ## Reports -/

theorem ne_nil_of_splitFile?_eq_some {passed cs name digits more : List Char}
    (h : splitFile? passed cs = some (name, digits, more)) : name ≠ [] := by
  induction cs generalizing passed with
  | nil => cases h
  | cons c cs ih =>
    rw [splitFile?] at h
    split at h
    · rename_i hmark
      cases h
      split at hmark
      · rename_i hcolon
        simpa using hcolon.2
      · cases hmark
    · exact ih h

theorem isSome_splitFile? {passed name cs : List Char} {mark : List Char × List Char}
    (hne : passed ++ name ≠ []) (hmark : lineMark? cs = some mark) :
    (splitFile? passed (name ++ ':' :: cs)).isSome = true := by
  induction name generalizing passed with
  | nil =>
    rw [List.append_nil] at hne
    rw [List.nil_append, splitFile?, if_pos ⟨rfl, by simpa using hne⟩, hmark]
    rfl
  | cons c name ih =>
    rw [List.cons_append, splitFile?]
    split
    · rfl
    · exact ih (by simp)

/-- **Lines that name no file** are those that are not cut. -/
theorem unmatched_iff {line : String} :
    Unmatched line ↔ splitFile? [] (trimChars line.toList) = none := by
  constructor
  · intro h
    rw [Option.eq_none_iff_forall_ne_some]
    rintro ⟨name, digits, more⟩ hsplit
    obtain ⟨own, rest, hname, hline, hmark⟩ := exists_of_splitFile?_eq_some hsplit
    obtain ⟨rfl, hne, hdigits⟩ := lineMark?_eq_some_iff.mp hmark
    have hempty := h (String.ofList own) digits more
      ⟨by rw [trim, String.toList_ofList, String.toList_ofList, hline], hne, hdigits⟩
    refine ne_nil_of_splitFile?_eq_some hsplit ?_
    rw [hname, List.reverse_nil, List.nil_append, ← String.ofList_eq_empty_iff, hempty]
  · intro h name digits more hmarked
    have hline := hmarked.line
    rw [trim, String.toList_ofList] at hline
    by_contra hname
    have hmark : lineMark? (digits ++ ':' :: more) = some (digits, more) :=
      lineMark?_eq_some_iff.mpr ⟨rfl, hmarked.ne_nil, hmarked.digits⟩
    have hcut := @isSome_splitFile? [] name.toList _ _ (by simpa using hname) hmark
    rw [← hline, h] at hcut
    cases hcut

instance (line : String) : Decidable (Unmatched line) := decidable_of_iff _ unmatched_iff.symm

/-- A line that names no file has no entry. -/
theorem entryOfLine?_of_unmatched {line : String} (h : Unmatched line) :
    entryOfLine? line = none := by
  rw [entryOfLine?, unmatched_iff.mp h, Option.bind_none]

/-- What a line with a notice is read as does not depend on the blanks at its ends. -/
theorem entryOfLine?_congr {line line' : String} (h : trim line = trim line') :
    entryOfLine? line = entryOfLine? line' := by
  rw [entryOfLine?, entryOfLine?, trim_eq_iff.mp h]

/-- There is no line break in a notice. -/
theorem notMem_text (h : n.Legible) : '\n' ∉ n.text.toList := by
  rw [toList_text]
  simp [remark, h.file_break, h.message_break, Digits.notMem_toDigits (c := '\n') rfl]

/-- The finding of a notice: where it is, and what it says. -/
structure Shows (ctx : PathContext) (root : String) (n : Notice) (f : Finding) : Prop where
  table : f.table = Tool.vulture.tableName
  file : f.file = ctx.filePath n.file
  root : f.root = root
  region : f.region = ⟨some n.line, some n.line, none, none⟩
  message : f.column? "message" = some (.str n.message)
  confidence : f.column? "confidence" = some (Json.ofInt n.confidence)

theorem shows_row (ctx : PathContext) (root : String) (n : Notice) :
    Shows ctx root n (row ctx root n.entry) where
  table := by simp [row]
  file := by simp [row, Notice.entry]
  root := by simp [row]
  region := by simp [row, Notice.entry]
  message := by simp [row, Notice.entry, Finding.column?, Json.isNull]
  confidence := by simp [row, Notice.entry, Finding.column?, Json.isNull, Json.ofInt]

/-- **The findings of a report are its notices that are certain enough**, in their order, whatever
other lines stand between them. -/
theorem read_of_notices (settings : VultureSettings) {run : RunRecord} {ns : List Notice}
    {ls : List String} (hns : ∀ n ∈ ns, n.Legible) (hls : Interleaved Notice.text Unmatched ns ls)
    (hout : run.stdout = "\n".intercalate ls) (ctx : PathContext) :
    ∃ rows, (analyzer settings).read run ctx = .ok rows ∧
      List.Forall₂ (Shows ctx (ctx.root (ns.map Notice.file)))
        (ns.filter fun n => settings.minConfidence ≤ n.confidence) rows := by
  have hentries : (lines run.stdout).filterMap entryOfLine? = ns.map Notice.entry := by
    rw [hout]
    exact hls.filterMap_lines (fun _ _ => entryOfLine?_congr)
      (entryOfLine?_of_unmatched (by decide)) (fun n hn => notMem_text (hns n hn))
      (fun n hn => entryOfLine?_text (hns n hn)) fun _ => entryOfLine?_of_unmatched
  refine ⟨findings settings run ctx, rfl, ?_⟩
  have hfiles : (ns.map Notice.entry).map (·.file) = ns.map Notice.file := by
    rw [List.map_map]
    rfl
  have hcertain : (fun e => isCertain settings e) ∘ Notice.entry =
      fun n => decide (settings.minConfidence ≤ n.confidence) := by
    funext n
    exact decide_eq_decide.mpr Int.ofNat_le
  rw [findings, hentries, hfiles, List.filter_map, hcertain, List.forall₂_map_right_iff,
    List.forall₂_map_right_iff, List.forall₂_same]
  exact fun n _ => shows_row ctx _ n

/-! ## A report with remarks in messages -/

namespace Reported

/-- A message with a colon and a remark of its own, none at all, and one that is not certain
enough. -/
def notices : List Notice :=
  [⟨"pkg/a:b.py", 12, "unused: see 7: (60% confidence)!", 90⟩, ⟨"m.py", 0, "", 100⟩,
    ⟨"m.py", 3, "import 'os' (99% confidence)", 40⟩]

/-- The lines of these notices, among others. -/
def lines : List String :=
  ["scanning pkg: 12 files", "pkg/a:b.py:12: unused: see 7: (60% confidence)! (90% confidence)",
    "m.py:0:  (100% confidence)\r", ":7: no file",
    "m.py:3: import 'os' (99% confidence) (40% confidence)", ""]

/-- The run with these lines. -/
def run : RunRecord where
  tool := "vulture"
  cmd := []
  cwd := "/srv/api"
  exitCode := 3
  duration := 0
  stdout := "\n".intercalate lines
  stderr := ""
  payload? := none

end Reported

open Reported in
/-- Two of three notices are certain enough. -/
theorem read_of_three_notices :
    (∀ n ∈ notices, n.Legible) ∧ Interleaved Notice.text Unmatched notices lines ∧
      run.stdout = "\n".intercalate lines ∧
      ∃ f g,
        (analyzer { minConfidence := 60 }).read run ⟨some "/srv/api", none, none⟩ = .ok [f, g] ∧
        f.column? "message" = some (.str "unused: see 7: (60% confidence)!") ∧
        g.region = ⟨some 0, some 0, none, none⟩ := by
  have hns : ∀ n ∈ notices, n.Legible := by decide
  have hls : Interleaved Notice.text Unmatched notices lines :=
    .other (by decide) (by decide) (.written (.inl (by decide))
      (.written (.inr (by decide)) (.other (by decide) (by decide)
        (.written (.inl (by decide)) (.other (by decide) (by decide) .nil)))))
  have hout : run.stdout = "\n".intercalate lines := rfl
  obtain ⟨rows, hread, hrows⟩ := read_of_notices { minConfidence := 60 } hns hls hout
    ⟨some "/srv/api", none, none⟩
  change List.Forall₂ _ [_, _] rows at hrows
  obtain _ | ⟨hf, _ | ⟨hg, _ | _⟩⟩ := hrows
  exact ⟨hns, hls, hout, _, _, hread, hf.message, hg.region⟩

end LintLedger.Vulture
