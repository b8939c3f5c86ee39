import LintLedger.Text.Blank
import Mathlib.Data.List.Basic
import Mathlib.Data.List.DropRight
import Mathlib.Data.List.Induction

/-!
# Parts between separators

From parts joined by a separator the parts can be told again if they do not contain it.  One part
may contain it, if the number of the parts behind it is known.

The lines of a text are such parts.  Tools that report line by line print other lines between those
that count, and a reader of such a report takes each line on its own, without the blanks at its
ends.  Lines that are joined by line feeds are told again, but for a carriage return at the end of a
line, which is blank.  Joining covers a text whose last line is ended as well: the line behind the
last line feed is empty.

## Main Definitions

* `Text.Interleaved` -- lines on some of which something is written

## Main Statements

* `Joined.takeWhile_append_eq`, `Joined.dropWhile_append_eq` -- where one kind of elements ends
* `Joined.front_eq`, `Joined.back_eq` -- what stands before the first and after the last separator
* `Joined.middle_eq` -- the parts of which all but one do not contain the separator
* `Text.splitAll_eq_splitOnP` -- cutting at separators, as the library knows it
* `Text.trimChars_eq_self` -- a text with no blanks at its ends
* `Text.lines_intercalate` -- lines that are joined by line feeds
* `Text.Interleaved.filterMap_lines` -- what is written on the lines of a text is read back
* `Text.exists_line_of_first` -- the first character of a text stands on a line of it
-/

namespace LintLedger.Joined

variable {α : Type} {x : α}

section While

variable {p : α → Bool} {front rest : List α}

/-- What is taken ends before a rest that does not begin with more of it. -/
theorem takeWhile_append_of_head (h : ∀ c ∈ rest.head?, p c = false) :
    (front ++ rest).takeWhile p = front.takeWhile p := by
  induction front with
  | nil =>
    cases rest with
    | nil => rfl
    | cons c rest => simp [h c rfl]
  | cons c front ih => simp [List.takeWhile_cons, ih]

/-- And the rest stays where it is dropped. -/
theorem dropWhile_append_of_head (h : ∀ c ∈ rest.head?, p c = false) :
    (front ++ rest).dropWhile p = front.dropWhile p ++ rest := by
  induction front with
  | nil =>
    cases rest with
    | nil => rfl
    | cons c rest => simp [h c rfl]
  | cons c front ih =>
    rw [List.cons_append, List.dropWhile_cons, List.dropWhile_cons, ih]
    split <;> rfl

/-- Where one kind of elements ends, what is taken is all of it. -/
theorem takeWhile_append_eq (hfront : ∀ c ∈ front, p c = true) (h : ∀ c ∈ rest.head?, p c = false) :
    (front ++ rest).takeWhile p = front := by
  rw [takeWhile_append_of_head h, List.takeWhile_eq_self_iff.mpr hfront]

theorem dropWhile_append_eq (hfront : ∀ c ∈ front, p c = true) (h : ∀ c ∈ rest.head?, p c = false) :
    (front ++ rest).dropWhile p = rest := by
  rw [dropWhile_append_of_head h, List.dropWhile_eq_nil_iff.mpr hfront, List.nil_append]

theorem takeWhile_append_cons (hfront : ∀ c ∈ front, p c = true) (hx : p x = false)
    (rest : List α) : (front ++ x :: rest).takeWhile p = front :=
  takeWhile_append_eq hfront (by simpa using hx)

theorem dropWhile_append_cons (hfront : ∀ c ∈ front, p c = true) (hx : p x = false)
    (rest : List α) : (front ++ x :: rest).dropWhile p = x :: rest :=
  dropWhile_append_eq hfront (by simpa using hx)

end While

theorem intercalate_cons_eq (part : List α) (rest : List (List α)) :
    [x].intercalate (part :: rest) = part ++ rest.flatMap fun l => x :: l := by
  induction rest generalizing part with
  | nil => simp
  | cons l rest ih => simp [ih]

/-- What stands before the first separator is told from what stands behind it. -/
theorem front_eq {a a' r r' : List α} (ha : x ∉ a) (ha' : x ∉ a')
    (h : a ++ x :: r = a' ++ x :: r') : a = a' ∧ r = r' := by
  induction a generalizing a' with
  | nil =>
    cases a' with
    | nil => exact ⟨rfl, (List.cons.inj h).2⟩
    | cons c a' => exact absurd ((List.cons.inj h).1 ▸ List.mem_cons_self) ha'
  | cons c a ih =>
    cases a' with
    | nil => exact absurd ((List.cons.inj h).1 ▸ List.mem_cons_self) ha
    | cons c' a' =>
      obtain ⟨rfl, htail⟩ := List.cons.inj h
      obtain ⟨rfl, rfl⟩ := ih (fun hc => ha (List.mem_cons_of_mem _ hc))
        (fun hc => ha' (List.mem_cons_of_mem _ hc)) htail
      exact ⟨rfl, rfl⟩

/-- What stands behind the last separator is told from what stands before it. -/
theorem back_eq {a a' r r' : List α} (hr : x ∉ r) (hr' : x ∉ r')
    (h : a ++ x :: r = a' ++ x :: r') : a = a' ∧ r = r' := by
  have hreversed : r.reverse ++ x :: a.reverse = r'.reverse ++ x :: a'.reverse := by
    simpa using congrArg List.reverse h
  obtain ⟨hback, hfront⟩ := front_eq (by simpa using hr) (by simpa using hr') hreversed
  exact ⟨List.reverse_inj.mp hfront, List.reverse_inj.mp hback⟩

/-- Parts at the end are told from whatever stands before them, if their number is known. -/
theorem ends_eq {part part' : List α} {ends ends' : List (List α)}
    (hlength : ends.length = ends'.length) (hends : ∀ l ∈ ends, x ∉ l)
    (hends' : ∀ l ∈ ends', x ∉ l)
    (h : (part ++ ends.flatMap fun l => x :: l) = part' ++ ends'.flatMap fun l => x :: l) :
    part = part' ∧ ends = ends' := by
  -- by the last part, since the first may contain the separator
  induction ends using List.reverseRecOn generalizing ends' with
  | nil =>
    obtain rfl := List.length_eq_zero_iff.mp hlength.symm
    simpa using h
  | append_singleton ends l ih =>
    obtain ⟨front, l', rfl⟩ : ∃ front l', ends' = front ++ [l'] := by
      rcases List.eq_nil_or_concat ends' with rfl | ⟨front, l', rfl⟩
      · simp at hlength
      · exact ⟨front, l', List.concat_eq_append ..⟩
    simp only [List.flatMap_append, List.flatMap_cons, List.flatMap_nil, List.append_nil,
      ← List.append_assoc] at h
    obtain ⟨hfront, rfl⟩ := back_eq (hends l (by simp)) (hends' l' (by simp)) h
    have hlength' : ends.length = front.length := by simpa using hlength
    obtain ⟨rfl, rfl⟩ := ih hlength' (fun l hl => hends l (List.mem_append_left _ hl))
      (fun l hl => hends' l (List.mem_append_left _ hl)) hfront
    exact ⟨rfl, rfl⟩

/-- **All parts are told**, if the numbers of those before and behind one of them are known, and
that one alone contains the separator. -/
theorem middle_eq {starts starts' ends ends' : List (List α)} {part part' : List α}
    (hstarts : starts.length = starts'.length) (hends : ends.length = ends'.length)
    (hclean : ∀ l ∈ starts ++ ends, x ∉ l) (hclean' : ∀ l ∈ starts' ++ ends', x ∉ l)
    (h : [x].intercalate (starts ++ part :: ends) = [x].intercalate (starts' ++ part' :: ends')) :
    starts = starts' ∧ part = part' ∧ ends = ends' := by
  induction starts generalizing starts' with
  | nil =>
    obtain rfl := List.length_eq_zero_iff.mp hstarts.symm
    simp only [List.nil_append, intercalate_cons_eq] at h hclean hclean'
    exact ⟨rfl, ends_eq hends hclean hclean' h⟩
  | cons l starts ih =>
    cases starts' with
    | nil => simp at hstarts
    | cons l' starts' =>
      rw [List.cons_append, List.cons_append, List.intercalate_cons_of_ne_nil (by simp),
        List.intercalate_cons_of_ne_nil (by simp), List.append_assoc, List.append_assoc] at h
      obtain ⟨rfl, htail⟩ := front_eq (hclean l (by simp)) (hclean' l' (by simp)) h
      obtain ⟨rfl, rfl, rfl⟩ := ih (by simpa using hstarts)
        (fun l hl => hclean l (List.mem_cons_of_mem _ hl))
        (fun l hl => hclean' l (List.mem_cons_of_mem _ hl)) htail
      exact ⟨rfl, rfl, rfl⟩

end LintLedger.Joined

namespace LintLedger.Text

/-! ## Cutting at separators -/

section Cutting

variable {α : Type} {p : α → Bool}

/-- Cutting at separators is what the library knows. -/
theorem splitAll_eq_splitOnP (p : α → Bool) (cs : List α) : splitAll p cs = cs.splitOnP p := by
  induction cs with
  | nil => rfl
  | cons c rest ih =>
    rw [splitAll, ih, List.splitOnP_cons_eq_if_modifyHead]
    split
    · rfl
    · cases hrest : rest.splitOnP p with
      | nil => exact absurd hrest (List.splitOnP_ne_nil p rest)
      | cons piece pieces => rfl

theorem splitAll_ne_nil (p : α → Bool) (cs : List α) : splitAll p cs ≠ [] := by
  rw [splitAll_eq_splitOnP]
  exact List.splitOnP_ne_nil p cs

theorem splitAll_of_forall {cs : List α} (h : ∀ c ∈ cs, p c = false) : splitAll p cs = [cs] := by
  rw [splitAll_eq_splitOnP, List.splitOnP_eq_singleton h]

/-- A separator ends the pieces of what stands in front of it. -/
theorem splitAll_append_cons {cs rest : List α} {c : α} (hc : p c = true) :
    splitAll p (cs ++ c :: rest) = splitAll p cs ++ splitAll p rest := by
  simp only [splitAll_eq_splitOnP, List.splitOnP_append_cons cs rest hc]

/-- No piece contains a separator. -/
theorem forall_of_mem_splitAll {cs piece : List α} (h : piece ∈ splitAll p cs) :
    ∀ c ∈ piece, p c = false := by
  induction cs generalizing piece with
  | nil =>
    obtain rfl := List.mem_singleton.mp h
    simp
  | cons c rest ih =>
    rw [splitAll] at h
    split at h
    · rcases List.mem_cons.mp h with rfl | h
      · simp
      · exact ih h
    · rename_i hc
      split at h
      · rename_i hnil
        exact absurd hnil (splitAll_ne_nil p rest)
      · rename_i first pieces heq
        rcases List.mem_cons.mp h with rfl | h
        · intro d hd
          rcases List.mem_cons.mp hd with rfl | hd
          · simpa using hc
          · exact ih (heq ▸ List.mem_cons_self) d hd
        · exact ih (heq ▸ List.mem_cons_of_mem _ h)

/-- A separator at the end adds an empty piece. -/
theorem splitAll_concat_of_sep {cs : List α} {c : α} (hc : p c = true) :
    splitAll p (cs ++ [c]) = splitAll p cs ++ [[]] :=
  splitAll_append_cons hc

/-- Any other character at the end goes to the last piece. -/
theorem splitAll_concat_of_not_sep {cs : List α} {c : α} (hc : p c = false) :
    ∃ front last, splitAll p (cs ++ [c]) = front ++ [last ++ [c]] := by
  induction cs with
  | nil => exact ⟨[], [], by simp [splitAll, hc]⟩
  | cons d cs ih =>
    obtain ⟨front, last, heq⟩ := ih
    rw [List.cons_append, splitAll, heq]
    split
    · exact ⟨[] :: front, last, rfl⟩
    · cases front with
      | nil => exact ⟨[], d :: last, rfl⟩
      | cons piece front => exact ⟨(d :: piece) :: front, last, rfl⟩

end Cutting

/-! ## Trimming -/

section Trimming

variable {cs : List Char} {c : Char}

/-- Dropping at the end is what the library knows. -/
theorem dropTail_eq_rdropWhile {α : Type} (p : α → Bool) (xs : List α) :
    dropTail p xs = xs.rdropWhile p := rfl

/-- A blank at the end is trimmed. -/
theorem trimChars_concat (hc : isBlank c = true) : trimChars (cs ++ [c]) = trimChars cs := by
  rw [trimChars, trimChars, List.dropWhile_append]
  split
  · rename_i hempty
    rw [List.isEmpty_iff.mp hempty, List.dropWhile_cons_of_pos hc]
    rfl
  · rw [dropTail_eq_rdropWhile, List.rdropWhile_concat_pos _ _ _ hc, dropTail_eq_rdropWhile]

/-- Blanks at the end are trimmed. -/
theorem trimChars_append {tail : List Char} (h : ∀ c ∈ tail, isBlank c = true) :
    trimChars (cs ++ tail) = trimChars cs := by
  induction tail using List.reverseRecOn with
  | nil => rw [List.append_nil]
  | append_singleton tail c ih =>
    rw [List.forall_mem_append, List.forall_mem_singleton] at h
    rw [← List.append_assoc, trimChars_concat h.2, ih h.1]

/-- Trimming begins where the blanks in front end. -/
theorem head?_trimChars (cs : List Char) :
    (trimChars cs).head? = (cs.dropWhile isBlank).head? := by
  cases hrest : cs.dropWhile isBlank with
  | nil =>
    rw [trimChars, hrest]
    rfl
  | cons c rest =>
    have hc : ¬ isBlank c = true := by
      have hfirst := List.head?_dropWhile_not isBlank cs
      rw [hrest] at hfirst
      simp [show isBlank c = false from hfirst]
    have hne : List.rdropWhile isBlank (c :: rest) ≠ [] := by
      rw [Ne, List.rdropWhile_eq_nil_iff]
      exact fun hall => hc (hall c List.mem_cons_self)
    obtain ⟨d, tail, hdrop⟩ := List.exists_cons_of_ne_nil hne
    have hprefix := List.rdropWhile_prefix isBlank (c :: rest)
    rw [hdrop, List.cons_prefix_cons] at hprefix
    rw [trimChars, hrest, dropTail_eq_rdropWhile, hdrop, hprefix.1]
    rfl

/-- **A text with no blanks at its ends** is trimmed already. -/
theorem trimChars_eq_self (hhead : ∀ c ∈ cs.head?, isBlank c = false)
    (hlast : ∀ c ∈ cs.getLast?, isBlank c = false) : trimChars cs = cs := by
  have hfront : cs.dropWhile isBlank = cs := by
    cases cs with
    | nil => rfl
    | cons c cs => rw [List.dropWhile_cons_of_neg (by simp [hhead c rfl])]
  rw [trimChars, hfront, dropTail_eq_rdropWhile, List.rdropWhile_eq_self_iff]
  intro hne
  simp [hlast _ (List.getLast?_eq_some_getLast hne)]

/-- The carriage return that is dropped at the end of a line is blank. -/
theorem trimChars_dropReturn (cs : List Char) : trimChars (dropReturn cs) = trimChars cs := by
  unfold dropReturn
  split
  · rename_i rest hreverse
    have hcs : cs = rest.reverse ++ ['\r'] := by
      rw [← List.reverse_inj, hreverse]
      simp
    rw [hcs, trimChars_concat (by decide)]
  · rfl

/-- **Blanks alone are trimmed.** -/
theorem exists_blanks (cs : List Char) :
    ∃ front back, cs = front ++ (trimChars cs ++ back) ∧ (∀ c ∈ front, isBlank c = true) ∧
      ∀ c ∈ back, isBlank c = true := by
  refine ⟨cs.takeWhile isBlank, (cs.dropWhile isBlank).rtakeWhile isBlank, ?_,
    List.all_eq_true.mp List.all_takeWhile, fun _ => List.mem_rtakeWhile_imp⟩
  rw [trimChars, dropTail_eq_rdropWhile, List.rdropWhile_append_rtakeWhile,
    List.takeWhile_append_dropWhile]

theorem trim_eq_iff {s t : String} : trim s = trim t ↔ trimChars s.toList = trimChars t.toList :=
  String.ofList_inj

end Trimming

/-! ## Lines that are joined -/

/-- Lines joined by line feeds are cut at them again. -/
theorem splitAll_intercalate {ls : List String} (h : ∀ l ∈ ls, '\n' ∉ l.toList) (hne : ls ≠ []) :
    splitAll (· == '\n') ("\n".intercalate ls).toList = ls.map String.toList := by
  rw [splitAll_eq_splitOnP, ← List.splitOn_eq_splitOnP, String.toList_intercalate]
  exact List.splitOn_intercalate '\n' (List.forall_mem_map.mpr h) (by simpa using hne)

/-- **Lines joined by line feeds** are the lines of the text, but for carriage returns at the ends
of those behind which a line feed stands, and for an empty last line. -/
theorem lines_intercalate {ls : List String} {last : String} (h : ∀ l ∈ ls, '\n' ∉ l.toList)
    (hlast : '\n' ∉ last.toList) :
    lines ("\n".intercalate (ls ++ [last])) =
      (ls.map fun l => String.ofList (dropReturn l.toList)) ++
        if last = "" then [] else [last] := by
  have hlines : ∀ l ∈ ls ++ [last], '\n' ∉ l.toList :=
    List.forall_mem_append.mpr ⟨h, List.forall_mem_singleton.mpr hlast⟩
  rw [lines, linesOf, splitAll_intercalate hlines (by simp), List.map_append, List.map_singleton,
    List.reverse_append, List.reverse_singleton, List.singleton_append]
  simp only [List.reverse_reverse, List.isEmpty_iff, String.toList_eq_nil_iff]
  split
  · simp
  · simp

/-! ## Things written on lines -/

section Interleaved

variable {α β : Type} {write : α → String} {Other : String → Prop} {xs : List α} {ls : List String}

/-- Lines on which things are written, one on a line and in their order, and between them lines of
another kind.  Behind what is written a line may have the carriage return of a line ending. -/
inductive Interleaved (write : α → String) (Other : String → Prop) : List α → List String → Prop
  | nil : Interleaved write Other [] []
  | written {x : α} {xs : List α} {line : String} {ls : List String}
      (hline : line = write x ∨ line = write x ++ "\r") (h : Interleaved write Other xs ls) :
      Interleaved write Other (x :: xs) (line :: ls)
  | other {xs : List α} {line : String} {ls : List String} (hline : Other line)
      (hbreak : '\n' ∉ line.toList) (h : Interleaved write Other xs ls) :
      Interleaved write Other xs (line :: ls)

/-- There is no line feed on a line. -/
theorem Interleaved.notMem (h : Interleaved write Other xs ls)
    (hwrite : ∀ x ∈ xs, '\n' ∉ (write x).toList) : ∀ l ∈ ls, '\n' ∉ l.toList := by
  induction h with
  | nil => simp
  | written hline _ ih =>
    obtain ⟨hx, hxs⟩ := List.forall_mem_cons.mp hwrite
    refine List.forall_mem_cons.mpr ⟨?_, ih hxs⟩
    obtain rfl | rfl := hline
    · exact hx
    · simpa using hx
  | other _ hbreak _ ih => exact List.forall_mem_cons.mpr ⟨hbreak, ih hwrite⟩

/-- What holds of the lines that are written, with either ending, and of the others. -/
theorem Interleaved.forall_mem {P : String → Prop} (h : Interleaved write Other xs ls)
    (hwrite : ∀ x ∈ xs, P (write x) ∧ P (write x ++ "\r")) (hother : ∀ l, Other l → P l) :
    ∀ l ∈ ls, P l := by
  induction h with
  | nil => simp
  | written hline _ ih =>
    obtain ⟨hx, hxs⟩ := List.forall_mem_cons.mp hwrite
    refine List.forall_mem_cons.mpr ⟨?_, ih hxs⟩
    obtain rfl | rfl := hline
    · exact hx.1
    · exact hx.2
  | other hline _ _ ih => exact List.forall_mem_cons.mpr ⟨hother _ hline, ih hwrite⟩

variable {read : String → Option β} {entry : α → β}

/-- A reader that does not look at blanks at the ends reads the lines of a text as they were before
they were joined. -/
theorem filterMap_lines_intercalate (htrim : ∀ l l', trim l = trim l' → read l = read l')
    (hempty : read "" = none) (h : ∀ l ∈ ls, '\n' ∉ l.toList) :
    (lines ("\n".intercalate ls)).filterMap read = ls.filterMap read := by
  induction ls using List.reverseRecOn with
  | nil => rfl
  | append_singleton ls last _ =>
    rw [List.forall_mem_append, List.forall_mem_singleton] at h
    have hreturn : ∀ l ∈ ls, read (String.ofList (dropReturn l.toList)) = read l := fun l _ =>
      htrim _ _ (trim_eq_iff.mpr (by rw [String.toList_ofList, trimChars_dropReturn]))
    rw [lines_intercalate h.1 h.2, List.filterMap_append, List.filterMap_append, List.filterMap_map]
    congr 1
    · exact List.filterMap_congr hreturn
    · split
      · rename_i hlast
        rw [hlast, List.filterMap_cons_none hempty]
      · rfl

/-- **What is written on the lines of a text is read back**, if the reader reads it from a line of
its own, does not look at blanks at the ends of a line, and reads nothing from the other lines. -/
theorem Interleaved.filterMap_lines (h : Interleaved write Other xs ls)
    (htrim : ∀ l l', trim l = trim l' → read l = read l') (hempty : read "" = none)
    (hbreak : ∀ x ∈ xs, '\n' ∉ (write x).toList)
    (hwrite : ∀ x ∈ xs, read (write x) = some (entry x)) (hother : ∀ l, Other l → read l = none) :
    (lines ("\n".intercalate ls)).filterMap read = xs.map entry := by
  rw [filterMap_lines_intercalate htrim hempty (h.notMem hbreak)]
  clear hbreak
  induction h with
  | nil => rfl
  | @written x xs line ls hline _ ih =>
    obtain ⟨hx, hxs⟩ := List.forall_mem_cons.mp hwrite
    have hsame : trim line = trim (write x) := by
      obtain rfl | rfl := hline
      · rfl
      · rw [trim_eq_iff, String.toList_append]
        exact trimChars_concat (by decide)
    rw [List.filterMap_cons_some ((htrim _ _ hsame).trans hx), ih hxs, List.map_cons]
  | other hline _ _ ih => rw [List.filterMap_cons_none (hother _ hline), ih hwrite]

end Interleaved

/-- **The first character of a text** that is no blank is the first one of a line of it. -/
theorem exists_line_of_first {ls : List String} {c : Char}
    (h : (("\n".intercalate ls).toList.dropWhile isBlank).head? = some c) :
    ∃ l ∈ ls, (l.toList.dropWhile isBlank).head? = some c := by
  rw [String.toList_intercalate] at h
  induction ls with
  | nil => cases h
  | cons l ls ih =>
    by_cases hls : ls = []
    · subst hls
      exact ⟨l, List.mem_cons_self, by simpa using h⟩
    · rw [List.map_cons, List.intercalate_cons_of_ne_nil (by simpa using hls), List.append_assoc,
        List.dropWhile_append] at h
      split at h
      · -- the first line is blank, as is the line feed behind it
        rw [show "\n".toList = ['\n'] from rfl, List.singleton_append,
          List.dropWhile_cons_of_pos (by decide)] at h
        obtain ⟨l', hl', hfirst⟩ := ih h
        exact ⟨l', List.mem_cons_of_mem l hl', hfirst⟩
      · rename_i hempty
        refine ⟨l, List.mem_cons_self, ?_⟩
        rwa [List.head?_append_of_ne_nil _ (by simpa using hempty)] at h

end LintLedger.Text
