import LintLedger.Text.Difference
import LintLedger.Utility.Basic

/-!
# Changes between files

The changes between the lines of two files are shown in one of several forms: one after the
other, with the lines around them, as commands for an editor, or with both files side by side.

## Main Definitions

* `ChangeForm` -- the forms
* `Drawing` -- how lines are shown
* `LineChange.text` -- changes in a form
-/

namespace LintLedger.Utility

/-- Lines that are taken out of one file, and lines that are put in. -/
abbrev Hunk := Text.Difference.Hunk

/-- A change, and whether it does not count. -/
structure LineChange where
  hunk : Hunk
  isIgnored : Bool

/-- How changes are shown. -/
inductive ChangeForm where
  | plain
  /-- In one list, with so many lines around them. -/
  | unified (context : Nat)
  /-- In two lists, with so many lines around them. -/
  | twofold (context : Nat)
  /-- As commands for an editor, the last change first. -/
  | commands
  /-- As commands, the first change first. -/
  | forwardCommands
  /-- As commands with counts of lines. -/
  | counts
  | sideBySide
deriving DecidableEq, Repr

/-- How many lines around changes are shown with them. -/
def ChangeForm.context : ChangeForm → Nat
  | .unified n => n
  | .twofold n => n
  | _ => 0

/-- How lines are shown. -/
structure Drawing where
  expandsTabs : Bool := false
  /-- Whether a tab stands between a mark and its line. -/
  startsWithTab : Bool := false
  /-- How wide both files are side by side. -/
  width : Nat := 130
  /-- Whether lines that are in both files are not shown side by side. -/
  hidesCommon : Bool := false
  /-- Whether lines that are in both files are shown only once side by side. -/
  leftOnly : Bool := false
  /-- Whether a line begins a part of a file that is named with changes in it. -/
  begins? : Option (List Char → Bool) := none

/-- Two files line by line. -/
structure TwoFiles where
  first : Array TextLine
  second : Array TextLine

namespace Drawing

/-- The distance of tab stops. -/
def tabWidth : Nat := 8

/-- A line from a column on, with blanks for tabs. -/
def blanksForTabs : Nat → List Char → List Char
  | _, [] => []
  | column, c :: rest =>
    if c == '\t' then
      let n := tabWidth - column % tabWidth
      List.replicate n ' ' ++ blanksForTabs (column + n) rest
    else c :: blanksForTabs (column + 1) rest

/-- A line as it is shown. -/
def content (x : Drawing) (l : TextLine) : String :=
  String.ofList (if x.expandsTabs then blanksForTabs 0 l.chars else l.chars)

/-- Lines with a mark in front of each. -/
def marked (x : Drawing) (mark : String) (lines : List TextLine) : String :=
  String.join (lines.map fun l =>
    mark ++ x.content l ++ if l.isEnded then "\n" else "\n\\ No newline at end of file\n")

/-- Lines as they are. -/
def bare (x : Drawing) (lines : List TextLine) : String :=
  String.join (lines.map fun l => x.content l ++ if l.isEnded then "\n" else "")

/-- A mark that stands apart from its line. -/
def apart (x : Drawing) (mark : String) : String := mark ++ if x.startsWithTab then "\t" else " "

/-- A mark that stands at its line. -/
def close (x : Drawing) (mark : String) : String := mark ++ if x.startsWithTab then "\t" else ""

/-- What stands before a line that is not changed, in the place of a mark. -/
def blank (x : Drawing) : String := if x.startsWithTab then "\t" else " "

/-- What names the part of a file in which a line is. -/
def partName (x : Drawing) (lines : Array TextLine) (before : Nat) : String :=
  match x.begins? with
  | none => ""
  | some begins =>
    match (lines.extract 0 before).toList.reverse.find? fun l => begins l.chars with
    | none => ""
    | some l =>
      let cs := (l.chars.dropWhile fun c => c == ' ' || c == '\t').take 40
      " " ++ String.ofList (Text.dropTail (fun c => c == ' ' || c == '\t') cs)

end Drawing

namespace LineChange

/-- Some lines of a file. -/
def linesAt (lines : Array TextLine) (first count : Nat) : List TextLine :=
  (lines.extract first (first + count)).toList

/-- The lines that are taken out. -/
def removed (f : TwoFiles) (h : Hunk) : List TextLine := linesAt f.first h.first h.removed

/-- The lines that are put in. -/
def added (f : TwoFiles) (h : Hunk) : List TextLine := linesAt f.second h.second h.added

/-- The numbers of some lines; without any, that of the line before. -/
def numbers (separator : String) (first count : Nat) : String :=
  if count = 0 then toString first
  else if count = 1 then toString (first + 1)
  else toString (first + 1) ++ separator ++ toString (first + count)

/-- The letter of a change. -/
def letter (h : Hunk) : String := if h.removed = 0 then "a" else if h.added = 0 then "d" else "c"

/-- A change by itself. -/
def plain (x : Drawing) (f : TwoFiles) (h : Hunk) : String :=
  numbers "," h.first h.removed ++ letter h ++ numbers "," h.second h.added ++ "\n" ++
    x.marked (x.apart "<") (removed f h) ++
    (if h.removed != 0 && h.added != 0 then "---\n" else "") ++
    x.marked (x.apart ">") (added f h)

/-- Lines with an end each. -/
def ended (lines : List TextLine) : List TextLine := lines.map fun l => { l with isEnded := true }

/-- Lines that an editor is given; a line that would end them is written in another way. -/
def typed (x : Drawing) : Bool → List TextLine → String
  | isOpen, [] => if isOpen then ".\n" else ""
  | isOpen, l :: rest =>
    let again := if isOpen then "" else "a\n"
    if l.chars == ['.'] then again ++ "..\n.\ns/.//\n" ++ typed x false rest
    else again ++ x.bare [l] ++ typed x true rest

/-- A change as a command. -/
def command (x : Drawing) (f : TwoFiles) (h : Hunk) : String :=
  numbers "," h.first h.removed ++ letter h ++ "\n" ++
    if h.added = 0 then "" else typed x true (ended (added f h))

/-- A change as a command whose letter comes first. -/
def forwardCommand (x : Drawing) (f : TwoFiles) (h : Hunk) : String :=
  letter h ++ numbers " " h.first h.removed ++ "\n" ++
    if h.added = 0 then "" else x.bare (ended (added f h)) ++ ".\n"

/-- A change as commands with counts. -/
def counted (x : Drawing) (f : TwoFiles) (h : Hunk) : String :=
  (if h.removed = 0 then ""
    else "d" ++ toString (h.first + 1) ++ " " ++ toString h.removed ++ "\n") ++
  (if h.added = 0 then ""
    else "a" ++ toString (h.first + h.removed) ++ " " ++ toString h.added ++ "\n" ++
      x.bare (added f h))

/-! ## With the lines around them -/

/-- Changes that are shown together, as there are few lines between them. -/
def together (context : Nat) : List LineChange → List (List LineChange)
  | [] => []
  | c :: rest =>
    match together context rest with
    | (next :: more) :: others =>
      let most := if c.isIgnored || next.isIgnored then context else 2 * context + 1
      if next.hunk.first - (c.hunk.first + c.hunk.removed) < most then
        (c :: next :: more) :: others
      else [c] :: (next :: more) :: others
    | others => [c] :: others

/-- The lines that are shown of changes: where they begin and end in both files. -/
structure Extent where
  first : Nat
  finish : Nat
  second : Nat
  secondFinish : Nat

/-- The lines that are shown of changes, from the first to the last of them. -/
def extent (context : Nat) (f : TwoFiles) (a b : Hunk) : Extent :=
  { first := a.first - min context a.first
    finish := min f.first.size (b.first + b.removed + context)
    second := a.second - min context a.second
    secondFinish := min f.second.size (b.second + b.added + context) }

/-- Where some lines are, in the head of changes in one list. -/
def unifiedNumbers (first finish : Nat) : String :=
  let count := finish - first
  if count = 1 then toString (first + 1)
  else toString (if count = 0 then first else first + 1) ++ "," ++ toString count

/-- The lines of changes in one list, from a line on. -/
def unifiedLines (x : Drawing) (f : TwoFiles) (last : Nat) : Nat → List Hunk → String
  | i, [] => x.marked x.blank (linesAt f.first i (last - i))
  | i, h :: rest =>
    x.marked x.blank (linesAt f.first i (h.first - i)) ++
      x.marked (x.close "-") (removed f h) ++
      x.marked (x.close "+") (added f h) ++
      unifiedLines x f last (h.first + h.removed) rest

/-- Changes in one list. -/
def unified (x : Drawing) (context : Nat) (f : TwoFiles) (hs : List Hunk) : String :=
  match hs, hs.getLast? with
  | a :: _, some b =>
    let e := extent context f a b
    "@@ -" ++ unifiedNumbers e.first e.finish ++ " +" ++ unifiedNumbers e.second e.secondFinish ++
      " @@" ++ x.partName f.first e.first ++ "\n" ++ unifiedLines x f e.finish e.first hs
  | _, _ => ""

/-- Where some lines are, in the head of one of two lists. -/
def twofoldNumbers (first finish : Nat) : String :=
  if finish ≤ first + 1 then toString finish else toString (first + 1) ++ "," ++ toString finish

/-- The lines of one file, from a line on, with marks at those that are changed. -/
def twofoldLines (x : Drawing) (lines : Array TextLine) (mark : String) (last : Nat) :
    Nat → List (Nat × Nat × Bool) → String
  | i, [] => x.marked (x.apart " ") (linesAt lines i (last - i))
  | i, (start, count, isReplaced) :: rest =>
    x.marked (x.apart " ") (linesAt lines i (start - i)) ++
      x.marked (x.apart (if isReplaced then "!" else mark)) (linesAt lines start count) ++
      twofoldLines x lines mark last (start + count) rest

/-- Changes in two lists. -/
def twofold (x : Drawing) (context : Nat) (f : TwoFiles) (hs : List Hunk) : String :=
  match hs, hs.getLast? with
  | a :: _, some b =>
    let e := extent context f a b
    let outs := hs.map fun h => (h.first, h.removed, h.added != 0)
    let ins := hs.map fun h => (h.second, h.added, h.removed != 0)
    "***************" ++ x.partName f.first e.first ++
      "\n*** " ++ twofoldNumbers e.first e.finish ++ " ****\n" ++
      (if hs.any fun h => h.removed != 0 then
        twofoldLines x f.first "-" e.finish e.first outs else "") ++
      "--- " ++ twofoldNumbers e.second e.secondFinish ++ " ----\n" ++
      (if hs.any fun h => h.added != 0 then
        twofoldLines x f.second "+" e.secondFinish e.second ins else "")
  | _, _ => ""

/-! ## Side by side -/

/-- How wide one file is, and the column at which the other one begins. -/
def halves (x : Drawing) : Nat × Nat :=
  let t := if x.expandsTabs then 1 else Drawing.tabWidth
  let both := t + 3
  let middle := x.width / 2 + both / 2 + (x.width % 2) * (both % 2)
  let second := middle - middle % t
  let half := min (second - 3) (x.width - second)
  if half = 0 then (0, x.width) else (half, second)

/-- The way from one column to another. -/
def wayTo (x : Drawing) (here goal : Nat) : String :=
  let stop := goal / Drawing.tabWidth * Drawing.tabWidth
  if x.expandsTabs || stop ≤ here then "".pushn ' ' (goal - here)
  else
    "".pushn '\t' (stop / Drawing.tabWidth - here / Drawing.tabWidth) ++ "".pushn ' ' (goal - stop)

/-- A half of a line: what fits, and the column after it; `here` is where reading is, and `out`
where writing is. -/
def halfLine (x : Drawing) (width : Nat) : (here out : Nat) → List Char → List Char × Nat
  | _, out, [] => ([], out)
  | here, out, c :: rest =>
    if c == '\t' then
      let stop := here + (Drawing.tabWidth - here % Drawing.tabWidth)
      if here = out && x.expandsTabs then
        let last := min stop width
        let (cs, end') := halfLine x width stop last rest
        (List.replicate (last - out) ' ' ++ cs, end')
      else if here = out && stop < width then
        let (cs, end') := halfLine x width stop stop rest
        (c :: cs, end')
      else halfLine x width stop out rest
    else if here < width then
      let (cs, end') := halfLine x width (here + 1) (here + 1) rest
      (c :: cs, end')
    else halfLine x width (here + 1) out rest

/-- Two lines side by side with a sign between them. -/
def besides (x : Drawing) (left? : Option TextLine) (sign : Char) (right? : Option TextLine) :
    String :=
  let (half, second) := halves x
  let (left, column) := match left? with
    | some l => halfLine x half 0 0 l.chars
    | none => ([], 0)
  let leftEnded := left?.any (·.isEnded)
  let sign := match right? with
    | some r =>
      if sign == '|' && leftEnded != r.isEnded then (if leftEnded then '/' else '\\') else sign
    | none => sign
  let place := (half + second - 1) / 2
  let (middle, column) : String × Nat :=
    if sign == ' ' then ("", column)
    else (wayTo x column place ++ String.singleton sign, max column place + 1)
  let right := match right? with
    | some r =>
      if r.chars.isEmpty then ""
      else wayTo x column second ++ String.ofList (halfLine x half 0 0 r.chars).1
    | none => ""
  String.ofList left ++ middle ++ right ++
    if leftEnded || right?.any (·.isEnded) then "\n" else ""

/-- Lines that are in both files. -/
def common (x : Drawing) (as bs : List TextLine) : String :=
  if x.hidesCommon then ""
  else if x.leftOnly then String.join (as.map fun l => besides x (some l) '(' none)
  else
    String.join ((as.zip bs).map fun (a, b) => besides x (some a) ' ' (some b)) ++
      String.join ((bs.drop as.length).map fun l => besides x none ')' (some l)) ++
      String.join ((as.drop bs.length).map fun l => besides x (some l) '(' none)

/-- Both files side by side, from a line of each on. -/
def sideBySide (x : Drawing) (f : TwoFiles) : Nat → Nat → List Hunk → String
  | i, j, [] => common x (linesAt f.first i f.first.size) (linesAt f.second j f.second.size)
  | i, j, h :: rest =>
    let outs := removed f h
    let ins := added f h
    common x (linesAt f.first i (h.first - i)) (linesAt f.second j (h.second - j)) ++
      String.join ((outs.zip ins).map fun (a, b) => besides x (some a) '|' (some b)) ++
      String.join ((ins.drop outs.length).map fun l => besides x none '>' (some l)) ++
      String.join ((outs.drop ins.length).map fun l => besides x (some l) '<' none) ++
      sideBySide x f (h.first + h.removed) (h.second + h.added) rest

/-! ## All changes -/

/-- All changes in a form. -/
def text (form : ChangeForm) (x : Drawing) (f : TwoFiles) (changes : List LineChange) : String :=
  let counting := (changes.filter fun c => !c.isIgnored).map (·.hunk)
  let groups := ((together form.context changes).filter fun cs => cs.any fun c => !c.isIgnored).map
    fun cs => cs.map (·.hunk)
  match form with
  | .plain => String.join (counting.map (plain x f))
  | .unified n => String.join (groups.map (unified x n f))
  | .twofold n => String.join (groups.map (twofold x n f))
  | .commands => String.join (counting.reverse.map (command x f))
  | .forwardCommands => String.join (counting.map (forwardCommand x f))
  | .counts => String.join (counting.map (counted x f))
  | .sideBySide => sideBySide x f 0 0 counting

end LineChange

end LintLedger.Utility
