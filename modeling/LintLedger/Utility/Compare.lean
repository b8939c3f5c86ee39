import LintLedger.Shell.Pattern
import LintLedger.Utility.Calendar
import LintLedger.Utility.Changes
import LintLedger.Utility.Grep

/-!
# Comparing files

## Main Definitions

* `cmp` -- where two files differ
* `diff` -- how two files, or all files of two directories, differ
-/

namespace LintLedger.Utility

open LintLedger.Machine

/-! ## Byte by byte -/

/-- How files are compared byte by byte. -/
structure ByteComparison where
  names : String × String
  isSilent : Bool
  isVerbose : Bool
  showsBytes : Bool
  limit? : Option Nat

/-- A byte as it is shown. -/
def shownByte (c : Char) : String :=
  let n := c.toNat
  let (mark, n) := if 128 ≤ n then ("M-", n - 128) else ("", n)
  mark ++ (if n < 32 then "^" ++ String.singleton (Char.ofNat (n + 64))
    else if n = 127 then "^?" else String.singleton (Char.ofNat n))

/-- An octal number that takes three places. -/
def octalIn3 (c : Char) : String :=
  let digits := String.ofList (Nat.toDigits 8 c.toNat)
  "".pushn ' ' (3 - digits.length) ++ digits

/-- Compares what is left of two files after so many bytes and ends of lines; `width` is how much
room the number of a byte takes. -/
def ByteComparison.compare (x : ByteComparison) (width : Nat) :
    (bytes lines : Nat) → (isLineStart : Bool) → List Char → List Char → Work Unit
  | _, _, _, [], [] => pure ()
  | bytes, lines, isLineStart, [], _ :: _ => finish x x.names.1 bytes lines isLineStart
  | bytes, lines, isLineStart, _ :: _, [] => finish x x.names.2 bytes lines isLineStart
  | bytes, lines, _, a :: as, b :: bs => do
    if a == b then
      ByteComparison.compare x width (bytes + 1) (if a == '\n' then lines + 1 else lines)
        (a == '\n') as bs
    else if x.isSilent then leave 1
    else if x.isVerbose then
      modify fun d => { d with status := 1 }
      let first := octalIn3 a ++ (if x.showsBytes then " " ++ leftAlignedTo 4 (shownByte a) else "")
      let second := octalIn3 b ++ (if x.showsBytes then " " ++ shownByte b else "")
      putLine (aligned width (bytes + 1) ++ " " ++ first ++ " " ++ second)
      ByteComparison.compare x width (bytes + 1) lines false as bs
    else
      let shown := if x.showsBytes then
          " is " ++ octalIn3 a ++ " " ++ shownByte a ++ " " ++ octalIn3 b ++ " " ++ shownByte b
        else ""
      putLine (x.names.1 ++ " " ++ x.names.2 ++ " differ: " ++
        (if x.showsBytes then "byte " else "char ") ++ toString (bytes + 1) ++ ", line " ++
        toString (lines + 1) ++ shown)
      leave 1
where
  /-- A text with blanks after it. -/
  leftAlignedTo (width : Nat) (s : String) : String := s ++ "".pushn ' ' (width - s.length)
  /-- Says that one file ends before the other. -/
  finish (x : ByteComparison) (name : String) (bytes lines : Nat) (isLineStart : Bool) :
      Work Unit := do
    if !x.isSilent then
      let place :=
        if bytes = 0 then " which is empty"
        else
          " after byte " ++ toString bytes ++
            (if x.isVerbose then ""
              else if isLineStart then ", line " ++ toString lines
              else ", in line " ++ toString (lines + 1))
      flush
      complain ("EOF on " ++ name ++ place)
    leave 1

/-- How many bytes are passed over at the begin of each file. -/
def skipsOf (word : String) : Option (Nat × Nat) :=
  match Text.splitOnChar (· == ':') word with
  | [a] => (amount? "kKMGTPEZY" a).map fun n => (n, n)
  | [a, b] => do return (← amount? "kKMGTPEZY" a, ← amount? "kKMGTPEZY" b)
  | _ => none

/-- The last word that a program was given; it stands in what is said of a missing operand. -/
def lastWord (words : List String) : Work String := do
  return (words.getLast?).getD (← get).name

/-- Compares two files byte by byte. -/
def cmp (words : List String) : Work Unit := do
  modify fun d => { d with isHintNamed := true }
  let g := grammar "bi:ln:s"
    [("print-bytes", 'b'), ("ignore-initial", 'i'), ("verbose", 'l'), ("bytes", 'n'),
     ("quiet", 's'), ("silent", 's')]
  let t ← readOptions g words
  let bad {α : Type} (what word : String) : Work α :=
    misuse ("invalid " ++ what ++ " value " ++ Text.alwaysQuoted word)
  let both ← match t.word? 'i' with
    | none => pure (0, 0)
    | some w =>
      match skipsOf w with
      | some n => pure n
      | none => bad "--ignore-initial" w
  let limit? ← match t.word? 'n' with
    | none => pure none
    | some w =>
      match amount? "kKMGTPEZY" w with
      | some n => pure (some n)
      | none => bad "--bytes" w
  if t.has 'l' && t.has 's' then misuse "options -l and -s are incompatible"
  match t.operands with
  | [] => misuse ("missing operand after " ++ Text.alwaysQuoted (← lastWord words))
  | first :: rest =>
    let second := rest.headD "-"
    let skipWords := rest.tail
    let amountOf (w : String) : Work Nat := do
      match amount? "kKMGTPEZY" w with
      | some n => return n
      | none => bad "--ignore-initial" w
    let (skipA, skipB) ← match skipWords with
      | [] => pure both
      | [a] => do pure (← amountOf a, both.2)
      | a :: b :: others => do
        let both := (← amountOf a, ← amountOf b)
        match others with
        | extra :: _ => extraOperand extra
        | [] => pure both
    let x : ByteComparison :=
      { names := (first, second)
        isSilent := t.has 's'
        isVerbose := t.has 'l'
        showsBytes := t.has 'b'
        limit? := limit? }
    let failed {α : Type} (path : String) (e : FileError) : Work α := do
      if !(x.isSilent && e = .missing) then complain (path ++ ": " ++ e.words)
      leave 2
    let openOne (path : String) : Work (Nat × Option FileInfo) := do
      match ← act (openInput path) with
      | .ok d => return (d, (← act (Act.info (.describe d))).toOption)
      | .error e => failed path e
    let (da, ia) ← openOne first
    let (db, ib) ← openOne second
    if (ia.map (·.id)) = (ib.map (·.id)) && skipA = skipB then leave 0
    let read (path : String) (d : Nat) : Work String := do
      match ← act (Act.readAll d) with
      | .ok text => return text
      | .error e => failed path e
    let a ← read first da
    let b ← read second db
    let cut (skip : Nat) (s : String) : List Char :=
      let cs := s.toList.drop skip
      match limit? with
      | some n => cs.take n
      | none => cs
    let shortest := min (a.length - skipA) (b.length - skipB)
    let shortest := min shortest (limit?.getD shortest)
    x.compare (toString shortest).length 0 0 true (cut skipA a) (cut skipB b)

/-! ## Line by line -/

/-- How files are compared line by line. -/
structure LineComparison where
  taken : Taken
  /-- The options as they were given. -/
  shownOptions : List String
  form : ChangeForm
  drawing : Drawing
  /-- Changes of lines that one of these fits do not count. -/
  ignored : List Regex
  labels : List String

namespace LineComparison

/-- Whether an option was given. -/
def has (x : LineComparison) (c : Char) : Bool := x.taken.has c

/-- A row of blanks as one blank, and none at the end. -/
def squeezedBlanks : List Char → List Char
  | [] => []
  | c :: rest =>
    if isBlank c then
      let rest' := squeezedBlanks rest
      if rest'.isEmpty then [] else if rest'.head? = some ' ' then rest' else ' ' :: rest'
    else c :: squeezedBlanks rest
where
  /-- Whether a character is a blank. -/
  isBlank (c : Char) : Bool := c == ' ' || ('\t' ≤ c && c ≤ '\r')

/-- What counts of a line. -/
def key (x : LineComparison) (l : TextLine) : TextLine :=
  let isBlank (c : Char) : Bool := squeezedBlanks.isBlank c
  let cs := if x.has '\x02' && l.isEnded && l.chars.getLast? = some '\r' then l.chars.dropLast
    else l.chars
  let cs := if x.has 'i' then cs.map Char.toLower else cs
  if x.has 'w' then ⟨cs.filter fun c => !isBlank c, true⟩
  else if x.has 'b' then ⟨squeezedBlanks cs, true⟩
  else if x.has 'Z' then ⟨Text.dropTail isBlank cs, true⟩
  else ⟨cs, l.isEnded⟩

/-- The time of a file, as it is shown. -/
def timeText (form : ChangeForm) (time : Int) : String :=
  (Moment.ofFileTime time).filled (match form with
    | .twofold _ => "%a %b %e %T %Y"
    | _ => "%Y-%m-%d %H:%M:%S.%N %z")

/-- A file that is compared. -/
structure Side where
  path : String
  text : String
  time : Int

/-- What stands in front of the changes between two files. -/
def title (x : LineComparison) (a b : Side) : String :=
  let named (label? : Option String) (s : Side) : String :=
    match label? with
    | some l => l
    | none => s.path ++ "\t" ++ timeText x.form s.time
  let both (m n : String) : String :=
    m ++ " " ++ named x.labels.head? a ++ "\n" ++ n ++ " " ++ named (x.labels[1]?) b ++ "\n"
  match x.form with
  | .unified _ => both "---" "+++"
  | .twofold _ => both "***" "---"
  | _ => ""

/-- Whether a change does not count. -/
def isIgnored (x : LineComparison) (f : TwoFiles) (h : Hunk) : Bool :=
  (LineChange.removed f h ++ LineChange.added f h).all fun l =>
    (x.has 'B' && l.chars.isEmpty) || x.ignored.any fun r => r.occursIn { chars := l.chars.toArray }

/-- Tells of ends of files that commands cannot express. -/
def tellUnended (x : LineComparison) (a b : Side) (f : TwoFiles) : Work Unit := do
  if x.form = .commands || x.form = .forwardCommands then
    [(a, f.first, x.labels.head?), (b, f.second, x.labels[1]?)].forM fun (s, lines, label?) => do
      if lines.back?.any fun l => !l.isEnded then
        warn ((label?.getD s.path) ++ ": No newline at end of file\n")

/-- Tells how two files differ; `header` stands in front of their changes.  The value is whether
they do. -/
def compareFiles (x : LineComparison) (header : String) (a b : Side) : Work Bool := do
  let differ := "iles " ++ a.path ++ " and " ++ b.path ++ " differ"
  let same : Work Bool := do
    if x.has 's' then putLine ("Files " ++ a.path ++ " and " ++ b.path ++ " are identical")
    return false
  let isBinary (s : Side) : Bool := s.text.toList.contains '\x00'
  let hasKeys := x.has 'i' || x.has 'w' || x.has 'b' || x.has 'Z' || x.has 'B' || x.has '\x02' ||
    !x.ignored.isEmpty
  if a.text = b.text && (x.has 'q' || x.form != .sideBySide) then same
  else if a.text != b.text && !x.has 'a' && (isBinary a || isBinary b) then
    putLine ((if x.has 'q' then "F" else "Binary f") ++ differ)
    return true
  else if x.has 'q' && !hasKeys then
    putLine ("F" ++ differ)
    return true
  else
    let f : TwoFiles := ⟨(linesOf '\n' a.text).toArray, (linesOf '\n' b.text).toArray⟩
    let all := Text.Difference.hunks
      (Text.Difference.marksWithin x.form.context x.key f.first f.second)
    let changes := all.map fun h => LineChange.mk h (x.isIgnored f h)
    let differs := changes.any fun c => !c.isIgnored
    if x.has 'q' then
      if differs then
        putLine ("F" ++ differ)
        return true
      else same
    else
      if differs || x.form = .sideBySide then
        put (header ++ x.title a b ++ LineChange.text x.form x.drawing f changes)
      x.tellUnended a b f
      if differs then return true else same

/-- Says what is wrong with a file. -/
def trouble (path : String) (e : FileError) : Work Unit := do
  flush
  complain (path ++ ": " ++ e.words)
  fails

/-- A file that is compared, if it can be read; one that is missing is empty if missing files
are. -/
def side? (x : LineComparison) (path : String) : Work (Option Side) := do
  match ← act (readInput path) with
  | .ok text =>
    let time ← if path = "-" then do pure (← act currentMoment).fileTime
      else do pure (((← act (Act.look path)).toOption.map (·.modified)).getD 0)
    return some ⟨path, text, time⟩
  | .error e =>
    if e = .missing && x.has 'N' then return some ⟨path, "", Moment.fileTime ⟨0, 0⟩⟩
    else
      trouble path e
      return none

/-- What kind of file there is at a path, if any. -/
def kind? (path : String) : Work (Option Disk.Kind) := do
  if path = "-" then return some .file
  else return (← act (Act.look path)).toOption.map (·.kind)

/-- Whether two paths mean the same file. -/
def isSame (a b : String) : Work Bool := do
  match ← act (Act.look a), ← act (Act.look b) with
  | .ok i, .ok j => return i.id = j.id
  | _, _ => return false

/-- Whether a name in a directory is looked at. -/
def takes (x : LineComparison) (name : String) : Bool :=
  !(x.taken.options.any fun o =>
    o.key == 'x' && o.word?.any fun w => Shell.Pattern.fits w.toList name.toList)

/-- Tells how what is at two paths differs; each pair of paths comes with whether it was found in
directories.  The value is whether anything differs. -/
def compareAll (x : LineComparison) : Nat → List (String × String × Bool) → Bool → Work Bool
  | 0, _, found => pure found
  | _, [], found => pure found
  | fuel + 1, (a, b, isInner) :: rest, found => do
    let onlyIn (path : String) : Work Bool := do
      putLine ("Only in " ++ holder path ++ ": " ++ lastName path)
      x.compareAll fuel rest true
    let fileBoth : Work Bool := do
      match ← x.side? a with
      | none =>
        let _ ← if x.has 'N' then pure none else x.side? b
        x.compareAll fuel rest found
      | some sideA =>
        match ← x.side? b with
        | none => x.compareAll fuel rest found
        | some sideB =>
          let header := if isInner then
              String.join ("diff" :: x.shownOptions.map (" " ++ ·)) ++ " " ++
                Text.quotedUnlessPlain (x.labels.headD a) ++ " " ++
                Text.quotedUnlessPlain ((x.labels[1]?).getD b) ++ "\n"
            else ""
          let differs ← x.compareFiles header sideA sideB
          x.compareAll fuel rest (found || differs)
    match ← kind? a, ← kind? b with
    | some .dir, some .dir =>
      if ← isSame a b then x.compareAll fuel rest found
      else if isInner && !x.has 'r' then
        putLine ("Common subdirectories: " ++ a ++ " and " ++ b)
        x.compareAll fuel rest found
      else
        let namesIn (dir : String) : Work (List String) := do
          match ← act (Act.names dir) with
          | .ok names => return names
          | .error e =>
            trouble dir e
            return []
        let namesA ← namesIn a
        let namesB ← namesIn b
        let all := (((namesA ++ namesB).filter x.takes).eraseDups).mergeSort fun s t => s ≤ t
        let pairs := all.map fun n => (pathIn a n, pathIn b n, true)
        x.compareAll fuel (pairs ++ rest) found
    | some .dir, some k =>
      if isInner then
        if k != .file then x.compareAll fuel rest found
        else
          putLine ("File " ++ a ++ " is a directory while file " ++ b ++ " is a regular file")
          x.compareAll fuel rest true
      else x.compareAll fuel ((pathIn a (lastName b), b, false) :: rest) found
    | some _, some .dir =>
      if isInner then
        putLine ("File " ++ a ++ " is a regular file while file " ++ b ++ " is a directory")
        x.compareAll fuel rest true
      else x.compareAll fuel ((a, pathIn b (lastName a), false) :: rest) found
    | some .dir, none =>
      if isInner then onlyIn a
      else
        trouble b .missing
        x.compareAll fuel rest found
    | none, some .dir =>
      if isInner then onlyIn b
      else
        trouble a .missing
        x.compareAll fuel rest found
    | some kindA, none =>
      if isInner && !(x.has 'N' && kindA = .file) then onlyIn a else fileBoth
    | none, some kindB =>
      if isInner && !(x.has 'N' && kindB = .file) then onlyIn b else fileBoth
    | _, _ => fileBoth

end LineComparison

/-- The form of changes that options ask for. -/
def changeForm (t : Taken) : Work ChangeForm := do
  let mut form? : Option ChangeForm := none
  let mut context := 0
  let mut isExplicit := false
  let mut digits? : Option Nat := none
  let mut before := ' '
  for o in t.options do
    let chosen? ← match o.key with
      | 'u' => pure (some (.unified 0))
      | 'c' => pure (some (.twofold 0))
      | 'e' => pure (some .commands)
      | 'f' => pure (some .forwardCommands)
      | 'n' => pure (some .counts)
      | 'y' => pure (some .sideBySide)
      | '\x01' => pure (some ChangeForm.plain)
      | 'U' | 'C' => do
        match o.word? with
        | none => context := max context 3
        | some w =>
          match decimal? w with
          | some n => context := max context n
          | none => misuse ("invalid context length " ++ Text.alwaysQuoted w)
        isExplicit := true
        pure (some (if o.key == 'U' then .unified 0 else .twofold 0))
      | _ => pure none
    if o.key == 'u' || o.key == 'c' then context := max context 3
    if o.key.isDigit then
      digits? := some ((if before.isDigit then digits?.getD 0 else 0) * 10 + (o.key.toNat - 48))
    before := o.key
    match chosen?, form? with
    | some new, some old => if new != old then misuse "conflicting output style options"
    | some new, none => form? := some new
    | none, _ => pure ()
  if form?.isNone && t.has 'p' then
    form? := some (.twofold 0)
    context := 3
  let n := match digits? with
    | some n => if context < n || !isExplicit then n else context
    | none => context
  return match form? with
    | some (.unified _) => .unified n
    | some (.twofold _) => .twofold n
    | some form => form
    | none => .plain

/-- Whether a line begins a part of a program. -/
def beginsPart (cs : List Char) : Bool :=
  match cs with
  | c :: _ => c.isAlpha || c == '_' || c == '$'
  | [] => false

/-- Tells how two files, or all files of two directories, differ. -/
def diff (words : List String) : Work Unit := do
  modify fun d => { d with isHintNamed := true }
  let g := grammar "0123456789abBcC:deEfF:hHiI:lL:nNpPqrsS:tTuU:vwW:x:X:yZ"
    [("text", 'a'), ("ignore-space-change", 'b'), ("ignore-blank-lines", 'B'),
     ("ignore-case", 'i'), ("new-file", 'N'), ("brief", 'q'), ("recursive", 'r'),
     ("report-identical-files", 's'), ("minimal", 'd'), ("ignore-all-space", 'w'),
     ("ignore-trailing-space", 'Z'), ("label", 'L'), ("exclude", 'x'), ("ed", 'e'), ("rcs", 'n'),
     ("side-by-side", 'y'), ("expand-tabs", 't'), ("initial-tab", 'T'), ("show-c-function", 'p'),
     ("show-function-line", 'F'), ("ignore-matching-lines", 'I'), ("width", 'W'),
     ("forward-ed", 'f'), ("speed-large-files", 'H'), ("starting-file", 'S')]
  let g := { g with names := ("unified", 'U', .perhaps) :: ("context", 'C', .perhaps) ::
    ("normal", '\x01', .nothing) :: ("color", '\x03', .perhaps) ::
    ("strip-trailing-cr", '\x02', .nothing) :: ("suppress-common-lines", '\x04', .nothing) ::
    ("left-column", '\x05', .nothing) :: g.names }
  let t ← readOptions g words
  let form ← changeForm t
  let width ← match t.word? 'W' with
    | none => pure 130
    | some w =>
      match decimal? w with
      | some (n + 1) => pure (n + 1)
      | _ => misuse ("invalid width " ++ Text.alwaysQuoted w)
  let patterns (key : Char) : Work (List Regex) :=
    ((t.options.filter fun o => o.key == key).filterMap (·.word?)).mapM fun w => do
      match Regex.read basicDialect w.toList with
      | .ok o => return o.regex
      | .error e => die (w ++ ": " ++ e.words)
  let ignored ← patterns 'I'
  let named ← patterns 'F'
  let begins (cs : List Char) : Bool :=
    (t.has 'p' && beginsPart cs) || named.any fun r => r.occursIn { chars := cs.toArray }
  let (first, second) ← match t.operands with
    | [] => misuse ("missing operand after " ++ Text.alwaysQuoted (← lastWord words))
    | [a] => misuse ("missing operand after " ++ Text.alwaysQuoted a)
    | [a, b] => pure (a, b)
    | _ :: _ :: c :: _ => extraOperand c
  let shownOptions := optionWords g (words.length + 1) words
  let x : LineComparison :=
    { taken := t
      shownOptions := shownOptions.map Text.quotedUnlessPlain
      form := form
      drawing :=
        { expandsTabs := t.has 't'
          startsWithTab := t.has 'T'
          width := width
          hidesCommon := t.has '\x04'
          leftOnly := t.has '\x05'
          begins? := if t.has 'p' || t.has 'F' then some begins else none }
      ignored := ignored
      labels := (t.options.filter fun o => o.key == 'L').filterMap (·.word?) }
  let isInput := [first, second].any (· == "-")
  if isInput && [← LineComparison.kind? first, ← LineComparison.kind? second].contains (some .dir) then
    die "cannot compare '-' to a directory"
  let found ← x.compareAll 1000000 [(first, second, false)] false
  leave (max (← get).status (if found then 1 else 0))

end LintLedger.Utility
