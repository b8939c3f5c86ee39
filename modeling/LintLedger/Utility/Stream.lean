import LintLedger.Utility.Basic

/-!
# Programs on streams of bytes

Files are copied, or parts of them, or counts of what is in them.  Whatever is read goes out
before more is read, so that a stream without an end does no harm.

## Main Definitions

* `cat`, `tee` -- copies
* `head`, `tail` -- the begin and the end of files
* `wc` -- counts
* `mapFiles` -- what programs on whole files have in common
-/

namespace LintLedger.Utility

open LintLedger.Machine

/-- Writes at once. -/
def putNow (text : String) : Work Unit := do
  put text
  flush
  match (← get).fault? with
  | some _ => leave 1
  | none => pure ()

/-! ## Copies -/

/-- How `cat` shows what it copies. -/
structure Showing where
  number : Bool
  /-- Whether lines without anything are not numbered. -/
  nonblank : Bool
  squeeze : Bool
  ends : Bool
  tabs : Bool
  nonprinting : Bool

/-- Whether everything is copied as it is. -/
def Showing.isPlain (x : Showing) : Bool :=
  !(x.number || x.squeeze || x.ends || x.tabs || x.nonprinting)

/-- Where a copy is: how many ends of lines came just before, less one if there was text on the
line, and the number of the last line. -/
structure Copying where
  newlines : Int := 0
  line : Nat := 0

/-- The number of a line. -/
def lineNumber (n : Nat) : List Char :=
  let digits := (toString n).toList
  List.replicate (6 - digits.length) ' ' ++ digits ++ ['\t']

/-- A byte that is no end of a line as it is shown. -/
def Showing.shown (x : Showing) (c : Char) (next? : Option Char) : List Char :=
  let n := c.toNat
  let caret (k : Nat) : List Char := ['^', Char.ofNat k]
  if x.nonprinting then
    if c == '\t' && !x.tabs then [c]
    else if n < 32 then caret (n + 64)
    else if n < 127 then [c]
    else if n = 127 then caret 63
    else
      ['M', '-'] ++
        (if n < 160 then caret (n - 64) else if n < 255 then [Char.ofNat (n - 128)] else caret 63)
  else if c == '\t' && x.tabs then ['^', 'I']
  else if c == '\r' && x.ends && next? = some '\n' then ['^', 'M']
  else [c]

/-- Shows bytes; the parts are put in front of those before them. -/
def Showing.copy (x : Showing) : Copying → List (List Char) → List Char →
    Copying × List (List Char)
  | k, done, [] => (k, done)
  | k, done, c :: rest =>
    if c == '\n' then
      let newlines := min (k.newlines + 1) 2
      if x.squeeze && 2 ≤ newlines then x.copy { k with newlines := 2 } done rest
      else
        let numbers := 0 < newlines && x.number && !x.nonblank
        let line := if numbers then k.line + 1 else k.line
        let text := (if numbers then lineNumber line else []) ++
          (if x.ends then ['$', '\n'] else ['\n'])
        x.copy ⟨newlines, line⟩ (text :: done) rest
    else
      let numbers := 0 ≤ k.newlines && x.number
      let line := if numbers then k.line + 1 else k.line
      let text := (if numbers then lineNumber line else []) ++ x.shown c rest.head?
      x.copy ⟨-1, line⟩ (text :: done) rest

/-- Copies what a descriptor gives, in at most so many turns. -/
def copyWithin (x : Showing) (path : String) (d : Nat) : Nat → Copying → Work Copying
  | 0, k => pure k
  | turns + 1, k => do
    match ← act (Act.read d Act.chunk) with
    | .error e =>
      warnFile path e
      return k
    | .ok "" => return k
    | .ok text =>
      if x.isPlain then
        putNow text
        copyWithin x path d turns k
      else
        let (k, parts) := x.copy k [] text.toList
        putNow (String.ofList parts.reverse.flatten)
        copyWithin x path d turns k

/-- Copies files. -/
def copyAll (x : Showing) (out? : Option FileInfo) : List String → Copying → Work Unit
  | [], _ => pure ()
  | path :: rest, k => do
    match ← act (openInput path) with
    | .error e =>
      warnFile path e
      copyAll x out? rest k
    | .ok d =>
      match ← act (Act.info (.describe d)) with
      | .error e =>
        warnFile path e
        copyAll x out? rest k
      | .ok i =>
        let place := (← act (Act.number (.seek d 0 .here))).toOption.getD 0
        let isSame : Bool := match out? with
          | some o => o.kind = .file && o.id = i.id && place < i.size
          | none => false
        let k ← if isSame then do
            warn (Text.quotedIfNeeded path ++ ": input file is output file")
            pure k
          else copyWithin x path d Act.manyTurns k
        act (closeInput d)
        copyAll x out? rest k

/-- Copies files to standard output. -/
def cat (words : List String) : Work Unit := do
  let t ← readOptions (grammar "benstuvAET"
    [("number-nonblank", 'b'), ("number", 'n'), ("squeeze-blank", 's'), ("show-nonprinting", 'v'),
     ("show-ends", 'E'), ("show-tabs", 'T'), ("show-all", 'A')]) words
  let any (keys : String) : Bool := keys.toList.any t.has
  let x : Showing :=
    { number := any "bn"
      nonblank := any "b"
      squeeze := any "s"
      ends := any "eEA"
      tabs := any "tTA"
      nonprinting := any "etvA" }
  match ← act (Act.info (.describe 1)) with
  | .error e => die ("standard output: " ++ e.words)
  | .ok out =>
    let paths := if t.operands.isEmpty then ["-"] else t.operands
    copyAll x (some out) paths {}
    if paths.contains "-" then
      match ← act (Act.info (.describe 0)) with
      | .error e => die ("closing standard input: " ++ e.words)
      | .ok _ => pure ()

/-- Copies standard input to descriptors, each with the name it is told of by, in at most so
many turns. -/
def spreadWithin : Nat → List (String × Nat) → Work Unit
  | 0, _ => pure ()
  | turns + 1, goals => do
    match ← act (Act.read 0 Act.chunk) with
    | .error e => warn ("read error: " ++ e.words)
    | .ok "" => pure ()
    | .ok text =>
      let mut left : List (String × Nat) := []
      for (name, d) in goals do
        match ← act (Act.write d text) with
        | .ok () => left := (name, d) :: left
        | .error e => warn (Text.quotedIfNeeded name ++ ": " ++ e.words)
      if left.isEmpty then pure () else spreadWithin turns left.reverse

/-- Copies standard input to standard output and to files. -/
def tee (words : List String) : Work Unit := do
  let t ← readOptions (grammar "aip" [("append", 'a'), ("ignore-interrupts", 'i')]) words
  let mode : OpenMode := if t.has 'a' then .addition else .output
  let mut goals : List (String × Nat) := [("'standard output'", 1)]
  for path in t.operands do
    match ← act (Act.openFile path mode) with
    | .ok d => goals := goals ++ [(path, d)]
    | .error e => warnFile path e
  spreadWithin Act.manyTurns goals

/-! ## Begin and end -/

/-- How much of a file is asked for. -/
structure Portion where
  count : Nat
  /-- Whether bytes are counted, not lines. -/
  ofBytes : Bool
  /-- Whether the count is not from the near end of the file but from the other. -/
  isFar : Bool
  /-- What ends lines. -/
  stop : Char
deriving DecidableEq, Repr

/-- What is asked for by a word with a number; `far` is the sign that takes the other end. -/
def portion (far : Char) (ofBytes : Bool) (stop : Char) (word : String) : Work Portion := do
  let cs := word.toList
  let isFar := cs.head? = some far
  let bare := if isFar || (far == '+' && cs.head? = some '-') then cs.drop 1 else cs
  match amount? "bEGKkMmPQRTYZ" (String.ofList bare) with
  | some n => return ⟨n, ofBytes, isFar, stop⟩
  | none =>
    let what := if ofBytes then "bytes" else "lines"
    let shown := if far == '+' then word else String.ofList bare
    die ("invalid number of " ++ what ++ ": " ++ Text.alwaysQuoted shown)

/-- What is asked for by options. -/
def portionOf (far : Char) (t : Taken) : Work Portion := do
  let stop := if t.has 'z' then '\x00' else '\n'
  let p ← match t.last? ['c', 'n'] with
    | some 'c' => portion far true stop ((t.word? 'c').getD "")
    | some _ => portion far false stop ((t.word? 'n').getD "")
    | none => pure ⟨10, false, false, stop⟩
  -- From the other end of the file it is as soon as any of the words says so.
  let isFar := far == '+' && t.options.any fun o => (o.word?.getD "").toList.head? = some far
  return { p with isFar := p.isFar || isFar }

/-- A number with a dash in front, as an option of its own, in longer words. -/
def longNumber (word : String) : Option (List String) :=
  match word.toList with
  | '-' :: c :: rest =>
    if !c.isDigit then none
    else
      let digits := (c :: rest).takeWhile Char.isDigit
      let letters := (c :: rest).drop digits.length
      let unit := letters.filter fun c => "bkm".toList.contains c
      let ofBytes := letters.contains 'c' || !unit.isEmpty
      let others := letters.filter fun c => "qvz".toList.contains c
      if letters.any fun c => !"bkmclqvz".toList.contains c then none
      else
        some ([(if ofBytes then "-c" else "-n") ++ String.ofList (digits ++ unit)] ++
          if others.isEmpty then [] else ["-" ++ String.ofList others])
  | _ => none

/-- The lines of a text from the begin, as many as there may be; the value is the text and how
many are still to come. -/
def takeLines (stop : Char) : Nat → List Char → List Char × Nat
  | 0, _ => ([], 0)
  | n, [] => ([], n)
  | n + 1, c :: rest =>
    let (more, left) := takeLines stop (if c == stop then n else n + 1) rest
    (c :: more, left)

/-- How many bytes are read at once when only a part of a file is of interest. -/
def partChunk : Nat := 8192

/-- Copies so many lines, in at most so many turns. -/
def copyLines (stop : Char) (d : Nat) : Nat → Nat → Work (Option FileError)
  | 0, _ => pure none
  | _, 0 => pure none
  | turns + 1, count => do
    match ← act (Act.read d partChunk) with
    | .error e => return some e
    | .ok "" => return none
    | .ok text =>
      let (part, left) := takeLines stop count text.toList
      put (String.ofList part)
      if left = 0 && part.length < text.length then
        -- What was read too much is left for others.
        let _ ← act (Act.ask (.seek d (-(Int.ofNat (text.length - part.length))) .here))
      copyLines stop d turns left

/-- Copies so many bytes, in at most so many turns. -/
def copyBytes (d : Nat) : Nat → Nat → Work (Option FileError)
  | 0, _ => pure none
  | _, 0 => pure none
  | turns + 1, count => do
    match ← act (Act.read d (min count partChunk)) with
    | .error e => return some e
    | .ok "" => return none
    | .ok text =>
      put text
      copyBytes d turns (count - text.length)

/-- Copies everything that is left. -/
def copyRest (d : Nat) : Nat → Work (Option FileError)
  | 0 => pure none
  | turns + 1 => do
    match ← act (Act.read d Act.chunk) with
    | .error e => return some e
    | .ok "" => return none
    | .ok text =>
      put text
      copyRest d turns

/-- Reads all and prints a part of it. -/
def putPart (d : Nat) (part : List Char → List Char) : Work (Option FileError) := do
  match ← act (Act.readAll d) with
  | .error e => return some e
  | .ok text =>
    put (String.ofList (part text.toList))
    return none

/-- How many lines there are in a text. -/
def lineCount (stop : Char) (cs : List Char) : Nat :=
  cs.count stop + (if cs.isEmpty || cs.getLast? = some stop then 0 else 1)

/-- A text without its first lines. -/
def dropLines (stop : Char) : Nat → List Char → List Char
  | 0, cs => cs
  | _, [] => []
  | n + 1, c :: rest => dropLines stop (if c == stop then n else n + 1) rest

/-- Copies the begin of a file. -/
def copyHead (p : Portion) (d : Nat) : Work (Option FileError) :=
  match p.ofBytes, p.isFar with
  | false, false => copyLines p.stop d Act.manyTurns p.count
  | true, false => copyBytes d Act.manyTurns p.count
  | true, true => putPart d fun cs => cs.take (cs.length - p.count)
  | false, true => putPart d fun cs => (takeLines p.stop (lineCount p.stop cs - p.count) cs).1

/-- Copies the end of a file. -/
def copyTail (p : Portion) (d : Nat) : Work (Option FileError) :=
  match p.ofBytes, p.isFar with
  | true, true => putPart d fun cs => cs.drop (p.count - 1)
  | false, true => putPart d (dropLines p.stop (p.count - 1))
  | true, false => putPart d fun cs => cs.drop (cs.length - p.count)
  | false, false => putPart d fun cs => dropLines p.stop (lineCount p.stop cs - p.count) cs

/-- Prints parts of files, each under its name if that is asked for. -/
def putParts (copy : Nat → Work (Option FileError)) (hasNames : Bool) :
    Bool → List String → Work Unit
  | _, [] => pure ()
  | isFirst, path :: rest => do
    match ← act (openInput path) with
    | .error e =>
      warn ("cannot open " ++ Text.alwaysQuoted path ++ " for reading: " ++ e.words)
      putParts copy hasNames isFirst rest
    | .ok d =>
      let name := if path = "-" then "standard input" else path
      if hasNames then put ((if isFirst then "" else "\n") ++ "==> " ++ name ++ " <==\n")
      match ← copy d with
      | some e => warn ("error reading " ++ Text.alwaysQuoted name ++ ": " ++ e.words)
      | none => pure ()
      act (closeInput d)
      putParts copy hasNames false rest

/-- Options that both ends have. -/
def partGrammar (more : String) : Grammar :=
  grammar ("c:n:qvz" ++ more)
    [("bytes", 'c'), ("lines", 'n'), ("quiet", 'q'), ("silent", 'q'), ("verbose", 'v'),
     ("zero-terminated", 'z')]

/-- Prints the begin of files. -/
def head (words : List String) : Work Unit := do
  let words := match words with
    | w :: rest => (longNumber w).getD [w] ++ rest
    | [] => []
  let t ← readOptions { partGrammar "" with digitFault? := some "invalid trailing option" } words
  let p ← portionOf '-' t
  let hasNames := match t.last? ['q', 'v'] with
    | some 'q' => false
    | some _ => true
    | none => 1 < t.operands.length
  putParts (copyHead p) hasNames true (if t.operands.isEmpty then ["-"] else t.operands)

/-- A number with a plus sign in front, as an option of its own, in longer words. -/
def longFarNumber (word : String) : Option (List String) :=
  match word.toList with
  | '+' :: rest =>
    let digits := rest.takeWhile Char.isDigit
    let number := if digits.isEmpty then "10" else String.ofList digits
    let blocks := toString (512 * Text.natOfDigits digits)
    match rest.drop digits.length with
    | [] => some ["-n+" ++ number]
    | ['l'] => some ["-n+" ++ number]
    | ['c'] => some ["-c+" ++ number]
    | ['b'] => some ["-c+" ++ blocks]
    | _ => none
  | _ => longNumber word

/-- Prints the end of files. -/
def tail (words : List String) : Work Unit := do
  let words := match words with
    | [w] => (longFarNumber w).getD [w]
    | [w, f] => if f.toList.head? = some '-' && f != "-" then [w, f]
      else (longFarNumber w).getD [w] ++ [f]
    | ws => ws
  match words with
  | w :: _ :: _ :: _ =>
    if (longNumber w).isSome then
      die ("option used in invalid context -- " ++ String.ofList (w.toList.take 2 |>.drop 1))
  | _ => pure ()
  let g := partGrammar "fFs:"
  let g := { g with names := ("follow", 'f', .perhaps) :: ("pid", 'p', .word) ::
    ("retry", 'r', .nothing) :: ("sleep-interval", 's', .word) :: g.names }
  let t ← readOptions g words
  let p ← portionOf '+' t
  if p.count = 0 && !p.isFar && !t.has 'f' && !t.has 'F' then leave 0
  let hasNames := match t.last? ['q', 'v'] with
    | some 'q' => false
    | some _ => true
    | none => 1 < t.operands.length
  putParts (copyTail p) hasNames true (if t.operands.isEmpty then ["-"] else t.operands)
  if t.has 'f' || t.has 'F' then
    flush
    let _ ← act (Act.ask (.sleep (Nat.pow 10 30)))

/-! ## Counts -/

/-- What there is in a file. -/
structure Counts where
  lines : Nat := 0
  words : Nat := 0
  bytes : Nat := 0
  /-- The width of the widest line. -/
  width : Nat := 0

/-- The counts of two files together. -/
def Counts.add (a b : Counts) : Counts :=
  ⟨a.lines + b.lines, a.words + b.words, a.bytes + b.bytes, max a.width b.width⟩

/-- Where counting is: on which column, and whether within a word. -/
structure Counting where
  counts : Counts := {}
  column : Nat := 0
  inWord : Bool := false

/-- Counts one byte. -/
def Counting.step (k : Counting) (c : Char) : Counting :=
  let n := { k.counts with bytes := k.counts.bytes + 1 }
  if c == '\n' || c == '\r' || c == '\x0c' then
    { counts := { n with
        lines := if c == '\n' then n.lines + 1 else n.lines
        width := max n.width k.column }
      column := 0
      inWord := false }
  else if c == '\t' then { counts := n, column := k.column + 8 - k.column % 8, inWord := false }
  else if c == ' ' then { counts := n, column := k.column + 1, inWord := false }
  else if c == '\x0b' then { k with counts := n, inWord := false }
  else
    { counts := if k.inWord then n else { n with words := n.words + 1 }
      column := if Text.isPrintable c then k.column + 1 else k.column
      inWord := true }

/-- The counts of a text. -/
def Counts.of (text : String) : Counts :=
  let k := text.toList.foldl Counting.step {}
  { k.counts with width := max k.counts.width k.column }

/-- A number with blanks in front of it. -/
def aligned (width n : Nat) : String :=
  let digits := toString n
  "".pushn ' ' (width - digits.length) ++ digits

/-- Prints counts. -/
def putCounts (t : Taken) (width : Nat) (name? : Option String) (n : Counts) : Work Unit := do
  let isPlain := t.options.all fun o => !"lwmcL".toList.contains o.key
  let chosen : List (Bool × Nat) :=
    [(isPlain || t.has 'l', n.lines), (isPlain || t.has 'w', n.words), (t.has 'm', n.bytes),
     (isPlain || t.has 'c', n.bytes), (t.has 'L', n.width)]
  let numbers := (chosen.filter (·.1)).map fun x => aligned width x.2
  putLine (" ".intercalate (numbers ++ name?.toList))

/-- Counts what is in files, and gives the sum. -/
def countAll (t : Taken) (width : Nat) : List (Option String) → Counts → Work Counts
  | [], sum => pure sum
  | path? :: rest, sum => do
    match ← act (openInput (path?.getD "-")) with
    | .error e =>
      warnFile (path?.getD "-") e
      countAll t width rest sum
    | .ok d =>
      let text ← act (Act.readAll d)
      act (closeInput d)
      match text with
      | .error e => warnFile (path?.getD "standard input") e
      | .ok _ => pure ()
      let n := Counts.of (text.toOption.getD "")
      putCounts t width path? n
      countAll t width rest (sum.add n)

/-- How wide the columns of counts are: wide enough for the size of all files. -/
def countWidth (paths : List String) : Work Nat := do
  let mut total := 0
  let mut least := 1
  for path in paths do
    let info ← if path = "-" then act (Act.info (.describe 0)) else act (Act.look path)
    match info with
    | .error _ => pure ()
    | .ok i => if i.kind = .file then total := total + i.size else least := 7
  return max least (toString total).length

/-- Counts lines, words and bytes. -/
def wc (words : List String) : Work Unit := do
  let g := grammar "clmwL" [("bytes", 'c'), ("chars", 'm'), ("lines", 'l'), ("words", 'w'),
    ("max-line-length", 'L')]
  let t ← readOptions { g with names := ("total", 't', .word) :: g.names } words
  let paths : List (Option String) :=
    if t.operands.isEmpty then [none] else t.operands.map some
  let isSingle := ((t.options.map (·.key)).filter (· != 't')).eraseDups.length = 1
  let width ← if paths.length = 1 && isSingle then pure 1
    else countWidth (paths.map fun p => p.getD "-")
  let sum ← countAll t width paths {}
  let showsSum := match t.word? 't' with
    | some "always" => true
    | some "never" => false
    | _ => 1 < paths.length
  if showsSum then putCounts t width (some "total") sum

/-! ## Whole files -/

/-- Prints what is made of the text of each file. -/
def mapFiles (f : String → Work Unit) (operands : List String) : Work Unit :=
  (if operands.isEmpty then ["-"] else operands).forM fun path => do
    match ← act (readInput path) with
    | .ok text => f text
    | .error e => warnFile path e

end LintLedger.Utility
