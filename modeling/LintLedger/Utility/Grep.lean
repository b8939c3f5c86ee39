import LintLedger.Regex.Reader
import LintLedger.Shell.Pattern
import LintLedger.Utility.Paths
import LintLedger.Utility.Stream

/-!
# Looking for lines

Lines of files that some patterns fit are printed, or counted, or told of in other ways.

## Main Definitions

* `Search` -- what is looked for, and what is told of it
* `grep` -- looks for lines
-/

namespace LintLedger.Utility

open LintLedger.Machine

/-- Regular expressions in which only some operators need no backslash. -/
def basicDialect : Regex.Dialect :=
  { isExtended := false
    loneSign := .literal
    loneInterval := .literal
    refusesClose := true
    refusesBrace := true }

/-- Regular expressions in which no operator needs a backslash. -/
def extendedDialect : Regex.Dialect :=
  { isExtended := true
    loneSign := .ignored
    loneInterval := .ignored
    refusesClose := false
    refusesBrace := false }

/-- What is looked for, and what is told of it. -/
structure Search where
  taken : Taken
  patterns : List Regex
  foldsCase : Bool
  /-- Whether what is found has to be words. -/
  isWord : Bool
  /-- Whether what is found has to be whole lines. -/
  isWhole : Bool
  /-- How many lines before and after one that was found are shown. -/
  before? : Option Nat
  after? : Option Nat
  /-- After how many lines a search is over. -/
  most? : Option Nat
  /-- Whether the file is named in front of each line. -/
  isNaming : Bool

namespace Search

/-- Whether an option was given. -/
def has (x : Search) (c : Char) : Bool := x.taken.has c

/-- The character at the end of lines. -/
def stop (x : Search) : Char := if x.has 'z' then '\x00' else '\n'

/-- The longest part of a line that a pattern fits from a place on. -/
def partAt? (x : Search) (r : Regex) (s : Regex.Subject) (start : Nat) : Option Nat :=
  let all := Regex.spans s r.looksBack r ⟨start, []⟩
  let isFine (p : Regex.Span) : Bool :=
    if x.isWhole then start = 0 && p.finish = s.chars.size
    else if x.isWord then
      let isWordAt (i : Nat) : Bool := (s.chars[i]?).any Regex.isWordChar
      !(0 < start && isWordAt (start - 1)) && !isWordAt p.finish
    else true
  (all.find? isFine).map (·.finish)

/-- The first part of a line that any pattern fits, looked for in so many places from one on:
its begin and its end. -/
def partWithin (x : Search) (s : Regex.Subject) : Nat → Nat → Option (Nat × Nat)
  | 0, _ => none
  | places + 1, start =>
    let finishes := x.patterns.filterMap fun r => x.partAt? r s start
    match finishes with
    | first :: rest => some (start, rest.foldl max first)
    | [] => partWithin x s places (start + 1)

/-- A line as patterns look at it. -/
def subject (x : Search) (line : List Char) : Regex.Subject :=
  { chars := line.toArray
    foldsCase := x.foldsCase }

/-- Whether a line is one that is looked for. -/
def selects (x : Search) (line : List Char) : Bool :=
  let s := x.subject line
  let places := if x.isWhole then 1 else s.chars.size + 1
  (x.partWithin s places 0).isSome != x.has 'v'

/-- The parts of a line that are looked for, each with where it begins. -/
def parts (x : Search) (s : Regex.Subject) : Nat → Nat → List (Nat × String)
  | 0, _ => []
  | fuel + 1, start =>
    match x.partWithin s (s.chars.size + 1 - start) start with
    | none => []
    | some (first, finish) =>
      if finish = first then parts x s fuel (first + 1)
      else
        (first, String.ofList (s.chars.extract first finish).toList) :: parts x s fuel finish

/-- What stands in front of a line. -/
def label (x : Search) (name : String) (mark : Char) (number offset : Nat) : String :=
  let m := String.singleton mark
  (if x.isNaming then name ++ (if x.has 'Z' then "\x00" else m) else "") ++
    (if x.has 'n' then toString number ++ m else "") ++
    (if x.has 'b' then toString offset ++ m else "")

end Search

/-- Where a search is in a file. -/
structure Searching where
  /-- How many lines were read, and how many bytes. -/
  lines : Nat
  offset : Nat
  /-- How many lines were found. -/
  found : Nat
  /-- The lines just before, with their numbers and places, that may still be shown, the last one
  first. -/
  before : List (Nat × Nat × List Char)
  /-- How many of the next lines are shown. -/
  after : Nat
  /-- The last line that was shown. -/
  shown? : Option Nat
  /-- Whether any line was shown, be it of another file. -/
  isUsed : Bool

namespace Search

/-- Shows lines that were found, or that are near them. -/
def showLines (x : Search) (name : String) (k : Searching) (mark : Char)
    (lines : List (Nat × Nat × List Char)) : Work Searching := do
  let stop := String.singleton x.stop
  let mut shown? := k.shown?
  let mut isUsed := k.isUsed
  for (number, offset, line) in lines do
    let isNext := shown?.any fun last => last + 1 = number
    if isUsed && !isNext && (x.before?.isSome || x.after?.isSome) then putLine "--"
    if x.has 'o' then
      if mark == ':' && !x.has 'v' then
        for (start, text) in x.parts (x.subject line) (line.length + 1) 0 do
          put (x.label name mark number (offset + start) ++ text ++ stop)
    else put (x.label name mark number offset ++ String.ofList line ++ stop)
    shown? := some number
    isUsed := true
  return { k with shown? := shown?, isUsed := isUsed }

/-- Whether a search only tells of whole files. -/
def isBrief (x : Search) : Bool := x.has 'q' || x.has 'l' || x.has 'L'

/-- Looks for lines in a source, in at most so many turns. -/
def searchWithin (x : Search) (name : String) (isBinary : Bool) :
    Nat → Searching → Source → Work (Searching × Source)
  | 0, k, s => pure (k, s)
  | turns + 1, k, s => do
    let isDone := x.most?.any fun most => most ≤ k.found
    if isDone && k.after = 0 then return (k, s)
    else
      let (line?, s) ← act (nextLineWithin x.stop Act.manyTurns [] s)
      match line? with
      | none => return (k, s)
      | some line =>
        let here := (k.lines + 1, k.offset, line.chars)
        let next : Searching :=
          { k with lines := k.lines + 1, offset := k.offset + line.chars.length + 1 }
        if x.selects line.chars then
          if isDone then return (k, s)
          else
            let next := { next with found := k.found + 1 }
            if x.isBrief then return (next, s)
            else if x.has 'c' then searchWithin x name isBinary turns next s
            else if isBinary then
              complain (name ++ ": binary file matches")
              return (next, s)
            else
              let next ← x.showLines name next '-' k.before.reverse
              let next ← x.showLines name next ':' [here]
              searchWithin x name isBinary turns
                { next with before := [], after := x.after?.getD 0 } s
        else if 0 < k.after then
          let next ← if x.isBrief || x.has 'c' then pure next
            else x.showLines name next '-' [here]
          searchWithin x name isBinary turns { next with after := k.after - 1 } s
        else
          let kept := (here :: k.before).take (x.before?.getD 0)
          searchWithin x name isBinary turns { next with before := kept } s

/-- Looks for lines in a file that is open; `isUsed` tells whether any line was shown before.  The
value is how many were found, and whether any line was shown now. -/
def searchOpen (x : Search) (name : String) (isUsed : Bool) (d : Nat) : Work (Nat × Bool) := do
  let first ← act (Act.read d Act.chunk)
  let source : Source := match first with
    | .ok "" => ⟨d, [], true, none⟩
    | .ok text => ⟨d, text.toList, false, none⟩
    | .error e => ⟨d, [], true, some e⟩
  let isBinary := !x.has 'a' && !x.has 'z' && source.rest.contains '\x00'
  let (k, source) ← x.searchWithin name isBinary Act.manyTurns ⟨0, 0, 0, [], 0, none, isUsed⟩
    source
  let found := k.found
  match source.fault? with
  | some e =>
    if e = .isDirectory && x.taken.word? 'd' = some "skip" then pure ()
    else if x.has 's' then fails
    else warn (name ++ ": " ++ e.words)
    return (0, isUsed)
  | none =>
    if x.has 'q' then pure ()
    else if x.has 'l' || x.has 'L' then
      if (0 < found) == x.has 'l' then put (name ++ if x.has 'Z' then "\x00" else "\n")
    else if x.has 'c' then
      putLine ((if x.isNaming then name ++ ":" else "") ++ toString found)
    return (found, k.isUsed)

/-- Whether a file of a name is looked at when a directory is searched. -/
def takesFile (x : Search) (name : String) : Bool :=
  let fits (w : String) : Bool := Shell.Pattern.fits w.toList name.toList
  let words (key : Char) : List String :=
    (x.taken.options.filter fun o => o.key == key).filterMap (·.word?)
  let included := words '\x01'
  (included.isEmpty || included.any fits) && !(words '\x02').any fits

/-- Whether a directory of a name is searched. -/
def takesDir (x : Search) (name : String) : Bool :=
  !(x.taken.options.any fun o =>
    o.key == '\x03' && o.word?.any fun w => Shell.Pattern.fits w.toList name.toList)

/-- Looks for lines in files, and in what is in directories; the value is how many were
found. -/
def searchAll (x : Search) : Nat → List (String × Bool) → Bool → Nat → Work Nat
  | 0, _, _, found => pure found
  | _, [], _, found => pure found
  | fuel + 1, (path, isNamed) :: rest, isUsed, found => do
    let name := if path = "-" then "(standard input)" else path
    let isDir ← if path = "-" then pure false else isDirectory path
    let complainOf (e : FileError) : Work Unit := do
      if x.has 's' then fails else warn (name ++ ": " ++ e.words)
    if isDir && (x.has 'r' || x.has 'R') then
      match ← act (Act.names path) with
      | .error e =>
        complainOf e
        searchAll x fuel rest isUsed found
      | .ok names =>
        let mut below : List (String × Bool) := []
        for n in names do
          let inner := if path = "." && isNamed && x.has '\x04' then n else pathIn path n
          match ← act (Act.lookAtLink inner) with
          | .ok i =>
            if i.kind = .dir then
              if x.takesDir n then below := (inner, false) :: below
            else if (i.kind = .file || (i.kind = .link && x.has 'R')) && x.takesFile n then
              below := (inner, false) :: below
          | .error _ => pure ()
        searchAll x fuel (below.reverse ++ rest) isUsed found
    else
      match ← act (openInput path) with
      | .error e =>
        complainOf e
        searchAll x fuel rest isUsed found
      | .ok d =>
        let (here, isUsed) ← x.searchOpen name isUsed d
        act (closeInput d)
        if x.has 'q' && 0 < here then return found + here
        else searchAll x fuel rest isUsed (found + here)

end Search

/-- The options of `grep`. -/
def grepGrammar : Grammar :=
  let g := grammar "EFGPe:f:iyvwxcLlm:oqsbHhnTUzZA:B:C:arRID:d:u0"
    [("extended-regexp", 'E'), ("fixed-strings", 'F'), ("basic-regexp", 'G'), ("regexp", 'e'),
     ("file", 'f'), ("ignore-case", 'i'), ("invert-match", 'v'), ("word-regexp", 'w'),
     ("line-regexp", 'x'), ("count", 'c'), ("files-without-match", 'L'),
     ("files-with-matches", 'l'), ("max-count", 'm'), ("only-matching", 'o'), ("quiet", 'q'),
     ("silent", 'q'), ("no-messages", 's'), ("byte-offset", 'b'), ("with-filename", 'H'),
     ("no-filename", 'h'), ("line-number", 'n'), ("initial-tab", 'T'), ("null-data", 'z'),
     ("null", 'Z'), ("after-context", 'A'), ("before-context", 'B'), ("context", 'C'),
     ("text", 'a'), ("recursive", 'r'), ("dereference-recursive", 'R')]
  { g with names := ("include", '\x01', .word) :: ("exclude", '\x02', .word) ::
      ("exclude-dir", '\x03', .word) :: ("color", '\x05', .perhaps) ::
      ("colour", '\x05', .perhaps) :: ("line-buffered", '\x05', .nothing) ::
      ("no-ignore-case", '\x06', .nothing) :: g.names }

/-- The lines of context that a word asks for. -/
def contextOf (t : Taken) (key : Char) : Work (Option Nat) := do
  match t.last? [key, 'C'] with
  | none => return none
  | some k =>
    match t.word? k with
    | none => return none
    | some w =>
      match decimal? w with
      | some n => return some n
      | none => die (w ++ ": invalid context length argument")

/-- The text of a pattern as a regular expression; a plain text stands for itself. -/
def patternOf (t : Taken) (text : String) : Work Regex := do
  let chars := text.toList
  match t.last? ['E', 'F', 'G', 'P'] with
  | some 'F' => return chars.foldr (fun c r => .sequence (.char c) r) .nothing
  | kind =>
    let dialect := if kind = some 'E' || kind = some 'P' then extendedDialect else basicDialect
    match Regex.read dialect chars with
    | .ok r =>
      r.ignored.forM fun s => complain ("warning: " ++ s ++ " at start of expression")
      return r.regex
    | .error e => die e.words

/-- A word for context that is a number after a dash, written as the option it stands for. -/
def withContextOption (words : List String) : List String :=
  words.map fun w =>
    match w.toList with
    | '-' :: c :: rest => if (c :: rest).all Char.isDigit then "-C" ++ String.ofList (c :: rest) else w
    | _ => w

/-- Looks for lines that patterns fit. -/
def grep (words : List String) : Work Unit := do
  let t ← match takeWords grepGrammar (words.length + 1) (withContextOption words) with
    | .ok t => pure t
    | .error message =>
      complain message
      say "Usage: grep [OPTION]... PATTERNS [FILE]...\nTry 'grep --help' for more information.\n"
      leave 2
  let mut texts : List String := []
  for o in t.options do
    match o.key, o.word? with
    | 'e', some w => texts := texts ++ Text.splitOnChar (· == '\n') w
    | 'f', some path =>
      match ← act (readInput path) with
      | .ok text => texts := texts ++ (linesOf '\n' text).map fun l => String.ofList l.chars
      | .error e => die (path ++ ": " ++ e.words)
    | _, _ => pure ()
  let isGiven := t.has 'e' || t.has 'f'
  let operands ← match isGiven, t.operands with
    | true, all => pure all
    | false, first :: rest => do
      texts := Text.splitOnChar (· == '\n') first
      pure rest
    | false, [] => do
      say "Usage: grep [OPTION]... PATTERNS [FILE]...\nTry 'grep --help' for more information.\n"
      leave 2
  let before? ← contextOf t 'B'
  let after? ← contextOf t 'A'
  let most? ← match t.word? 'm' with
    | none => pure none
    | some w =>
      match Text.intOf? w.toList with
      | some n => pure (if n < 0 then none else some n.toNat)
      | none => die "invalid max count"
  let patterns ← texts.mapM (patternOf t)
  let t := if t.word? 'd' = some "recurse" then { t with options := ⟨'r', none⟩ :: t.options } else t
  let isDeep := t.has 'r' || t.has 'R'
  let isNaming : Bool := match t.last? ['H', 'h'] with
    | some 'H' => true
    | some _ => false
    | none => 1 < operands.length || isDeep
  let isHere := operands.isEmpty && isDeep
  let t := if isHere then { t with options := ⟨'\x04', none⟩ :: t.options } else t
  let isNaming ← if !isDeep || t.has 'h' || t.has 'H' || operands.length != 1 then pure isNaming
    else isDirectory (operands.headD "")
  let x : Search :=
    { taken := t
      patterns := patterns
      foldsCase := t.last? ['i', 'y', '\x06'] = some 'i' || t.last? ['i', 'y', '\x06'] = some 'y'
      isWord := t.has 'w'
      isWhole := t.has 'x'
      before? := before?
      after? := after?
      most? := most?
      isNaming := isNaming }
  let paths := if !operands.isEmpty then operands else if isDeep then ["."] else ["-"]
  if most? = some 0 && !x.has 'L' then leave 1
  let found ← x.searchAll 1000000 (paths.map fun p => (p, true)) false 0
  if x.has 'q' && 0 < found then leave 0
  else if (← get).status != 0 then leave 2
  else leave (if 0 < found then 0 else 1)

end LintLedger.Utility
