import LintLedger.Text.Integer
import LintLedger.Utility.Grep

/-!
# Programs on the lines of files

Lines are printed in another order, turned around, or with numbers in front of them.

## Main Definitions

* `tac` -- the parts of files between separators, the last one first
* `rev` -- lines turned around
* `Numbering`, `nl` -- lines with numbers, which begin anew in each section of a file
-/

namespace LintLedger.Utility

open LintLedger.Machine

/-! ## The last part first -/

/-- The separator that starts nearest before a place and ends before `limit`: where it starts and
ends. -/
def nearestBefore (endAt? : Nat → Nat → Option Nat) (limit : Nat) : Nat → Option (Nat × Nat)
  | 0 => none
  | start + 1 =>
    match endAt? start limit with
    | some finish => some (start, finish)
    | none => nearestBefore endAt? limit start

/-- All separators before a place, the last one first. -/
def separatorsBefore (endAt? : Nat → Nat → Option Nat) : Nat → Nat → List (Nat × Nat)
  | 0, _ => []
  | fuel + 1, limit =>
    match nearestBefore endAt? limit limit with
    | none => []
    | some (start, finish) => (start, finish) :: separatorsBefore endAt? fuel start

/-- The parts between places, which are told from the last to the first. -/
def partsBackwards (cs : Array Char) : Nat → List Nat → List (List Char)
  | finish, [] => [(cs.extract 0 finish).toList]
  | finish, cut :: rest => (cs.extract cut finish).toList :: partsBackwards cs cut rest

/-- Where a separator that is a text ends, if it starts at a place. -/
def literalEnd? (cs : Array Char) (separator : List Char) (start limit : Nat) : Option Nat :=
  let finish := start + separator.length
  if finish ≤ limit && (cs.extract start finish).toList == separator then some finish else none

/-- Where a separator that is a regular expression ends, if it starts at a place. -/
def patternEnd? (cs : Array Char) (r : Regex) (start limit : Nat) : Option Nat :=
  let s : Regex.Subject := { chars := cs.extract 0 limit }
  (r.at? s start).map (·.finish)

/-- A pattern in which repetition signs have their meaning without a backslash, with one in front
of them. -/
def withSignsEscaped : List Char → List Char
  | '\\' :: c :: rest =>
    if c == '+' || c == '?' then c :: withSignsEscaped rest
    else '\\' :: c :: withSignsEscaped rest
  | c :: rest =>
    if c == '+' || c == '?' then '\\' :: c :: withSignsEscaped rest
    else c :: withSignsEscaped rest
  | [] => []

/-- Prints the parts of files between separators, the last one first. -/
def tac (words : List String) : Work Unit := do
  let t ← readOptions (grammar "brs:"
    [("before", 'b'), ("regex", 'r'), ("separator", 's')]) words
  let separator := (t.word? 's').getD "\n"
  let endAt? : Array Char → Nat → Nat → Option Nat ←
    if t.has 'r' then
      if separator = "" then die "separator cannot be empty"
      else
        match Regex.read basicDialect (withSignsEscaped separator.toList) with
        | .error e => die e.words
        | .ok r => pure fun cs => patternEnd? cs r.regex
    else
      let text := if separator = "" then ['\x00'] else separator.toList
      pure fun cs => literalEnd? cs text
  for path in (if t.operands.isEmpty then ["-"] else t.operands) do
    match ← act (readInput path) with
    | .ok text =>
      let cs := text.toList.toArray
      let all := separatorsBefore (endAt? cs) (cs.size + 1) cs.size
      let cuts := if t.has 'b' then all.map (·.1) else all.map (·.2)
      -- A separator at the very end has nothing after it.
      let cuts := if cuts.head? = some cs.size then cuts.tail else cuts
      (partsBackwards cs cs.size cuts).forM fun part => put (String.ofList part)
    | .error .isDirectory =>
      complainAhead (Text.quotedIfNeeded path ++ ": read error: Invalid argument")
      fails
    | .error e =>
      complainAhead ("failed to open " ++ Text.alwaysQuoted path ++ " for reading: " ++ e.words)
      fails

/-! ## Lines turned around -/

/-- Prints the lines of files turned around. -/
def rev (words : List String) : Work Unit := do
  let t ← readOptions (grammar "" []) words
  let paths : List (Option String) :=
    if t.operands.isEmpty then [none] else t.operands.map some
  for path? in paths do
    let text ← match path? with
      | none => act (Act.readAll 0)
      | some path =>
        match ← act (Act.openFile path .input) with
        | .error e => pure (.error e)
        | .ok d => do
          let text ← act (Act.readAll d)
          act (Act.close d)
          pure text
    match text with
    | .ok text =>
      (linesOf '\n' text).forM fun l =>
        put (TextLine.text { l with chars := l.chars.reverse })
    | .error .isDirectory =>
      -- It tries again and again to read lines from it.
      let _ ← act (Act.ask (.sleep (Nat.pow 10 30)))
    | .error e =>
      complainAhead ("cannot open " ++ path?.getD "-" ++ ": " ++ e.words)
      fails

/-! ## Numbered lines -/

/-- Which lines have numbers. -/
inductive NumberedLines where
  | all
  | nonempty
  | none
  | fitting (r : Regex)

/-- The lines that a word tells. -/
def NumberedLines.of? (word : String) : Option (Except Regex.Fault NumberedLines) :=
  match word.toList with
  | 'p' :: pattern => some ((Regex.read basicDialect pattern).map fun o => .fitting o.regex)
  | ['a'] => some (.ok .all)
  | ['t'] => some (.ok .nonempty)
  | ['n'] => some (.ok .none)
  | _ => Option.none

/-- How numbers stand in their places. -/
inductive NumberPlace where
  | left
  | right
  | zeros
deriving DecidableEq, Repr

/-- A number in its place. -/
def NumberPlace.text (p : NumberPlace) (width : Nat) (n : Int) : String :=
  let digits := toString n.natAbs
  let sign := if n < 0 then "-" else ""
  let room := width - (sign.length + digits.length)
  match p with
  | .left => sign ++ digits ++ "".pushn ' ' room
  | .right => "".pushn ' ' room ++ sign ++ digits
  | .zeros => sign ++ "".pushn '0' room ++ digits

/-- How lines are numbered. -/
structure Numbering where
  /-- The lines with numbers in the heads, bodies and feet of sections. -/
  parts : NumberedLines × NumberedLines × NumberedLines
  width : Nat
  place : NumberPlace
  separator : String
  first : Int
  step : Int
  /-- How many empty lines in a row count as one. -/
  joined : Nat
  /-- Whether numbers begin anew in each section. -/
  restarts : Bool
  /-- What the lines between sections are made of. -/
  mark : List Char

/-- Where numbering is. -/
structure NumberingPlace where
  number : Int
  lines : NumberedLines
  /-- How many empty lines came just before. -/
  blanks : Nat

namespace Numbering

/-- What a line begins with, and the place after it. -/
def lineHead (x : Numbering) (k : NumberingPlace) (cs : List Char) : String × NumberingPlace :=
  let numbered : String × NumberingPlace :=
    (x.place.text x.width k.number ++ x.separator, { k with number := k.number + x.step })
  let plain : String × NumberingPlace :=
    ("".pushn ' ' (x.width + x.separator.length), k)
  match k.lines with
  | .all =>
    if x.joined ≤ 1 then numbered
    else if !cs.isEmpty || k.blanks + 1 = x.joined then
      (numbered.1, { numbered.2 with blanks := 0 })
    else (plain.1, { k with blanks := k.blanks + 1 })
  | .nonempty => if cs.isEmpty then plain else numbered
  | .none => plain
  | .fitting r => if r.occursIn { chars := cs.toArray } then numbered else plain

/-- Numbers lines. -/
def put (x : Numbering) : NumberingPlace → List TextLine → Work NumberingPlace
  | k, [] => pure k
  | k, l :: rest => do
    let section? : Option NumberedLines :=
      if x.mark.isEmpty then none
      else if l.chars == x.mark ++ x.mark ++ x.mark then some x.parts.1
      else if l.chars == x.mark ++ x.mark then some x.parts.2.1
      else if l.chars == x.mark then some x.parts.2.2
      else none
    match section? with
    | some lines =>
      putLine ""
      x.put { k with lines := lines, number := if x.restarts then x.first else k.number } rest
    | none =>
      let (text, k) := x.lineHead k l.chars
      putLine (text ++ String.ofList l.chars)
      x.put k rest

end Numbering

/-- A number of an option with a sign, if it is one. -/
def signedNumber? (word : String) : Option Int :=
  match word.toList with
  | '-' :: digits => (Text.natOf? digits).map fun n => -(Int.ofNat n)
  | '+' :: digits => (Text.natOf? digits).map Int.ofNat
  | digits => (Text.natOf? digits).map Int.ofNat

/-- Numbers the lines of files. -/
def nl (words : List String) : Work Unit := do
  let t ← readOptions (grammar "b:d:f:h:i:l:n:ps:v:w:"
    [("body-numbering", 'b'), ("section-delimiter", 'd'), ("footer-numbering", 'f'),
     ("header-numbering", 'h'), ("line-increment", 'i'), ("join-blank-lines", 'l'),
     ("number-format", 'n'), ("no-renumber", 'p'), ("number-separator", 's'),
     ("starting-line-number", 'v'), ("number-width", 'w')]) words
  let mut isBad := false
  let mut parts : NumberedLines × NumberedLines × NumberedLines := (.none, .nonempty, .none)
  let mut place : NumberPlace := .right
  for o in t.options do
    let word := o.word?.getD ""
    let number (what : String) (least : Int) : Work Int := do
      match signedNumber? word with
      | some n =>
        if n < least then
          die ("invalid " ++ what ++ ": " ++ Text.alwaysQuoted word ++
            ": Numerical result out of range")
        else return n
      | none => die ("invalid " ++ what ++ ": " ++ Text.alwaysQuoted word)
    match o.key with
    | 'w' => let _ ← number "line number field width" 1
    | 'v' => let _ ← number "starting line number" (-9223372036854775808)
    | 'i' => let _ ← number "line number increment" (-9223372036854775808)
    | 'l' => let _ ← number "line number of blank lines" 1
    | 'n' =>
      match word with
      | "ln" => place := .left
      | "rn" => place := .right
      | "rz" => place := .zeros
      | _ =>
        complain ("invalid line number format: " ++ Text.alwaysQuoted word)
        isBad := true
    | 'b' | 'f' | 'h' =>
      match NumberedLines.of? word with
      | some (.ok lines) =>
        parts := match o.key with
          | 'h' => (lines, parts.2)
          | 'b' => (parts.1, lines, parts.2.2)
          | _ => (parts.1, parts.2.1, lines)
      | some (.error e) => die e.words
      | none =>
        let what := match o.key with
          | 'h' => "header"
          | 'b' => "body"
          | _ => "footer"
        complain ("invalid " ++ what ++ " numbering style: " ++ Text.alwaysQuoted word)
        isBad := true
    | _ => pure ()
  if isBad then
    hint
    leave 1
  let value (key : Char) (otherwise : Int) : Int :=
    ((t.word? key).bind signedNumber?).getD otherwise
  let mark := match (t.word? 'd').map (·.toList) with
    | none => ['\\', ':']
    | some [c] => [c, ':']
    | some cs => cs
  let x : Numbering :=
    { parts := parts
      width := (value 'w' 6).toNat
      place := place
      separator := (t.word? 's').getD "\t"
      first := value 'v' 1
      step := value 'i' 1
      joined := (value 'l' 1).toNat
      restarts := !t.has 'p'
      mark := mark }
  let mut k : NumberingPlace := ⟨x.first, x.parts.2.1, 0⟩
  for path in (if t.operands.isEmpty then ["-"] else t.operands) do
    match ← act (readInput path) with
    | .ok text => k ← x.put k (linesOf '\n' text)
    | .error e => warnFile path e

end LintLedger.Utility
