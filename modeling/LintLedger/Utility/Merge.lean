import LintLedger.Utility.Sort

/-!
# Programs on two sorted files

Two files whose lines are sorted are gone through side by side.  Whether they are sorted is
noticed as soon as a line was found that is only in one of them.

## Main Definitions

* `OrderCheck`, `Walk` -- two files side by side, and what is made of lines out of order
* `comm` -- which lines two files have in common
* `join` -- lines that have a field in common as one line
-/

namespace LintLedger.Utility

open LintLedger.Machine

/-- When lines out of order are told of. -/
inductive OrderCheck where
  | never
  /-- As soon as the files are known to differ. -/
  | whenDiffering
  /-- At once, and nothing more is done. -/
  | always
deriving DecidableEq, Repr

/-- The check that options ask for. -/
def OrderCheck.of (t : Taken) : OrderCheck :=
  match t.last? ['\x01', '\x02'] with
  | some '\x01' => .always
  | some _ => .never
  | none => .whenDiffering

/-- One of two files that are gone through. -/
structure Walker where
  /-- The lines from the one where it is. -/
  lines : List (List Char)
  /-- The line before, and the one before that. -/
  before : List (List Char)
  /-- The number of the line where it is. -/
  number : Nat := 1
  /-- Whether lines out of order were told of. -/
  hasWarned : Bool := false

/-- Two files that are gone through side by side. -/
structure Walk where
  check : OrderCheck
  /-- Whether a line was found that is only in one of the files. -/
  differs : Bool := false
  first : Walker
  second : Walker

namespace Walk

/-- The file with a number. -/
def side (w : Walk) (isFirst : Bool) : Walker := if isFirst then w.first else w.second

/-- Changes one of the files. -/
def change (w : Walk) (isFirst : Bool) (f : Walker → Walker) : Walk :=
  if isFirst then { w with first := f w.first } else { w with second := f w.second }

/-- Tells of two lines of a file that are out of order. -/
def checkPair (w : Walk) (isFirst : Bool) (isDisordered : List Char → List Char → Bool)
    (message : Walker → List Char → String) (a b : List Char) : Work Walk := do
  let asks := w.check = .always || (w.check = .whenDiffering && w.differs)
  if asks && !(w.side isFirst).hasWarned && isDisordered a b then
    let text := message (w.side isFirst) b
    if w.check = .always then die text
    else
      complain text
      return w.change isFirst fun s => { s with hasWarned := true }
  else return w

/-- Says in the end that there were lines out of order. -/
def finish (w : Walk) : Work Unit := do
  if w.first.hasWarned || w.second.hasWarned then warn "input is not in sorted order"

end Walk

/-! ## Lines in common -/

/-- Goes on to the next line of a file. -/
def Walk.advance (w : Walk) (isFirst : Bool) : Work Walk := do
  let isDisordered (a b : List Char) : Bool := compareBytes a b == .gt
  let message (_ : Walker) (_ : List Char) : String :=
    "file " ++ (if isFirst then "1" else "2") ++ " is not in sorted order"
  match (w.side isFirst).lines with
  | [] => return w
  | here :: rest =>
    let w := w.change isFirst fun s => { s with lines := rest, before := here :: s.before.take 1 }
    match rest, (w.side isFirst).before with
    | next :: _, _ => w.checkPair isFirst isDisordered message here next
    | [], last :: earlier :: _ => w.checkPair isFirst isDisordered message earlier last
    | [], _ => return w

/-- How lines in common are told of. -/
structure CommonLines where
  taken : Taken
  separator : String
  stop : String

/-- Tells of a line that belongs to a column. -/
def CommonLines.put (x : CommonLines) (column : Nat) (line : List Char) : Work Unit := do
  let hides (n : Nat) : Bool := x.taken.has (Nat.digitChar n)
  let before := (if 2 ≤ column && !hides 1 then x.separator else "") ++
    (if column = 3 && !hides 2 then x.separator else "")
  if !hides column then Utility.put (before ++ String.ofList line ++ x.stop)

/-- Goes through both files; the value is the walk and how many lines there are in each column. -/
def CommonLines.run (x : CommonLines) :
    Nat → Walk → Nat × Nat × Nat → Work (Walk × Nat × Nat × Nat)
  | 0, w, n => return (w, n)
  | fuel + 1, w, n => do
    match w.first.lines, w.second.lines with
    | [], [] => return (w, n)
    | a :: _, [] =>
      x.put 1 a
      x.run fuel (← ({ w with differs := true }).advance true) (n.1 + 1, n.2)
    | [], b :: _ =>
      x.put 2 b
      x.run fuel (← ({ w with differs := true }).advance false) (n.1, n.2.1 + 1, n.2.2)
    | a :: _, b :: _ =>
      match compareBytes a b with
      | .lt =>
        x.put 1 a
        x.run fuel (← ({ w with differs := true }).advance true) (n.1 + 1, n.2)
      | .gt =>
        x.put 2 b
        x.run fuel (← ({ w with differs := true }).advance false) (n.1, n.2.1 + 1, n.2.2)
      | .eq =>
        x.put 3 a
        let w ← w.advance true
        x.run fuel (← w.advance false) (n.1, n.2.1, n.2.2 + 1)

/-- The two files of a program on two files. -/
def twoOperands (t : Taken) : Work (String × String) :=
  match t.operands with
  | [] => misuse "missing operand"
  | [a] => misuse ("missing operand after " ++ Text.alwaysQuoted a)
  | [a, b] => pure (a, b)
  | _ :: _ :: extra :: _ => extraOperand extra

/-- Prints which lines two sorted files have in common and which not. -/
def comm (words : List String) : Work Unit := do
  let g := grammar "123z" [("zero-terminated", 'z')]
  let t ← readOptions { g with names := ("check-order", '\x01', .nothing) ::
    ("nocheck-order", '\x02', .nothing) :: ("total", '\x03', .nothing) ::
    ("output-delimiter", '\x04', .word) :: g.names } words
  let (a, b) ← twoOperands t
  let stop := if t.has 'z' then '\x00' else '\n'
  let sources ← [a, b].mapM fun path => do
    match ← act (openInput path) with
    | .ok d => return (path, d)
    | .error e => die (Text.quotedIfNeeded path ++ ": " ++ e.words)
  let texts ← sources.mapM fun (path, d) => do
    match ← act (Act.readAll d) with
    | .ok text => return (linesOf stop text).map (·.chars)
    | .error e => die (Text.quotedIfNeeded path ++ ": " ++ e.words)
  let as := texts.headD []
  let bs := (texts.drop 1).headD []
  let separator := match t.word? '\x04' with
    | none => "\t"
    | some "" => "\x00"
    | some s => s
  let x : CommonLines := ⟨t, separator, String.singleton stop⟩
  let w : Walk := { check := OrderCheck.of t, first := ⟨as, [], 1, false⟩, second := ⟨bs, [], 1, false⟩ }
  let (w, n1, n2, n3) ← x.run (as.length + bs.length + 1) w (0, 0, 0)
  if t.has '\x03' then
    put (separator.intercalate [toString n1, toString n2, toString n3, "total"] ++ x.stop)
  w.finish

/-! ## Joined lines -/

/-- The fields of a line; without a separator they stand between blanks. -/
def fieldsOf (separator? : Option Char) (cs : List Char) : List String :=
  match separator? with
  | some '\n' => if cs.isEmpty then [] else [String.ofList cs]
  | some s => if cs.isEmpty then [] else Text.splitOnChar (· == s) (String.ofList cs)
  | none => betweenBlanks (cs.dropWhile isFieldBlank) cs.length
where
  /-- The fields between blanks; a blank at the end has an empty one after it. -/
  betweenBlanks (cs : List Char) : Nat → List String
    | 0 => []
    | fuel + 1 =>
      if cs.isEmpty then []
      else
        let here := cs.takeWhile fun c => !isFieldBlank c
        match cs.drop here.length with
        | [] => [String.ofList here]
        | _ :: rest =>
          let rest := rest.dropWhile isFieldBlank
          String.ofList here :: if rest.isEmpty then [""] else betweenBlanks rest fuel

/-- A field that is printed: of the first or second file, or the one that both have in common. -/
inductive JoinField where
  | common
  | of (isFirst : Bool) (n : Nat)
deriving DecidableEq, Repr

/-- How lines are joined. -/
structure Joining where
  separator? : Option Char
  /-- The fields that are compared, from zero on. -/
  fields : Nat × Nat
  foldsCase : Bool
  /-- What stands for a field that is not there. -/
  filler : String
  /-- What is printed, if it is told. -/
  format : List JoinField
  /-- How many fields of the lines of each file are printed, if it is told. -/
  counts? : Option (Nat × Nat)
  printsPairs : Bool
  printsAlone : Bool × Bool
  names : String × String
  stop : String

namespace Joining

/-- A field of a line. -/
def field (fs : List String) (n : Nat) : String := (fs[n]?).getD ""

/-- How two texts compare. -/
def compareTexts (x : Joining) (a b : String) : Ordering :=
  let chars (s : String) : List Char :=
    if x.foldsCase then s.toList.map Char.toUpper else s.toList
  compareBytes (chars a) (chars b)

/-- The fields of a line. -/
def fieldsOf (x : Joining) (cs : List Char) : List String := Utility.fieldsOf x.separator? cs

/-- A field as it is printed. -/
def shown (x : Joining) (fs : List String) (n : Nat) : String :=
  let text := field fs n
  if text = "" then x.filler else text

/-- Prints a line of the first file with one of the second; one of them may be missing. -/
def put (x : Joining) (a? b? : Option (List String)) : Work Unit :=
  let a := a?.getD []
  let b := b?.getD []
  let (owner, n) := if a?.isNone then (b, x.fields.2) else (a, x.fields.1)
  let others (fs : List String) (n : Nat) (count : Nat) : List String :=
    ((List.range count).filter (· != n)).map (x.shown fs)
  let counts := x.counts?.getD (a.length, b.length)
  let parts :=
    if x.format.isEmpty then
      x.shown owner n :: (others a x.fields.1 counts.1 ++ others b x.fields.2 counts.2)
    else
      x.format.map fun
        | .common => x.shown owner n
        | .of isFirst n => x.shown (if isFirst then a else b) n
  let joint := match x.separator? with
    | none => " "
    | some c => String.singleton c
  Utility.put (joint.intercalate parts ++ x.stop)

/-- Goes on to the next line of a file. -/
def advance (x : Joining) (isFirst : Bool) (w : Walk) : Work Walk := do
  let n := if isFirst then x.fields.1 else x.fields.2
  let name := if isFirst then x.names.1 else x.names.2
  let isDisordered (a b : List Char) : Bool :=
    x.compareTexts (field (x.fieldsOf a) n) (field (x.fieldsOf b) n) == .gt
  let message (s : Walker) (line : List Char) : String :=
    name ++ ":" ++ toString s.number ++ ": is not sorted: " ++ String.ofList line
  match (w.side isFirst).lines with
  | [] => return w
  | here :: rest =>
    let w := w.change isFirst fun s => { s with lines := rest, number := s.number + 1 }
    match rest with
    | next :: _ => w.checkPair isFirst isDisordered message here next
    | [] => return w

/-- Takes the lines of a file as long as they have a field in common with a text; the value is
the lines with their fields and what comes after them. -/
def takeEqual (x : Joining) (isFirst : Bool) (key : String) :
    Nat → List (List String) → Walk → Work (List (List String) × Walk)
  | 0, done, w => return (done.reverse, w)
  | fuel + 1, done, w => do
    match (w.side isFirst).lines with
    | [] => return (done.reverse, w)
    | line :: _ =>
      let fs := x.fieldsOf line
      let n := if isFirst then x.fields.1 else x.fields.2
      if x.compareTexts (field fs n) key == .eq then
        x.takeEqual isFirst key fuel (fs :: done) (← x.advance isFirst w)
      else return (done.reverse, w)

/-- Goes through what is left of a file after the end of the other. -/
def putTail (x : Joining) (isFirst : Bool) : Nat → Walk → Work Walk
  | 0, w => return w
  | fuel + 1, w => do
    let prints := if isFirst then x.printsAlone.1 else x.printsAlone.2
    match (w.side isFirst).lines with
    | [] => return w
    | line :: _ =>
      let fs := x.fieldsOf line
      if prints then (if isFirst then x.put (some fs) none else x.put none (some fs))
      x.putTail isFirst fuel (← x.advance isFirst w)

/-- Goes through both files. -/
def run (x : Joining) : Nat → Walk → Work Walk
  | 0, w => return w
  | fuel + 1, w => do
    match w.first.lines, w.second.lines with
    | a :: _, b :: _ =>
      let as := x.fieldsOf a
      let bs := x.fieldsOf b
      let key := field as x.fields.1
      match x.compareTexts key (field bs x.fields.2) with
      | .lt =>
        if x.printsAlone.1 then x.put (some as) none
        let w ← x.advance true w
        x.run fuel { w with differs := true }
      | .gt =>
        if x.printsAlone.2 then x.put none (some bs)
        let w ← x.advance false w
        x.run fuel { w with differs := true }
      | .eq =>
        let (firsts, w) ← x.takeEqual true key w.first.lines.length [] w
        let (seconds, w) ← x.takeEqual false key w.second.lines.length [] w
        if x.printsPairs then
          firsts.forM fun a => seconds.forM fun b => x.put (some a) (some b)
        x.run fuel w
    | _, _ => return w

end Joining

/-- The number of a field, from zero on. -/
def fieldNumber (word : String) : Work Nat := do
  match decimal? word with
  | some (n + 1) => return n
  | _ => die ("invalid field number: " ++ Text.alwaysQuoted word)

/-- The fields that a word tells, or none if their number is that of the first lines. -/
def joinFields (word : String) : Work (List JoinField) :=
  (Text.splitOnChar (fun c => c == ',' || c == ' ' || c == '\t') word).mapM fun part => do
    match part.toList with
    | ['0'] => return .common
    | '0' :: _ => die ("invalid field specifier: " ++ Text.alwaysQuoted part)
    | f :: '.' :: n =>
      if f == '1' || f == '2' then
        return .of (f == '1') (← fieldNumber (String.ofList n))
      else die ("invalid file number in field spec: " ++ Text.alwaysQuoted part)
    | f :: _ =>
      if f == '1' || f == '2' then
        die ("invalid field specifier: " ++ Text.alwaysQuoted part)
      else die ("invalid file number in field spec: " ++ Text.alwaysQuoted part)
    | [] => die ("invalid file number in field spec: " ++ Text.alwaysQuoted part)

/-- Joins the lines of two files that have a field in common. -/
def join (words : List String) : Work Unit := do
  let g := grammar "1:2:a:e:ij:o:t:v:z" [("ignore-case", 'i'), ("zero-terminated", 'z')]
  let t ← readOptions { g with names := ("check-order", '\x01', .nothing) ::
    ("nocheck-order", '\x02', .nothing) :: ("header", '\x03', .nothing) :: g.names } words
  let mut field1? : Option Nat := none
  let mut field2? : Option Nat := none
  let mut alone := (false, false)
  let mut pairs := true
  let mut format : List JoinField := []
  let mut counts := false
  let mut separator? : Option Char := none
  let setField (old? : Option Nat) (n : Nat) : Work (Option Nat) := do
    match old? with
    | some m =>
      if m = n then return some n
      else die ("incompatible join fields " ++ toString (m + 1) ++ ", " ++ toString (n + 1))
    | none => return some n
  for o in t.options do
    let word := o.word?.getD ""
    match o.key with
    | '1' => field1? ← setField field1? (← fieldNumber word)
    | '2' => field2? ← setField field2? (← fieldNumber word)
    | 'j' =>
      let n ← fieldNumber word
      field1? ← setField field1? n
      field2? ← setField field2? n
    | 'a' | 'v' =>
      if o.key == 'v' then pairs := false
      match word with
      | "1" => alone := (true, alone.2)
      | "2" => alone := (alone.1, true)
      | _ => die ("invalid file number: " ++ Text.alwaysQuoted word)
    | 'o' =>
      if word = "auto" then counts := true else format := format ++ (← joinFields word)
    | 't' =>
      let c ← match word.toList with
        | [] => pure '\n'
        | [c] => pure c
        | ['\\', '0'] => pure '\x00'
        | _ => die ("multi-character tab " ++ Text.alwaysQuoted word)
      if separator?.isSome && separator? != some c then die "incompatible tabs"
      separator? := some c
    | _ => pure ()
  let (a, b) ← twoOperands t
  let stop := if t.has 'z' then '\x00' else '\n'
  let sources ← [a, b].mapM fun path => do
    match ← act (openInput path) with
    | .ok d => return d
    | .error e => die (Text.quotedIfNeeded path ++ ": " ++ e.words)
  let texts ← sources.mapM fun d => do
    match ← act (Act.readAll d) with
    | .ok text => return (linesOf stop text).map (·.chars)
    | .error e => die ("read error: " ++ e.words)
  let as := texts.headD []
  let bs := (texts.drop 1).headD []
  let x : Joining :=
    { separator? := separator?
      fields := (field1?.getD 0, field2?.getD 0)
      foldsCase := t.has 'i'
      filler := (t.word? 'e').getD ""
      format := format
      counts? := none
      printsPairs := pairs
      printsAlone := alone
      names := (a, b)
      stop := String.singleton stop }
  let x := if counts then
      { x with counts? := some ((x.fieldsOf (as.headD [])).length, (x.fieldsOf (bs.headD [])).length) }
    else x
  let hasHeader := t.has '\x03' && !(as.isEmpty && bs.isEmpty)
  if hasHeader then
    x.put (as.head?.map x.fieldsOf) (bs.head?.map x.fieldsOf)
  let rest (lines : List (List Char)) : List (List Char) := if hasHeader then lines.tail else lines
  let start (lines : List (List Char)) : Walker :=
    ⟨rest lines, [], if hasHeader then 2 else 1, false⟩
  let w : Walk := { check := OrderCheck.of t, first := start as, second := start bs }
  let w ← x.run (as.length + bs.length + 1) w
  let checksTail := w.check != .never && !(w.first.hasWarned && w.second.hasWarned)
  let w ← if x.printsAlone.1 || checksTail then x.putTail true (as.length + 1) w else pure w
  let w ← if x.printsAlone.2 || checksTail then x.putTail false (bs.length + 1) w else pure w
  w.finish

end LintLedger.Utility
