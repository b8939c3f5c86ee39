import LintLedger.Utility.Stream

/-!
# Programs on the layout of lines

Lines are put side by side, made shorter, and tabs become blanks.

## Main Definitions

* `paste` -- the lines of files side by side
* `fold` -- lines that are not too long
* `TabStops`, `expand` -- blanks in the place of tabs
-/

namespace LintLedger.Utility

open LintLedger.Machine

/-! ## Side by side -/

/-- The delimiters that a word tells. -/
def delimitersOf : List Char → List String
  | '\\' :: c :: rest =>
    let text := match c with
      | '0' => ""
      | 'b' => "\x08"
      | 'f' => "\x0c"
      | 'n' => "\n"
      | 'r' => "\r"
      | 't' => "\t"
      | 'v' => "\x0b"
      | c => String.singleton c
    text :: delimitersOf rest
  | c :: rest => String.singleton c :: delimitersOf rest
  | [] => []

/-- Whether a text ends with a backslash that stands for nothing. -/
def endsEscaping : List Char → Bool
  | ['\\'] => true
  | '\\' :: _ :: rest => endsEscaping rest
  | _ :: rest => endsEscaping rest
  | [] => false

/-- Texts with delimiters between them, which are used in turn. -/
def joinTurning (delimiters : List String) (texts : List String) : String :=
  match texts with
  | [] => ""
  | first :: rest =>
    let n := max 1 delimiters.length
    first ++ String.join (rest.zipIdx.map fun (text, i) => (delimiters[i % n]?).getD "" ++ text)

/-- What is read of a file for a column. -/
structure Column where
  path : String
  lines : List (List Char)
  /-- Why no more could be read. -/
  fault? : Option FileError

/-- Reads a column from a descriptor. -/
def Column.read (stop : Char) (path : String) (d : Nat) : Work Column := do
  match ← act (Act.readAll d) with
  | .ok text => return ⟨path, (linesOf stop text).map (·.chars), none⟩
  | .error e => return ⟨path, [], some e⟩

/-- Prints one row of columns; those that could not be read are told of in the first one. -/
def putColumns (delimiters : List String) (end' : String) (isFirst : Bool) :
    Nat → List Column → Work Unit
  | _, [] => put end'
  | i, c :: rest => do
    put (String.ofList (c.lines.headD []))
    match c.fault? with
    | some e => if isFirst then warnFile c.path e
    | none => pure ()
    if !rest.isEmpty then put ((delimiters[i % max 1 delimiters.length]?).getD "")
    putColumns delimiters end' isFirst (i + 1) rest

/-- Prints rows of columns as long as there is a line in one of them. -/
def putAllColumns (delimiters : List String) (end' : String) : Nat → Bool → List Column → Work Unit
  | 0, _, _ => pure ()
  | fuel + 1, isFirst, columns => do
    if columns.all fun c => c.lines.isEmpty then
      if isFirst then
        columns.forM fun c => match c.fault? with
          | some e => warnFile c.path e
          | none => pure ()
    else
      putColumns delimiters end' isFirst 0 columns
      putAllColumns delimiters end' fuel false
        (columns.map fun c => { c with lines := c.lines.tail })

/-- Puts the lines of files side by side. -/
def paste (words : List String) : Work Unit := do
  let t ← readOptions (grammar "d:sz" [("delimiters", 'd'), ("serial", 's'),
    ("zero-terminated", 'z')]) words
  let paths := if t.operands.isEmpty then ["-"] else t.operands
  let stop := if t.has 'z' then '\x00' else '\n'
  let chosen := ((t.word? 'd').getD "\t").toList
  if endsEscaping chosen then
    die ("delimiter list ends with an unescaped backslash: " ++
      Text.quotedIfNeeded (String.ofList chosen))
  let delimiters := if chosen.isEmpty then [""] else delimitersOf chosen
  if t.has 's' then
    for path in paths do
      match ← act (openInput path) with
      | .error e => warnFile path e
      | .ok d =>
        let c ← Column.read stop path d
        act (closeInput d)
        put (joinTurning delimiters (c.lines.map String.ofList) ++ String.singleton stop)
        match c.fault? with
        | some e => warnFile path e
        | none => pure ()
  else
    let sources ← paths.mapM fun path => do
      match ← act (openInput path) with
      | .ok d => return (path, d)
      | .error e => die (Text.quotedIfNeeded path ++ ": " ++ e.words)
    let inputs := (paths.filter (· == "-")).length
    let input ← if inputs = 0 then pure ⟨"-", [], none⟩ else Column.read stop "-" 0
    -- Standard input gives its lines in turn to all columns that it is.
    let share (k : Nat) : List (List Char) :=
      (input.lines.zipIdx.filter fun (_, i) => i % inputs == k).map (·.1)
    let mut columns : List Column := []
    let mut k := 0
    for (path, d) in sources do
      if path == "-" then
        columns := columns ++ [{ input with lines := share k }]
        k := k + 1
      else
        columns := columns ++ [← Column.read stop path d]
        act (Act.close d)
    let rows := (columns.map fun c => c.lines.length).foldl max 0
    putAllColumns delimiters (String.singleton stop) (rows + 1) true columns

/-! ## Shorter lines -/

/-- The column after a character. -/
def columnAfter (byBytes : Bool) (column : Nat) (c : Char) : Nat :=
  if byBytes then column + 1
  else if c == '\x08' then column - 1
  else if c == '\r' then 0
  else if c == '\t' then column + 8 - column % 8
  else column + 1

/-- A line folded; `here` is what is on the current line, the last character first. -/
def foldLine (width : Nat) (byBytes atBlanks : Bool) :
    Nat → List Char → Nat → List Char → List (List Char)
  | 0, here, _, _ => [here.reverse]
  | _, here, _, [] => [here.reverse]
  | fuel + 1, here, column, c :: rest =>
    let next := columnAfter byBytes column c
    if next ≤ width || here.isEmpty then foldLine width byBytes atBlanks fuel (c :: here) next rest
    else
      let after := here.takeWhile fun c => c != ' ' && c != '\t'
      if atBlanks && after.length < here.length then
        let kept := after.reverse
        (here.drop after.length).reverse ::
          foldLine width byBytes atBlanks fuel after
            (kept.foldl (columnAfter byBytes) 0) (c :: rest)
      else here.reverse :: foldLine width byBytes atBlanks fuel [] 0 (c :: rest)

/-- The letters of options that are digits, each perhaps with more digits after it. -/
def digitLetters : List (Char × Taking) := "0123456789".toList.map fun c => (c, .perhaps)

/-- What an option that is a digit tells, or one with a word. -/
def Given.digitsOrWord (o : Given) : String :=
  (if o.key.isDigit then String.singleton o.key else "") ++ o.word?.getD ""

/-- Folds lines that are too long. -/
def fold (words : List String) : Work Unit := do
  let g := grammar "bsw:" [("bytes", 'b'), ("spaces", 's'), ("width", 'w')]
  let t ← readOptions { g with letters := g.letters ++ digitLetters } words
  let mut width := 80
  for o in t.options do
    if o.key == 'w' || o.key.isDigit then
      let w := o.digitsOrWord
      match decimal? w with
      | some 0 => die ("invalid number of columns: " ++ Text.alwaysQuoted w ++
          ": Numerical result out of range")
      | some n => width := n
      | none => die ("invalid number of columns: " ++ Text.alwaysQuoted w)
  let most := width
  mapFiles (fun text => (linesOf '\n' text).forM fun l => do
    let parts := foldLine most (t.has 'b') (t.has 's') (3 * l.chars.length + 3) [] 0 l.chars
    put ("\n".intercalate (parts.map String.ofList) ++ if l.isEnded then "\n" else "")) t.operands

/-! ## Tabs -/

/-- The columns to which tabs go. -/
structure TabStops where
  stops : List Nat := []
  /-- After the last stop there is one at each multiple of a width. -/
  every? : Option Nat := none
  /-- After the last stop there is one at each distance from it. -/
  distance? : Option Nat := none

namespace TabStops

/-- What the next number in a list of stops is. -/
inductive StopKind where
  | stop
  | multiple
  | distance
deriving DecidableEq, Repr

/-- The stops with one more number. -/
def add (x : TabStops) (kind : StopKind) (n : Nat) : Except String TabStops :=
  match kind with
  | .stop => .ok { x with stops := x.stops ++ [n] }
  | .multiple =>
    if (x.every?.getD 0) != 0 then .error "'/' specifier only allowed with the last value"
    else .ok { x with every? := some n }
  | .distance =>
    if (x.distance?.getD 0) != 0 then .error "'+' specifier only allowed with the last value"
    else .ok { x with distance? := some n }

/-- Reads stops; `number?` is the number that is being read. -/
def read (x : TabStops) (kind : StopKind) (number? : Option Nat) :
    List Char → Except String TabStops
  | [] =>
    match number? with
    | some n => x.add kind n
    | none => .ok x
  | c :: rest =>
    if c == ',' || c == ' ' || c == '\t' then
      match number? with
      | some n => (x.add kind n).bind fun x => x.read kind none rest
      | none => x.read kind none rest
    else if c == '/' || c == '+' then
      if number?.isSome then
        .error ("'" ++ String.singleton c ++ "' specifier not at start of number: " ++
          Text.alwaysQuoted (String.ofList (c :: rest)))
      else x.read (if c == '/' then .multiple else .distance) none rest
    else if c.isDigit then
      x.read kind (some (number?.getD 0 * 10 + (c.toNat - 48))) rest
    else
      .error ("tab size contains invalid character(s): " ++
        Text.alwaysQuoted (String.ofList (c :: rest)))

/-- What is wrong with stops, if anything. -/
def fault? (x : TabStops) : Option String :=
  if x.stops.contains 0 then some "tab size cannot be 0"
  else if (x.stops.zip x.stops.tail).any fun (a, b) => b ≤ a then
    some "tab sizes must be ascending"
  else if (x.every?.getD 0) != 0 && (x.distance?.getD 0) != 0 then
    some "'/' specifier is mutually exclusive with '+'"
  else none

/-- The stop after a column; after the last stop there may be none. -/
def next? (x : TabStops) (column : Nat) : Option Nat :=
  let multiple (n : Nat) : Option Nat := some (column + (n - column % n))
  let every := x.every?.getD 0
  let distance := x.distance?.getD 0
  match x.stops with
  | [] => multiple (if every != 0 then every else if distance != 0 then distance else 8)
  | [n] => if every = 0 && distance = 0 then multiple n else later n every distance
  | _ => later ((x.stops.getLast?).getD 0) every distance
where
  /-- The stop after a column if there are more stops than one. -/
  later (last every distance : Nat) : Option Nat :=
    match x.stops.find? fun s => column < s with
    | some s => some s
    | none =>
      if every != 0 then some (column + (every - column % every))
      else if distance != 0 then some (column + (distance - (column - last) % distance))
      else none

end TabStops

/-- A line with blanks in the place of tabs; `converts` says whether tabs are still replaced. -/
def expanded (x : TabStops) (onlyFirst : Bool) : (converts : Bool) → Nat → List Char → List Char
  | _, _, [] => []
  | converts, column, c :: rest =>
    if !converts then c :: expanded x onlyFirst false column rest
    else if c == '\t' then
      let after := (x.next? column).getD (column + 1)
      List.replicate (after - column) ' ' ++ expanded x onlyFirst true after rest
    else if c == '\x08' then c :: expanded x onlyFirst (!onlyFirst) (column - 1) rest
    else c :: expanded x onlyFirst (!onlyFirst || c == ' ') (column + 1) rest

/-- Puts blanks in the place of tabs. -/
def expand (words : List String) : Work Unit := do
  let g := grammar "it:" [("initial", 'i'), ("tabs", 't')]
  let t ← readOptions { g with letters := g.letters ++ digitLetters } words
  let mut x : TabStops := {}
  for o in t.options do
    if o.key == 't' || o.key.isDigit then
      match x.read .stop none o.digitsOrWord.toList with
      | .ok y => x := y
      | .error message => die message
  match x.fault? with
  | some message => die message
  | none => pure ()
  let stops := x
  mapFiles (fun text => (linesOf '\n' text).forM fun l =>
    put (TextLine.text { l with chars := expanded stops (t.has 'i') true 0 l.chars })) t.operands

end LintLedger.Utility
