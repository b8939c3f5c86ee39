import LintLedger.Decimal.Styled
import LintLedger.Utility.Basic

/-!
# Sorting lines

Lines are compared by keys, parts of them between fields, one after the other; lines with equal
keys are compared as a whole.

## Main Definitions

* `KeyOrder`, `Key` -- how keys are compared, and where they are
* `compareLines` -- how two lines compare
* `sort`, `uniq` -- the programs on sorted lines
-/

namespace LintLedger.Utility

open LintLedger.Machine

/-- How texts are compared. -/
structure KeyOrder where
  numeric : Bool := false
  general : Bool := false
  human : Bool := false
  month : Bool := false
  version : Bool := false
  dictionary : Bool := false
  printing : Bool := false
  fold : Bool := false
  reverse : Bool := false
deriving DecidableEq, Repr

/-- The letters of an order that cannot be one, as it compares in two ways at once. -/
def KeyOrder.clash? (o : KeyOrder) : Option String :=
  let ways := [o.numeric, o.general, o.human, o.month, o.version || o.dictionary || o.printing]
  if (ways.filter id).length ≤ 1 then none
  else
    let letters := [(o.dictionary && !o.printing, 'd'), (o.fold, 'f'), (o.general, 'g'),
      (o.human, 'h'), (o.printing, 'i'), (o.month, 'M'), (o.numeric, 'n'), (o.version, 'V')]
    some (String.ofList ((letters.filter (·.1)).map (·.2)))

/-- A part of a line. -/
structure Key where
  /-- How many fields come before it. -/
  startField : Nat := 0
  startChar : Nat := 0
  /-- How many fields there are before the field in which it ends; it may go to the end of the
  line. -/
  endField? : Option Nat := none
  /-- How many characters of the field in which it ends belong to it; all if none are told. -/
  endChar : Nat := 0
  skipsStartBlanks : Bool := false
  skipsEndBlanks : Bool := false
  order : KeyOrder := {}

/-- Whether a character separates fields if no other does. -/
def isFieldBlank (c : Char) : Bool := c == ' ' || c == '\t' || c == '\n'

/-- A text without its first fields. -/
def dropFields (separator? : Option Char) : Nat → List Char → List Char
  | 0, cs => cs
  | n + 1, cs =>
    match separator? with
    | some s => dropFields separator? n ((cs.dropWhile (· != s)).drop 1)
    | none =>
      dropFields separator? n ((cs.dropWhile isFieldBlank).dropWhile fun c => !isFieldBlank c)

/-- How many characters of a line come before the end of a key. -/
def Key.stop (k : Key) (separator? : Option Char) (cs : List Char) : Nat :=
  match k.endField? with
  | none => cs.length
  | some n =>
    if k.endChar = 0 then
      -- The key ends with its field; a separator behind it is no part of it.
      match separator? with
      | some s =>
        let rest := dropFields separator? n cs
        cs.length - (rest.dropWhile (· != s)).length
      | none => cs.length - (dropFields none (n + 1) cs).length
    else
      let rest := dropFields separator? n cs
      let rest := if k.skipsEndBlanks then rest.dropWhile isFieldBlank else rest
      cs.length - (rest.drop k.endChar).length

/-- The part of a line that is a key. -/
def Key.of (k : Key) (separator? : Option Char) (cs : List Char) : List Char :=
  let rest := dropFields separator? k.startField cs
  let rest := if k.skipsStartBlanks then rest.dropWhile isFieldBlank else rest
  let rest := rest.drop k.startChar
  let start := cs.length - rest.length
  rest.take (k.stop separator? cs - start)

/-! ## Comparing -/

/-- How two naturals compare. -/
def compareNat (a b : Nat) : Ordering := compare a b

/-- How two texts compare byte by byte. -/
def compareBytes : List Char → List Char → Ordering
  | [], [] => .eq
  | [], _ => .lt
  | _, [] => .gt
  | a :: as, b :: bs => (compareNat a.toNat b.toNat).then (compareBytes as bs)

/-- A decimal number at the begin of a text: whether it is negative, its digits before the point
without zeros in front, and those after it without zeros at the end. -/
structure PlainNumber where
  negative : Bool
  whole : List Char
  part : List Char
  /-- What comes after it. -/
  rest : List Char

/-- The decimal number at the begin of a text. -/
def plainNumber (cs : List Char) : PlainNumber :=
  let cs := cs.dropWhile isFieldBlank
  let (negative, cs) := match cs with
    | '-' :: r => (true, r)
    | r => (false, r)
  let whole := cs.takeWhile Char.isDigit
  let rest := cs.drop whole.length
  let (part, rest) := match rest with
    | '.' :: r => (r.takeWhile Char.isDigit, r.dropWhile Char.isDigit)
    | r => ([], r)
  let whole := whole.dropWhile (· == '0')
  let part := Text.dropTail (· == '0') part
  ⟨negative && !(whole.isEmpty && part.isEmpty), whole, part, rest⟩

/-- How the sizes of two numbers compare. -/
def compareSizes (a b : PlainNumber) : Ordering :=
  (compareNat a.whole.length b.whole.length).then
    ((compareBytes a.whole b.whole).then (compareBytes a.part b.part))

/-- How two decimal numbers compare. -/
def compareNumbers (a b : PlainNumber) : Ordering :=
  match a.negative, b.negative with
  | false, false => compareSizes a b
  | true, true => compareSizes b a
  | true, false => .lt
  | false, true => .gt

/-- The rank of the unit after a number. -/
def unitRank (n : PlainNumber) : Int :=
  if n.whole.isEmpty && n.part.isEmpty then 0
  else
    match n.rest with
    | c :: _ =>
      let c := if c == 'k' then 'K' else c
      let rank := (("KMGTPEZYRQ".toList.findIdx? (· == c)).map (· + 1)).getD 0
      if n.negative then -Int.ofNat rank else Int.ofNat rank
    | [] => 0

/-- The number of a month whose name a text begins with. -/
def monthOf (cs : List Char) : Nat :=
  let name := ((cs.dropWhile isFieldBlank).take 3).map Char.toUpper
  let names := ["JAN", "FEB", "MAR", "APR", "MAY", "JUN", "JUL", "AUG", "SEP", "OCT", "NOV", "DEC"]
  ((names.findIdx? fun n => n.toList == name).map (· + 1)).getD 0

/-- The class and the order of a number in any writing: none, not a number, less than all, a
number, more than all. -/
def generalRank (cs : List Char) : Nat × Int × Nat :=
  match Decimal.readQuantity cs with
  | none => (0, 0, 1)
  | some r =>
    match r.value with
    | .notANumber _ => (1, 0, 1)
    | .infinite true => (2, 0, 1)
    | .finite negative num den => (3, if negative then -Int.ofNat num else Int.ofNat num, den)
    | .infinite false => (4, 0, 1)

/-- The rank of a byte within a version: a tilde comes before the end, letters before others. -/
def versionRank (c : Char) : Nat :=
  if c == '~' then 0 else if c.isAlpha then 2 + c.toNat else 300 + c.toNat

/-- How two versions compare: runs of digits as numbers, what is between them byte by byte. -/
def compareVersions : Nat → List Char → List Char → Ordering
  | 0, _, _ => .eq
  | _, [], [] => .eq
  | fuel + 1, a, b =>
    let restOf (cs : List Char) : List Char := cs.dropWhile fun c => !c.isDigit
    let textOf (cs : List Char) : List Nat :=
      (cs.takeWhile fun c => !c.isDigit).map versionRank ++ [1]
    let rec compareRanks : List Nat → List Nat → Ordering
      | [], [] => .eq
      | [], _ => .lt
      | _, [] => .gt
      | x :: xs, y :: ys => (compareNat x y).then (compareRanks xs ys)
    let digits (cs : List Char) : List Char := cs.takeWhile Char.isDigit
    let a' := restOf a
    let b' := restOf b
    (compareRanks (textOf a) (textOf b)).then
      ((compareNat (Text.natOfDigits (digits a')) (Text.natOfDigits (digits b'))).then
        (compareVersions fuel (a'.drop (digits a').length) (b'.drop (digits b').length)))

/-- How two texts compare. -/
def KeyOrder.compare (o : KeyOrder) (a b : List Char) : Ordering :=
  let r :=
    if o.numeric then compareNumbers (plainNumber a) (plainNumber b)
    else if o.general then
      let (ca, na, da) := generalRank a
      let (cb, nb, db) := generalRank b
      (compareNat ca cb).then (Ord.compare (na * db) (nb * da))
    else if o.human then
      let x := plainNumber a
      let y := plainNumber b
      (Ord.compare (unitRank x) (unitRank y)).then (compareNumbers x y)
    else if o.month then compareNat (monthOf a) (monthOf b)
    else if o.version then compareVersions (a.length + b.length + 1) a b
    else
      let kept (cs : List Char) : List Char :=
        let cs := if o.dictionary then cs.filter fun c => c.isAlphanum || isFieldBlank c else cs
        let cs := if o.printing then cs.filter Text.isPrintable else cs
        if o.fold then cs.map Char.toUpper else cs
      compareBytes (kept a) (kept b)
  if o.reverse then r.swap else r

/-- How lines are sorted. -/
structure Sorting where
  separator? : Option Char := none
  keys : List Key
  /-- Whether lines are compared as a whole if their keys are equal. -/
  comparesWhole : Bool := true
  reverse : Bool := false

/-- How the keys of two lines compare. -/
def Sorting.compareKeys (s : Sorting) (a b : List Char) : List Key → Ordering
  | [] => .eq
  | k :: rest =>
    (k.order.compare (k.of s.separator? a) (k.of s.separator? b)).then (s.compareKeys a b rest)

/-- How two lines compare. -/
def Sorting.compare (s : Sorting) (a b : List Char) : Ordering :=
  let byKeys := s.compareKeys a b s.keys
  if byKeys != .eq then byKeys
  else if s.keys.isEmpty || s.comparesWhole then
    let whole := compareBytes a b
    if s.reverse then whole.swap else whole
  else .eq

/-! ## Reading keys -/

/-- The order with that of a letter added. -/
def KeyOrder.add (o : KeyOrder) (c : Char) : KeyOrder :=
  match c with
  | 'n' => { o with numeric := true }
  | 'g' => { o with general := true }
  | 'h' => { o with human := true }
  | 'M' => { o with month := true }
  | 'V' => { o with version := true }
  | 'd' => { o with dictionary := true }
  | 'i' => { o with printing := true }
  | 'f' => { o with fold := true }
  | 'r' => { o with reverse := true }
  | _ => o

/-- Reads a number at the begin of a text. -/
def takeNumber (cs : List Char) : Option (Nat × List Char) :=
  let digits := cs.takeWhile Char.isDigit
  if digits.isEmpty then none else some (Text.natOfDigits digits, cs.drop digits.length)

/-- The letters of orders at the begin of a text. -/
def takeOrders (cs : List Char) : List Char × List Char :=
  let isOrder (c : Char) : Bool := "bdfghiMnRrV".toList.contains c
  (cs.takeWhile isOrder, cs.dropWhile isOrder)

/-- The key that a word tells, and whether it has an order of its own, or what is wrong. -/
def keyOf (word : String) : Except String (Key × Bool) := do
  let bad {α : Type} (what : String) : Except String α :=
    .error (what ++ ": invalid field specification " ++ Text.alwaysQuoted word)
  let wrongCount {α : Type} (what : String) (cs : List Char) : Except String α :=
    .error (what ++ ": invalid count at start of " ++ Text.alwaysQuoted (String.ofList cs))
  match takeNumber word.toList with
  | none => wrongCount "invalid number at field start" word.toList
  | some (0, _) => bad "field number is zero"
  | some (f, rest) =>
    let (c, rest) ← match rest with
      | '.' :: r =>
        match takeNumber r with
        | none => wrongCount "invalid number after '.'" r
        | some (0, _) => bad "character offset is zero"
        | some (n, r) => pure (n - 1, r)
      | r => pure (0, r)
    let (startOrders, rest) := takeOrders rest
    let (endField?, endChar, endOrders, rest) ← match rest with
      | ',' :: r =>
        match takeNumber r with
        | none => wrongCount "invalid number after ','" r
        | some (0, _) => bad "field number is zero"
        | some (n, r) =>
          let (e, r) ← match r with
            | '.' :: r =>
              match takeNumber r with
              | none => wrongCount "invalid number after '.'" r
              | some (n, r) => pure (n, r)
            | r => pure (0, r)
          let (orders, r) := takeOrders r
          pure (some (n - 1), e, orders, r)
      | r => pure (none, 0, [], r)
    if !rest.isEmpty then bad "stray character in field spec"
    else
      let orders := startOrders ++ endOrders
      let key : Key :=
        { startField := f - 1
          startChar := c
          endField? := endField?
          endChar := endChar
          skipsStartBlanks := startOrders.contains 'b'
          skipsEndBlanks := endOrders.contains 'b'
          order := orders.foldl KeyOrder.add {} }
      return (key, !orders.isEmpty)

/-! ## The programs -/

/-- Removes lines that compare equal to the one before. -/
def withoutRepeats (s : Sorting) : List (List Char) → List (List Char)
  | a :: b :: rest =>
    if s.compareKeys a b s.keys == .eq then withoutRepeats s (a :: rest)
    else a :: withoutRepeats s (b :: rest)
  | lines => lines
termination_by lines => lines.length

/-- The number of the first line that does not come after the one before. -/
def firstDisorder (isUnique : Bool) (s : Sorting) : Nat → List (List Char) → Option (Nat × List Char)
  | n, a :: b :: rest =>
    let r := s.compare a b
    if r == .gt || (isUnique && r == .eq) then some (n + 1, b)
    else firstDisorder isUnique s (n + 1) (b :: rest)
  | _, _ => none

/-- Lists merged: the first line of one of them comes next, the earliest one that none of the
others precedes. -/
def mergeAll {α : Type} (precedes : α → α → Bool) (files : List (List α)) : List α :=
  files.foldr (fun here others => List.merge here others precedes) []

/-- Ends the program if one of some files cannot be opened. -/
def checkReadable (paths : List String) : Work Unit :=
  paths.forM fun path => do
    if path != "-" then
      match ← act (Act.openFile path .input) with
      | .ok d => act (Act.close d)
      | .error e => die ("cannot read: " ++ Text.quotedIfNeeded path ++ ": " ++ e.words)

/-- The lines of each of some files. -/
def readLines (stop : Char) : List String → Work (List (List (List Char)))
  | [] => pure []
  | path :: rest => do
    match ← act (readInput path) with
    | .ok text =>
      let here := (linesOf stop text).map (·.chars)
      let others ← readLines stop rest
      return here :: others
    | .error .isDirectory => die ("read failed: " ++ Text.quotedIfNeeded path ++ ": Is a directory")
    | .error e => die ("cannot read: " ++ Text.quotedIfNeeded path ++ ": " ++ e.words)

/-- Sorts lines. -/
def sort (words : List String) : Work Unit := do
  let g := grammar "bcCdfgihk:mMno:rRsS:t:T:uVz"
    [("ignore-leading-blanks", 'b'), ("dictionary-order", 'd'), ("ignore-case", 'f'),
     ("general-numeric-sort", 'g'), ("ignore-nonprinting", 'i'), ("month-sort", 'M'),
     ("human-numeric-sort", 'h'), ("numeric-sort", 'n'), ("reverse", 'r'), ("version-sort", 'V'),
     ("key", 'k'), ("merge", 'm'), ("output", 'o'), ("stable", 's'), ("field-separator", 't'),
     ("unique", 'u'), ("zero-terminated", 'z')]
  let g := { g with names := ("check", 'c', .perhaps) :: g.names }
  let t ← readOptions g words
  let stop := if t.has 'z' then '\x00' else '\n'
  let common := (t.options.map (·.key)).foldl KeyOrder.add {}
  let mut keys : List Key := []
  for o in t.options do
    if o.key == 'k' then
      match keyOf (o.word?.getD "") with
      | .error message => die message
      | .ok (key, isOwn) =>
        let key := if isOwn || key.skipsStartBlanks then key
          else { key with
            order := common, skipsStartBlanks := t.has 'b', skipsEndBlanks := t.has 'b' }
        keys := keys ++ [key]
  let separator? ← match t.word? 't' with
    | none => pure none
    | some "" => die "empty tab"
    | some w =>
      match w.toList with
      | [c] => pure (some c)
      | ['\\', '0'] => pure (some '\x00')
      | _ => die ("multi-character tab " ++ Text.alwaysQuoted w)
  let isPlain := common = { reverse := common.reverse } && !t.has 'b'
  if keys.isEmpty && (!isPlain || t.has 'u') then
    keys := [{ order := common, skipsStartBlanks := t.has 'b' }]
  for key in keys do
    match key.order.clash? with
    | some letters => die ("options '-" ++ letters ++ "' are incompatible")
    | none => pure ()
  let s : Sorting :=
    { separator? := separator?
      keys := keys
      comparesWhole := !(t.has 's' || t.has 'u')
      reverse := common.reverse }
  let paths := if t.operands.isEmpty then ["-"] else t.operands
  let isCheck := t.has 'c' || t.has 'C'
  if isCheck then
    match paths with
    | _ :: extra :: _ =>
      die ("extra operand " ++ Text.alwaysQuoted extra ++ " not allowed with -" ++
        (if t.has 'c' then "c" else "C"))
    | _ => pure ()
  checkReadable paths
  let files ← readLines stop paths
  let lines := files.flatten
  if isCheck then
    match firstDisorder (t.has 'u') s 1 lines with
    | none => pure ()
    | some (n, line) =>
      if !t.has 'C' then
        complain (Text.quotedIfNeeded (paths.headD "-") ++ ":" ++ toString n ++ ": disorder: " ++
          String.ofList line)
      leave 1
  else
    let precedes (a b : List Char) : Bool := s.compare a b != .gt
    let sorted := if t.has 'm' then mergeAll precedes files else lines.mergeSort precedes
    let shown := if t.has 'u' then withoutRepeats s sorted else sorted
    let text := String.join (shown.map fun l => String.ofList l ++ String.singleton stop)
    match t.word? 'o' with
    | none => put text
    | some path =>
      match ← act (Act.openFile path .output) with
      | .ok d =>
        let _ ← act (Act.write d text)
      | .error e => die ("open failed: " ++ Text.quotedIfNeeded path ++ ": " ++ e.words)

/-- What of a line counts when lines are compared. -/
def countedPart (t : Taken) (cs : List Char) : List Char :=
  let number (key : Char) : Nat := ((t.word? key).bind decimal?).getD 0
  let cs := dropFields none (number 'f') cs
  let cs := cs.drop (number 's')
  let cs := match (t.word? 'w').bind decimal? with
    | some n => cs.take n
    | none => cs
  if t.has 'i' then cs.map Char.toUpper else cs

/-- Rows of equal lines: the first line and how many there are. -/
def groups (t : Taken) : List (List Char) → List (List Char × List (List Char))
  | [] => []
  | line :: rest =>
    match groups t rest with
    | (first, others) :: more =>
      if countedPart t first == countedPart t line then (line, first :: others) :: more
      else (line, []) :: (first, others) :: more
    | [] => [(line, [])]

/-- Prints one of each row of equal lines. -/
def uniq (words : List String) : Work Unit := do
  let g := grammar "cdDf:is:uw:z" [("count", 'c'), ("repeated", 'd'), ("skip-fields", 'f'),
    ("ignore-case", 'i'), ("skip-chars", 's'), ("unique", 'u'), ("check-chars", 'w'),
    ("zero-terminated", 'z')]
  let t ← readOptions g words
  let stop := if t.has 'z' then '\x00' else '\n'
  for (key, what) in [('f', "number of fields to skip"), ('s', "number of bytes to skip"),
      ('w', "number of bytes to compare")] do
    match t.word? key with
    | some w =>
      if (decimal? w).isNone then
        die (Text.quotedUnlessPlain w ++ ": invalid " ++ what)
    | none => pure ()
  match t.operands with
  | _ :: _ :: extra :: _ => extraOperand extra
  | _ => pure ()
  let path := t.operands.headD "-"
  let d ← match ← act (openInput path) with
    | .ok d => pure d
    | .error e => die (Text.quotedIfNeeded path ++ ": " ++ e.words)
  let out? : Option Nat ← match t.operands with
    | [_, path] =>
      if path = "-" then pure none
      else
        match ← act (Act.openFile path .output) with
        | .ok d => pure (some d)
        | .error e => die (Text.quotedIfNeeded path ++ ": " ++ e.words)
    | _ => pure none
  match ← act (Act.readAll d) with
  | .error e => die ("error reading " ++ Text.alwaysQuoted path ++ ": " ++ e.words)
  | .ok text =>
    let all := groups t ((linesOf stop text).map (·.chars))
    let shown := all.filter fun g =>
      if t.has 'd' || t.has 'D' then !g.2.isEmpty && !t.has 'u' else !t.has 'u' || g.2.isEmpty
    let line (cs : List Char) : String := String.ofList cs ++ String.singleton stop
    let out := String.join (shown.map fun (first, others) =>
      if t.has 'D' then String.join ((first :: others).map line)
      else if t.has 'c' then
        let n := toString (others.length + 1)
        "".pushn ' ' (7 - n.length) ++ n ++ " " ++ line first
      else line first)
    match out? with
    | some d =>
      let _ ← act (Act.write d out)
    | none => put out

end LintLedger.Utility
