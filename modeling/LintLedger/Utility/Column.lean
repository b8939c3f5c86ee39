import LintLedger.Text.Integer
import LintLedger.Utility.Stream

/-!
# Programs on the columns of lines

Parts of lines are cut out, and characters are replaced one by one.

## Main Definitions

* `Ranges`, `cut` -- the parts of lines whose numbers are told
* `CharSet`, `tr` -- characters replaced
-/

namespace LintLedger.Utility

open LintLedger.Machine

/-! ## Parts by their numbers -/

/-- Rows of numbers, each from a first to a last one if there is a last. -/
abbrev Ranges := List (Nat × Option Nat)

/-- Whether a number belongs to one of the rows. -/
def inRanges (rs : Ranges) (n : Nat) : Bool :=
  rs.any fun (a, b?) => a ≤ n && match b? with
    | some b => n ≤ b
    | none => true

/-- What is wrong with a list of numbers. -/
def rangeFault (byField : Bool) (word : String) : String :=
  "invalid " ++ (if byField then "field" else "byte/character") ++ " " ++ word

/-- The row that a text tells. -/
def rangeOf (byField : Bool) (text : String) : Except String (Nat × Option Nat) := do
  let number (cs : List Char) : Except String Nat :=
    match Text.natOf? cs with
    | some n => .ok n
    | none =>
      .error (rangeFault byField
        ((if byField then "value " else "position ") ++ Text.alwaysQuoted (String.ofList cs)))
  let zero {α : Type} : Except String α :=
    .error ((if byField then "fields" else "byte/character positions") ++ " are numbered from 1")
  let first := text.toList.takeWhile (· != '-')
  match text.toList.drop first.length with
  | [] =>
    if first.isEmpty then zero
    else
      let n ← number first
      if n = 0 then zero else return (n, some n)
  | _ :: last =>
    if first.isEmpty && last.isEmpty then .error "invalid range with no endpoint: -"
    else
      let a ← if first.isEmpty then pure 1 else number first
      if a = 0 then zero
      else
        let b? ← if last.isEmpty then pure none else (number last).map some
        match b? with
        | some b => if b < a then .error "invalid decreasing range" else return (a, some b)
        | none => return (a, none)

/-- The rows that a word tells, joined where they overlap, in ascending order. -/
def rangesOf (byField : Bool) (word : String) : Except String Ranges := do
  let parts := Text.splitOnChar (fun c => c == ',' || c == ' ' || c == '\t') word
  let all ← parts.mapM (rangeOf byField)
  let sorted := all.mergeSort fun a b => decide (a.1 ≤ b.1)
  return sorted.foldr (fun (a, b?) done =>
    match b?, done with
    | some b, (c, d?) :: rest =>
      if c ≤ b then (a, match d? with
        | some d => some (max b d)
        | none => none) :: rest
      else (a, some b) :: (c, d?) :: rest
    | none, _ => [(a, none)]
    | _, [] => [(a, b?)]) []

/-- The parts of a list whose numbers belong to the rows, in stretches that lie apart. -/
def stretches {α : Type} (rs : Ranges) (isInverted : Bool) (parts : List α) : List (List α) :=
  let numbered := parts.zipIdx 1
  let startsRange (n : Nat) : Bool := !isInverted && rs.any fun r => r.1 == n
  let chosen := numbered.filter fun (_, n) => inRanges rs n != isInverted
  chosen.foldr (fun (x, n) done =>
    match done with
    | stretch :: rest =>
      let goesOn := chosen.any fun (_, m) => m == n + 1
      if goesOn && !startsRange (n + 1) then (x :: stretch) :: rest else [x] :: stretch :: rest
    | [] => [[x]]) []

/-- How lines are cut. -/
structure Cutting where
  ranges : Ranges
  byField : Bool
  delimiter : Char
  isInverted : Bool
  onlyDelimited : Bool
  joint? : Option String

/-- What is left of a line, if it is printed. -/
def Cutting.line? (x : Cutting) (cs : List Char) : Option String :=
  if x.byField then
    if !cs.contains x.delimiter then (if x.onlyDelimited then none else some (String.ofList cs))
    else
      let fields := Text.splitOnChar (· == x.delimiter) (String.ofList cs)
      let kept := (fields.zipIdx 1).filter fun (_, n) => inRanges x.ranges n != x.isInverted
      some ((x.joint?.getD (String.singleton x.delimiter)).intercalate (kept.map (·.1)))
  else
    match x.joint? with
    | none =>
      some (String.ofList (((cs.zipIdx 1).filter fun (_, n) =>
        inRanges x.ranges n != x.isInverted).map (·.1)))
    | some joint => some (joint.intercalate ((stretches x.ranges x.isInverted cs).map String.ofList))

/-- Maps the lines of a source, in at most so many turns. -/
def mapLinesWithin (f : List Char → Option String) (stop : Char) : Nat → Source → Work Source
  | 0, s => pure s
  | turns + 1, s => do
    match ← act (nextLineWithin stop Act.manyTurns [] s) with
    | (none, s) => return s
    | (some line, s) =>
      match f line.chars with
      | some text => put (text ++ String.singleton stop)
      | none => pure ()
      mapLinesWithin f stop turns s

/-- Maps the lines of files. -/
def mapLines (f : List Char → Option String) (stop : Char) (operands : List String) : Work Unit :=
  (if operands.isEmpty then ["-"] else operands).forM fun path => do
    match ← act (openInput path) with
    | .error e => warnFile path e
    | .ok d =>
      let s ← mapLinesWithin f stop Act.manyTurns (Source.of d)
      match s.fault? with
      | some e => warnFile path e
      | none => pure ()
      act (closeInput d)

/-- Prints parts of lines. -/
def cut (words : List String) : Work Unit := do
  let t ← readOptions (grammar "b:c:d:f:nsOz"
    [("bytes", 'b'), ("characters", 'c'), ("fields", 'f'), ("delimiter", 'd'),
     ("only-delimited", 's'), ("zero-terminated", 'z')] |> fun g =>
      { g with
          letters := g.letters.filter fun l => l.1 != 'O'
          names := ("complement", 'O', .nothing) :: ("output-delimiter", 'D', .word) :: g.names })
    words
  let lists := t.options.filter fun o => "bcf".toList.contains o.key
  match lists with
  | [] => misuse "you must specify a list of bytes, characters, or fields"
  | _ :: _ :: _ => misuse "only one list may be specified"
  | [o] =>
    let byField := o.key == 'f'
    let delimiter ← match t.word? 'd' with
      | none => pure '\t'
      | some "" => pure '\x00'
      | some w =>
        match w.toList with
        | [c] => pure c
        | _ => misuse "the delimiter must be a single character"
    if t.has 'd' && !byField then
      misuse "an input delimiter may be specified only when operating on fields"
    if t.has 's' && !byField then
      misuse ("suppressing non-delimited lines makes sense\n" ++
        "\tonly when operating on fields")
    match rangesOf byField (o.word?.getD "") with
    | .error message => misuse message
    | .ok ranges =>
      let x : Cutting :=
        { ranges := ranges
          byField := byField
          delimiter := delimiter
          isInverted := t.has 'O'
          onlyDelimited := t.has 's'
          joint? := t.word? 'D' }
      mapLines x.line? (if t.has 'z' then '\x00' else '\n') t.operands

/-! ## Characters -/

/-- The characters of a class. -/
def classChars? (name : String) : Option (List Char) :=
  let all := (List.range 256).map Char.ofNat
  let isPunct (c : Char) : Bool := Text.isPrintable c && c != ' ' && !c.isAlphanum
  match name with
  | "alnum" => some (all.filter Char.isAlphanum)
  | "alpha" => some (all.filter Char.isAlpha)
  | "blank" => some ['\t', ' ']
  | "cntrl" => some (all.filter fun c => c.toNat < 32 || c.toNat = 127)
  | "digit" => some (all.filter Char.isDigit)
  | "graph" => some (all.filter fun c => Text.isPrintable c && c != ' ')
  | "lower" => some (all.filter Char.isLower)
  | "print" => some (all.filter Text.isPrintable)
  | "punct" => some (all.filter isPunct)
  | "space" => some ['\t', '\n', '\x0b', '\x0c', '\r', ' ']
  | "upper" => some (all.filter Char.isUpper)
  | "xdigit" => some (all.filter fun c => (Text.digitIn? 16 c).isSome)
  | _ => none

/-- A part of a set of characters. -/
inductive SetPart where
  | chars (cs : List Char)
  | class (name : String) (cs : List Char)
  /-- A character so often, or as often as is needed. -/
  | copies (c : Char) (count : Nat)

/-- A character with its escape taken apart, whether it was one, and the rest. -/
def setChar (cs : List Char) : Option (Char × Bool × List Char) :=
  match cs with
  | [] => none
  | ['\\'] => some ('\\', false, [])
  | '\\' :: c :: rest =>
    if (Text.digitIn? 8 c).isSome then
      let digits := ((c :: rest).take 3).takeWhile fun c => (Text.digitIn? 8 c).isSome
      let value := (Text.digitsIn 8 0 digits).1
      let digits := if 255 < value then digits.take 2 else digits
      some (Char.ofNat (Text.digitsIn 8 0 digits).1, true, (c :: rest).drop digits.length)
    else
      let x := match c with
        | 'a' => '\x07'
        | 'b' => '\x08'
        | 'f' => '\x0c'
        | 'n' => '\n'
        | 'r' => '\r'
        | 't' => '\t'
        | 'v' => '\x0b'
        | c => c
      some (x, true, rest)
  | c :: rest => some (c, false, rest)

/-- A class, an equivalence or a repetition in brackets at the begin of a set. -/
def bracketPart? (cs : List Char) : Except String (Option (SetPart × List Char)) :=
  match cs with
  | '[' :: ':' :: rest =>
    let name := rest.takeWhile fun c => c != ':'
    match rest.drop name.length with
    | ':' :: ']' :: after =>
      match classChars? (String.ofList name) with
      | some all => .ok (some (.class (String.ofList name) all, after))
      | none => .error ("invalid character class " ++ Text.alwaysQuoted (String.ofList name))
    | _ => .ok none
  | '[' :: '=' :: c :: '=' :: ']' :: after => .ok (some (.chars [c], after))
  | '[' :: rest =>
    match setChar rest with
    | some (c, _, '*' :: more) =>
      let digits := more.takeWhile (· != ']')
      match more.drop digits.length with
      | ']' :: after =>
        let base := if digits.head? = some '0' then 8 else 10
        if digits.all fun d => (Text.digitIn? base d).isSome then
          .ok (some (.copies c (Text.digitsIn base 0 digits).1, after))
        else
          .error ("invalid repeat count " ++ Text.alwaysQuoted (String.ofList digits) ++
            " in [c*n] construct")
      | _ => .ok none
    | _ => .ok none
  | _ => .ok none

/-- The parts of a set. -/
def setParts : Nat → List Char → Except String (List SetPart)
  | 0, _ => .ok []
  | _, [] => .ok []
  | fuel + 1, cs => do
    match ← bracketPart? cs with
    | some (part, rest) => return part :: (← setParts fuel rest)
    | none =>
      match setChar cs with
      | none => return []
      | some (a, _, '-' :: rest) =>
        match setChar rest with
        | some (b, _, after) =>
          if b < a then
            .error ("range-endpoints of " ++ Text.alwaysQuoted (String.ofList [a, '-', b]) ++
              " are in reverse collating sequence order")
          else
            let all := (List.range (b.toNat + 1 - a.toNat)).map fun i => Char.ofNat (a.toNat + i)
            return .chars all :: (← setParts fuel after)
        | none => return [.chars [a, '-']]
      | some (a, _, rest) => return .chars [a] :: (← setParts fuel rest)

/-- The characters of parts, a repetition without a count filling the set up to a size. -/
def charsOfParts (size : Nat) (parts : List SetPart) : List Char :=
  let fixed := (parts.map fun
    | .chars cs => cs.length
    | .class _ cs => cs.length
    | .copies _ n => n).foldr (· + ·) 0
  (parts.map fun
    | .chars cs => cs
    | .class _ cs => cs
    | .copies c 0 => List.replicate (size - fixed) c
    | .copies c n => List.replicate n c).flatten

/-- Whether a set has a class that only changes the case of letters. -/
def caseClass? (parts : List SetPart) : Option String :=
  parts.findSome? fun
    | .class name _ => if name = "lower" || name = "upper" then some name else none
    | _ => none

/-- What is done with characters. -/
structure Replacing where
  /-- What each byte is replaced by; nothing if it is taken away. -/
  table : Array (Option Char)
  /-- Which characters stand only once where they stand in a row. -/
  squeezed : List Char

/-- Replaces characters; the last one printed is kept in mind. -/
def Replacing.apply (x : Replacing) (last? : Option Char) : List Char → List Char →
    Option Char × List Char
  | done, [] => (last?, done.reverse)
  | done, c :: rest =>
    match (x.table[c.toNat]?).getD (some c) with
    | none => x.apply last? done rest
    | some d =>
      if last? == some d && x.squeezed.contains d then x.apply last? done rest
      else x.apply (some d) (d :: done) rest

/-- Replaces the characters of standard input, in at most so many turns. -/
def replaceWithin (x : Replacing) : Nat → Option Char → Work Unit
  | 0, _ => pure ()
  | turns + 1, last? => do
    match ← act (Act.read 0 Act.chunk) with
    | .error e => die ("read error: " ++ e.words)
    | .ok "" => pure ()
    | .ok text =>
      let (last?, out) := x.apply last? [] text.toList
      put (String.ofList out)
      replaceWithin x turns last?

/-- Replaces, removes or squeezes characters. -/
def tr (words : List String) : Work Unit := do
  let g := grammar "cCdst" [("complement", 'c'), ("delete", 'd'), ("squeeze-repeats", 's'),
    ("truncate-set1", 't')]
  let t ← readOptions { g with stops := true } words
  let deletes := t.has 'd'
  let squeezes := t.has 's'
  let both := deletes == squeezes
  let least := if both then 2 else 1
  let most := if deletes && !squeezes then 1 else 2
  let operands := t.operands
  if operands.length < least then
    match operands with
    | [] => misuse "missing operand"
    | w :: _ =>
      complain ("missing operand after " ++ Text.alwaysQuoted w)
      say (if squeezes then
          "Two strings must be given when both deleting and squeezing repeats.\n"
        else "Two strings must be given when translating.\n")
      hint
      leave 1
  if most < operands.length then
    let extra := (operands.drop most).headD ""
    complain ("extra operand " ++ Text.alwaysQuoted extra)
    if operands.length = 2 then
      say "Only one string may be given when deleting without squeezing repeats.\n"
    hint
    leave 1
  let parts (w : String) : Work (List SetPart) :=
    match setParts (w.length + 1) w.toList with
    | .ok ps => pure ps
    | .error message => die message
  let first ← parts (operands.headD "")
  let second ← parts ((operands.drop 1).headD "")
  let hasSecond := 1 < operands.length
  let isInverted := t.has 'c' || t.has 'C'
  let all := (List.range 256).map Char.ofNat
  let set1 := charsOfParts 0 first
  let set1 := if isInverted then all.filter fun c => !set1.contains c else set1
  let set2 := charsOfParts set1.length second
  let translates := hasSecond && !deletes
  if translates && set2.isEmpty && !t.has 't' && !set1.isEmpty then
    die "when not truncating set1, string2 must be non-empty"
  let table : List (Option Char) :=
    if deletes then all.map fun c => if set1.contains c then none else some c
    else if translates then
      match caseClass? first, caseClass? second, isInverted with
      | some "lower", some "upper", false =>
        all.map fun c => if c.isLower then some c.toUpper else
          match set1.idxOf? c with
          | some i => some ((set2[i]?).getD ((set2.getLast?).getD c))
          | none => some c
      | some "upper", some "lower", false =>
        all.map fun c => if c.isUpper then some c.toLower else
          match set1.idxOf? c with
          | some i => some ((set2[i]?).getD ((set2.getLast?).getD c))
          | none => some c
      | _, _, _ =>
        let pairs := set1.zipIdx
        all.map fun c =>
          -- The last place of a character in the set counts.
          match (pairs.filter fun p => p.1 == c).getLast? with
          | none => some c
          | some (_, i) =>
            match set2[i]? with
            | some d => some d
            | none => if t.has 't' then some c else set2.getLast?
    else all.map some
  let squeezed := if !squeezes then [] else if hasSecond then set2 else set1
  replaceWithin ⟨table.toArray, squeezed⟩ Act.manyTurns none

end LintLedger.Utility
