import LintLedger.Regex.Reader
import LintLedger.Utility.Grep

/-!
# Expressions of words

The words of a program are an expression: numbers and texts with operators between them.

## Main Definitions

* `Evaluation` -- where the evaluation of words is
* `readAny` -- the value of an expression
* `expr` -- prints the value of its words
-/

namespace LintLedger.Utility.Expression

open LintLedger.Machine

/-- What is wrong with words. -/
inductive Fault where
  | missingAfter (word : String)
  | unclosedAfter (word : String)
  | unclosedAt (word : String)
  | unexpectedClose
  | unexpected (word : String)
  | nonInteger
  | divisionByZero
  | badPattern (e : Regex.Fault)
deriving DecidableEq, Repr

/-- What is said of a fault. -/
def Fault.words : Fault → String
  | .missingAfter w => "syntax error: missing argument after " ++ Text.alwaysQuoted w
  | .unclosedAfter w => "syntax error: expecting ')' after " ++ Text.alwaysQuoted w
  | .unclosedAt w => "syntax error: expecting ')' instead of " ++ Text.alwaysQuoted w
  | .unexpectedClose => "syntax error: unexpected ')'"
  | .unexpected w => "syntax error: unexpected argument " ++ Text.alwaysQuoted w
  | .nonInteger => "non-integer argument"
  | .divisionByZero => "division by zero"
  | .badPattern e => e.words

/-- Where the evaluation of words is: the last word, and those to come. -/
structure Evaluation where
  last : String
  rest : List String

/-- An activity of the evaluation. -/
abbrev Eval := StateT Evaluation (Except Fault)

/-- Goes on after a word if it is the next one; the value is whether it was. -/
def took (word : String) : Eval Bool := do
  match (← get).rest with
  | w :: rest =>
    if w = word then
      set (Evaluation.mk w rest)
      return true
    else return false
  | [] => return false

/-- The next word, which must be there. -/
def next : Eval String := do
  let s ← get
  match s.rest with
  | w :: rest =>
    set (Evaluation.mk w rest)
    return w
  | [] => throw (.missingAfter s.last)

/-- The integer that a text is. -/
def integer? (s : String) : Option Int :=
  match s.toList with
  | '-' :: cs => (Text.natOf? cs).map fun n => -Int.ofNat n
  | cs => (Text.natOf? cs).map Int.ofNat

/-- Whether a value counts as nothing. -/
def isNull (s : String) : Bool :=
  s = "" || integer? s = some 0

/-- The text of a truth value. -/
def ofBool (b : Bool) : String := if b then "1" else "0"

/-- What a pattern fits at the begin of a text: its first group, or how long it is. -/
def matched (s pattern : String) : Except Fault String :=
  match Regex.read basicDialect pattern.toList with
  | .error e => .error (.badPattern e)
  | .ok x =>
    let t : Regex.Subject := { chars := s.toList.toArray }
    let hasGroup := 0 < x.groups
    .ok (match x.regex.at? t 0 with
      | none => if hasGroup then "" else "0"
      | some p =>
        if hasGroup then
          match p.group? 1 with
          | some (a, b) => String.ofList (t.chars.extract a b).toList
          | none => ""
        else toString p.finish)

/-- How many of the first characters of a text are none of some. -/
def indexOfAny (s chars : String) : Nat :=
  match s.toList.findIdx? chars.toList.contains with
  | some i => i + 1
  | none => 0

/-- A part of a text from a place on, counted from one. -/
def partOf (s start length : String) : String :=
  match integer? start, integer? length with
  | some i, some n =>
    if i ≤ 0 || n ≤ 0 then "" else String.ofList ((s.toList.drop (i.toNat - 1)).take n.toNat)
  | _, _ => ""

/-- Two values compared: as integers if both are, or else as texts. -/
def order (a b : String) : Ordering :=
  match integer? a, integer? b with
  | some x, some y => compare x y
  | _, _ => compare a b

/-- What a comparison makes of an order. -/
def relation? : String → Option (Ordering → Bool)
  | "<" => some (· == .lt)
  | "<=" => some (· != .gt)
  | "=" => some (· == .eq)
  | "==" => some (· == .eq)
  | "!=" => some (· != .eq)
  | ">=" => some (· != .lt)
  | ">" => some (· == .gt)
  | _ => none

/-- What two integers come to. -/
def calculate (operator : String) (a b : String) : Except Fault String :=
  match integer? a, integer? b with
  | some x, some y =>
    match operator with
    | "+" => .ok (toString (x + y))
    | "-" => .ok (toString (x - y))
    | "*" => .ok (toString (x * y))
    | _ =>
      if y = 0 then .error .divisionByZero
      else .ok (toString (if operator = "/" then x.tdiv y else x.tmod y))
  | _, _ => .error .nonInteger

/-- The operators of each level of how loosely they bind. -/
def operators : Nat → List String
  | 2 => ["<", "<=", "=", "==", "!=", ">=", ">"]
  | 3 => ["+", "-"]
  | 4 => ["*", "/", "%"]
  | _ => [":"]

/-- A value if it counts, or else nothing. -/
def counted (counts : Bool) (v : Except Fault String) : Eval String :=
  if counts then
    match v with
    | .ok s => pure s
    | .error e => throw e
  else pure ""

/-- What an operator of a level makes of two values. -/
def applied (level : Nat) (operator a b : String) : Except Fault String :=
  match level with
  | 2 => .ok (ofBool (((relation? operator).getD fun _ => false) (order a b)))
  | 5 => matched a b
  | _ => calculate operator a b

mutual

/-- The value of an expression; it is not calculated unless it counts. -/
def readAny : Nat → Bool → Eval String
  | 0, _ => do throw (.missingAfter (← get).last)
  | fuel + 1, counts => do
    let a ← readAll fuel counts
    readAnyMore fuel counts a

/-- Reads on after an expression of which one part has to count for something. -/
def readAnyMore : Nat → Bool → String → Eval String
  | 0, _, a => return a
  | fuel + 1, counts, a => do
    if ← took "|" then
      let b ← readAll fuel (counts && isNull a)
      readAnyMore fuel counts (if isNull a then (if isNull b then "0" else b) else a)
    else return a

/-- The value of an expression without alternatives. -/
def readAll : Nat → Bool → Eval String
  | 0, _ => do throw (.missingAfter (← get).last)
  | fuel + 1, counts => do
    let a ← readLevel fuel 2 counts
    readAllMore fuel counts a

/-- Reads on after an expression all parts of which have to count for something. -/
def readAllMore : Nat → Bool → String → Eval String
  | 0, _, a => return a
  | fuel + 1, counts, a => do
    if ← took "&" then
      let b ← readLevel fuel 2 (counts && !isNull a)
      readAllMore fuel counts (if isNull a || isNull b then "0" else a)
    else return a

/-- The value of an expression with operators of a level and of those that bind more. -/
def readLevel : Nat → Nat → Bool → Eval String
  | 0, _, _ => do throw (.missingAfter (← get).last)
  | fuel + 1, level, counts => do
    if level = 6 then readFunction fuel counts
    else
      let a ← readLevel fuel (level + 1) counts
      readMore fuel level counts a

/-- Reads on after an operand of a level. -/
def readMore : Nat → Nat → Bool → String → Eval String
  | 0, _, _, a => return a
  | fuel + 1, level, counts, a => do
    let s ← get
    match s.rest with
    | w :: rest =>
      if (operators level).contains w then
        set (Evaluation.mk w rest)
        let b ← readLevel fuel (level + 1) counts
        readMore fuel level counts (← counted counts (applied level w a b))
      else return a
    | [] => return a

/-- The value of a function of texts, or of what stands alone. -/
def readFunction : Nat → Bool → Eval String
  | 0, _ => do throw (.missingAfter (← get).last)
  | fuel + 1, counts => do
    if ← took "+" then next
    else if ← took "length" then
      let a ← readFunction fuel counts
      return toString a.length
    else if ← took "match" then
      let a ← readFunction fuel counts
      let b ← readFunction fuel counts
      counted counts (matched a b)
    else if ← took "index" then
      let a ← readFunction fuel counts
      let b ← readFunction fuel counts
      return toString (indexOfAny a b)
    else if ← took "substr" then
      let a ← readFunction fuel counts
      let start ← readFunction fuel counts
      let length ← readFunction fuel counts
      return partOf a start length
    else if ← took "(" then
      let a ← readAny fuel counts
      let s ← get
      match s.rest with
      | [] => throw (.unclosedAfter s.last)
      | w :: rest =>
        if w = ")" then
          set (Evaluation.mk w rest)
          return a
        else throw (.unclosedAt w)
    else if ← took ")" then throw .unexpectedClose
    else next

end

/-- The value of words. -/
def evaluate (words : List String) : Except Fault String := do
  let (v, s) ← (readAny (20 * words.length + 40) true).run ⟨"", words⟩
  match s.rest with
  | w :: _ => throw (.unexpected w)
  | [] => return v

/-- Prints the value of its words. -/
def expr (words : List String) : Work Unit := do
  let words := if words.head? = some "--" then words.tail else words
  if words.isEmpty then misuse "missing operand"
  else
    match evaluate words with
    | .error e => die e.words
    | .ok v =>
      putLine v
      if isNull v then modify fun d => { d with status := 1 }

end LintLedger.Utility.Expression
