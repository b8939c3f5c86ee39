import LintLedger.Text.Directive
import LintLedger.Utility.Basic

/-!
# Rows of numbers

Numbers from a first to a last one by a step are printed, all with as many places as the first
and the step have.

## Main Definitions

* `Term` -- a number with the way it was written
* `seq` -- prints a row of numbers
-/

namespace LintLedger.Utility

open LintLedger.Machine

/-- A number with the way it was written. -/
structure Term where
  value : Decimal.Quantity
  /-- How many characters it takes. -/
  width : Nat
  /-- How many places it has, if that can be told. -/
  places? : Option Nat

/-- The fraction that decimal digits with a point and an exponent are. -/
def exactFraction (cs : List Char) : Nat × Nat :=
  let whole := cs.takeWhile Char.isDigit
  let rest := cs.drop whole.length
  let (part, rest) := match rest with
    | '.' :: r => (r.takeWhile Char.isDigit, r.dropWhile Char.isDigit)
    | r => ([], r)
  let (e, _) := Decimal.readExponent ['e', 'E'] rest
  let digits := Text.natOfDigits (whole ++ part)
  let power := e - Int.ofNat part.length
  if 0 ≤ power then (digits * Nat.pow 10 (min power.toNat 5000), 1)
  else (digits, Nat.pow 10 (min (-power).toNat 5000))

/-- The number that a text is, exactly. -/
def exactOf? (text : String) : Option Decimal.Quantity :=
  match Decimal.readQuantity text.toList with
  | none => none
  | some r =>
    if !r.rest.isEmpty then none
    else
      match r.value with
      | .finite negative _ _ =>
        let bare := text.toList.dropWhile fun c => Text.isNumberBlank c || c == '+' || c == '-'
        if bare.any fun c => c == 'x' || c == 'X' then some r.value
        else
          let (num, den) := exactFraction bare
          some (.finite negative num den)
      | v => some v

/-- The width and the places of a number by the way it is written. -/
def shapeOf (cs : List Char) : Nat × Option Nat :=
  if cs.any fun c => c == 'x' || c == 'X' then
    (0, if cs.any fun c => c == '.' || c == 'p' then none else some 0)
  else
    let before := cs.takeWhile (· != '.')
    let hasPoint := before.length < cs.length
    let fraction := ((cs.drop before.length).drop 1).takeWhile fun c => c != 'e' && c != 'E'
    let isBare := !((before.getLast?.map Char.isDigit).getD false)
    let width : Int := cs.length +
      if !hasPoint then 0 else if fraction.isEmpty then -1 else if isBare then 1 else 0
    let mantissa := cs.takeWhile fun c => c != 'e' && c != 'E'
    let places : Int := if hasPoint then fraction.length else 0
    if mantissa.length = cs.length then (width.toNat, some places.toNat)
    else
      let (e, _) := Decimal.readExponent ['e', 'E'] (cs.drop mantissa.length)
      let newPlaces := places + if e < 0 then -e else -(min places e)
      let width := width - (cs.length - mantissa.length)
      let width :=
        if e < 0 then
          (if hasPoint then (if fraction.isEmpty then width + 1 else width) else width + 1) + -e
        else
          let width := if hasPoint && newPlaces = 0 && !fraction.isEmpty then width - 1 else width
          width + (e - min (Int.ofNat fraction.length) e)
      (width.toNat, some newPlaces.toNat)

/-- The number that a word is. -/
def readTerm (word : String) : Work Term := do
  match exactOf? word with
  | none => misuse ("invalid floating point argument: " ++ Text.alwaysQuoted word)
  | some (.notANumber _) =>
    misuse ("invalid 'not-a-number' argument: " ++ Text.alwaysQuoted word)
  | some v =>
    let bare := word.toList.dropWhile fun c => Text.isNumberBlank c || c == '+'
    let (width, places?) := shapeOf bare
    return ⟨v, width, places?⟩

/-- A number as a fraction with a sign. -/
def signed : Decimal.Quantity → Option (Int × Nat)
  | .finite negative num den => some (if negative then -Int.ofNat num else Int.ofNat num, den)
  | _ => none

/-- How the numbers are written: what comes before and after, and the directive between. -/
structure Style where
  before : String := ""
  directive : Text.Directive
  after : String := ""

/-- A number in a style. -/
def Style.text (s : Style) (num : Int) (den : Nat) : String :=
  s.before ++ s.directive.quantity (.finite (decide (num < 0)) num.natAbs den) ++ s.after

/-- The characters of a format up to its directive, a percent sign written twice being one. -/
def untilDirective : List Char → List Char × List Char
  | '%' :: '%' :: rest =>
    let (before, after) := untilDirective rest
    ('%' :: before, after)
  | '%' :: rest => ([], '%' :: rest)
  | c :: rest =>
    let (before, after) := untilDirective rest
    (c :: before, after)
  | [] => ([], [])

/-- The style that a format asks for. -/
def styleOf (format : String) : Work Style := do
  let shown := Text.alwaysQuoted format
  match untilDirective format.toList with
  | (_, []) => die ("format " ++ shown ++ " has no % directive")
  | (before, _ :: rest) =>
    let flags := rest.takeWhile fun c => "-+#0 '".toList.contains c
    let rest := rest.drop flags.length
    let width := rest.takeWhile Char.isDigit
    let rest := rest.drop width.length
    let (precision?, rest) : Option Nat × List Char := match rest with
      | '.' :: r =>
        (some (Text.natOfDigits (r.takeWhile Char.isDigit)), r.dropWhile Char.isDigit)
      | r => (none, r)
    let rest := if rest.head? = some 'L' then rest.tail else rest
    match rest with
    | [] => die ("format " ++ shown ++ " ends in %")
    | kind :: rest =>
      if !"efgaEFGA".toList.contains kind then
        die ("format " ++ shown ++ " has unknown %" ++ String.singleton kind ++ " directive")
      else
        match untilDirective rest with
        | (after, []) =>
          return { before := String.ofList before
                   directive :=
                    { left := flags.contains '-'
                      plus := flags.contains '+'
                      blank := flags.contains ' '
                      full := flags.contains '#'
                      zero := flags.contains '0'
                      width := Text.natOfDigits width
                      precision? := precision?
                      kind := kind }
                   after := String.ofList after }
        | _ => die ("format " ++ shown ++ " has too many % directives")

/-- The style in which numbers are written if nobody asks for another. -/
def standardStyle (isEqual : Bool) (first step last : Term) : Style :=
  match first.places?, step.places?, last.places? with
  | some a, some b, some c =>
    let places := max a b
    let point (before after : Nat) : Int :=
      if before = 0 && after != 0 then 1 else 0
    let firstWidth : Int := first.width + (places - a) + point a places
    let lastWidth : Int := last.width + (Int.ofNat places - c) +
      point c places - (if c != 0 && places = 0 then 1 else 0)
    let width := if isEqual then (max firstWidth lastWidth).toNat else 0
    { directive := { zero := isEqual, width := width, precision? := some places, kind := 'f' } }
  | _, _, _ => { directive := { kind := 'g' } }

/-- Prints the numbers from `num`/`den` on; with a last one, up to that. -/
def putRow (style : Style) (separator : String) (step : Int) (den : Nat) (last? : Option Int) :
    Nat → Bool → Int → Work Unit
  | 0, _, _ => pure ()
  | turns + 1, isFirst, num => do
    let isOver : Bool := match last? with
      | some last => if step < 0 then decide (num < last) else decide (last < num)
      | none => false
    if isOver then (if isFirst then pure () else put "\n")
    else
      put ((if isFirst then "" else separator) ++ style.text num den)
      putRow style separator step den last? turns false (num + step)

/-- Whether a word begins as a negative number does. -/
def isNegativeNumber (word : String) : Bool :=
  match word.toList with
  | '-' :: c :: _ => c == '.' || c.isDigit
  | _ => false

/-- Prints a row of numbers. -/
def seq (words : List String) : Work Unit := do
  -- A negative number ends the options.
  let options := words.takeWhile fun w => !isNegativeNumber w
  let g := grammar "f:s:w" [("equal-width", 'w'), ("format", 'f'), ("separator", 's')]
  let t ← readOptions { g with stops := true } options
  let operands := t.operands ++ words.drop options.length
  if operands.isEmpty then misuse "missing operand"
  else if 3 < operands.length then extraOperand ((operands.drop 3).headD "")
  else
    let style? ← match t.word? 'f' with
      | some f => do pure (some (← styleOf f))
      | none => pure none
    if style?.isSome && t.has 'w' then
      misuse "format string may not be specified when printing equal width strings"
    let one : Term := ⟨.finite false 1 1, 1, some 0⟩
    let (first, step, last) ← match operands with
      | [a] => do pure (one, one, ← readTerm a)
      | [a, b] => do
        let first ← readTerm a
        pure (first, one, ← readTerm b)
      | a :: b :: rest => do
        let first ← readTerm a
        let step ← readTerm b
        if (signed step.value).map (·.1) = some 0 then
          misuse ("invalid Zero increment value: " ++ Text.alwaysQuoted b)
        let last ← readTerm (rest.headD "")
        pure (first, step, last)
      | [] => pure (one, one, one)
    let style := style?.getD (standardStyle (t.has 'w') first step last)
    let separator := (t.word? 's').getD "\n"
    match signed first.value, signed step.value with
    | some (a, da), some (b, db) =>
      let run (den : Nat) (last? : Option Int) : Work Unit :=
        putRow style separator (b * (den / db)) den last? Act.manyTurns true (a * (den / da))
      match last.value with
      | .finite _ _ dc =>
        let den := da * db * dc
        let c := ((signed last.value).map (·.1)).getD 0
        run den (some (c * (den / dc)))
      | .infinite negative =>
        if negative = (b < 0) then run (da * db) none else pure ()
      | .notANumber _ => pure ()
    | _, _ => pure ()

end LintLedger.Utility
