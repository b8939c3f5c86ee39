import LintLedger.Text.Integer

/-!
# Binary floats and decimals

A finite binary float is `mantissa * 2 ^ exponent`.  Its shortest decimal is the one with the
fewest digits among those that read back as the same float, and the nearest of those; an
exact tie goes to the even neighbour.  Everything is exact arithmetic on naturals: the real
interval of numbers that round to the float is compared with the two neighbours of the float
on each decimal grid.

A float that is read is an optional sign and then `inf`, `infinity` or `nan` in any case, or decimal
digits with an optional point and an optional exponent; one digit on either side of the point is
enough.  The value is the float nearest to the decimal written.

## Main Definitions

* `Binary`, `Binary.ofBits` -- the float as two integers
* `Scientific` -- a decimal `digits * 10 ^ power`
* `Binary.shortest` -- the shortest decimal
* `RealFormat`, `Scientific.render` -- a written form, its decisions in one record
* `ofDecimal` -- the float nearest to `digits * 10 ^ exponent`
* `floatOf?` -- a float read from a whole text
-/

namespace LintLedger.Decimal

/-! ## Shortest decimals -/

/-- A finite nonnegative binary float, `mantissa * 2 ^ exponent`. -/
structure Binary where
  mantissa : Nat
  exponent : Int
deriving Repr, DecidableEq

/-- What the bits of a 64-bit float say. -/
inductive Reading where
  | finite (negative : Bool) (value : Binary)
  | infinite (negative : Bool)
  | notANumber
deriving Repr, DecidableEq

/-- Decodes sign, exponent and fraction. -/
def readBits (bits : UInt64) : Reading :=
  let n := bits.toNat
  let negative := decide (n ≥ Nat.pow 2 63)
  let biased := n / Nat.pow 2 52 % Nat.pow 2 11
  let fraction := n % Nat.pow 2 52
  if biased = 2047 then (if fraction = 0 then .infinite negative else .notANumber)
  else if biased = 0 then .finite negative ⟨fraction, -1074⟩
  else .finite negative ⟨Nat.pow 2 52 + fraction, Int.ofNat biased - 1075⟩

/-- A decimal number, `digits * 10 ^ power`. -/
structure Scientific where
  digits : Nat
  power : Int
deriving Repr, DecidableEq

/-- How many decimal digits a natural has; zero has one. -/
def width (n : Nat) : Nat := (Nat.toDigits 10 n).length

/-- A fraction scaled by a power of ten, as numerator and denominator. -/
def scaleTen (num den : Nat) (power : Int) : Nat × Nat :=
  if power ≥ 0 then (num * Nat.pow 10 power.toNat, den) else (num, den * Nat.pow 10 (-power).toNat)

/-- The exponent of the first digit of the positive fraction `num / den`: the greatest `k`
with `10 ^ k ≤ num / den`. -/
def leadingPower (num den : Nat) : Int :=
  let guess : Int := Int.ofNat (width num) - Int.ofNat (width den)
  let scaled := scaleTen num den (-guess)
  if scaled.2 ≤ scaled.1 then guess else guess - 1

namespace Binary

/-- The real interval of numbers that round to the float, in quarters of its last place: lower
end, the float itself, upper end.  Below a power of two the floats lie twice as dense. -/
def quarters (x : Binary) : Nat × Nat × Nat :=
  let v := 4 * x.mantissa
  let below := if x.mantissa = Nat.pow 2 52 ∧ x.exponent > -1074 then 1 else 2
  (v - below, v, v + 2)

/-- Numerator and denominator of one quarter of the last place. -/
def quarter (x : Binary) : Nat × Nat :=
  if x.exponent ≥ 2 then (Nat.pow 2 (x.exponent - 2).toNat, 1)
  else (1, Nat.pow 2 (2 - x.exponent).toNat)

/-- The better of the two neighbours of the float on the grid `10 ^ power`, if one of them
reads back. -/
def onGrid? (x : Binary) (power : Int) : Option Nat :=
  let (lower, value, upper) := x.quarters
  let (unit, den) := x.quarter
  let (unit, den) := scaleTen unit den (-power)
  let closed := x.mantissa % 2 = 0
  let inside (c : Nat) : Bool :=
    if closed then lower * unit ≤ c * den && c * den ≤ upper * unit
    else lower * unit < c * den && c * den < upper * unit
  let c := value * unit / den
  let low := inside c
  let high := inside (c + 1)
  if low && high then
    let down := value * unit - c * den
    let up := (c + 1) * den - value * unit
    if down < up then some c
    else if up < down then some (c + 1)
    else if c % 2 = 0 then some c else some (c + 1)
  else if low then some c
  else if high then some (c + 1)
  else none

/-- Drops zeros at the end, at most `fuel` of them. -/
def dropZeros : Nat → Scientific → Scientific
  | 0, d => d
  | fuel + 1, d =>
    if d.digits ≠ 0 ∧ d.digits % 10 = 0 then dropZeros fuel ⟨d.digits / 10, d.power + 1⟩ else d

/-- The shortest decimal that reads back as the float; seventeen digits always do. -/
def shortest (x : Binary) : Scientific :=
  if x.mantissa = 0 then ⟨0, 0⟩
  else
    let (_, value, _) := x.quarters
    let (unit, den) := x.quarter
    let lead := leadingPower (value * unit) den
    let found := (List.range 17).findSome? fun n =>
      (x.onGrid? (lead - Int.ofNat n)).map fun c => (⟨c, lead - Int.ofNat n⟩ : Scientific)
    match found with
    | some d => dropZeros (width d.digits) d
    | none => ⟨0, 0⟩

end Binary

/-- The decisions of one written form of floats. -/
structure RealFormat where
  /-- Least exponent of the first digit that is written positionally. -/
  positionalFrom : Int
  /-- Greatest exponent of the first digit that is written positionally. -/
  positionalTo : Int
  /-- What an integral number written positionally ends with. -/
  integralEnd : String
  /-- The mark before an exponent. -/
  exponentMark : String
  /-- The sign of a positive exponent. -/
  positiveSign : String

/-- Zeros, `n` of them. -/
def zeros (n : Nat) : String := String.ofList (List.replicate n '0')

/-- The written form of a decimal with nonzero digits, or of zero. -/
def Scientific.render (f : RealFormat) (d : Scientific) : String :=
  let text := toString d.digits
  let lead := Int.ofNat text.length - 1 + d.power
  let chars := text.toList
  if d.digits = 0 then "0" ++ f.integralEnd
  else if f.positionalFrom ≤ lead ∧ lead ≤ f.positionalTo then
    if d.power ≥ 0 then text ++ zeros d.power.toNat ++ f.integralEnd
    else if lead ≥ 0 then
      String.ofList (chars.take (lead.toNat + 1)) ++ "." ++
        String.ofList (chars.drop (lead.toNat + 1))
    else "0." ++ zeros (-lead - 1).toNat ++ text
  else
    let fraction := if chars.length > 1 then "." ++ String.ofList (chars.drop 1) else ""
    let exponent :=
      if lead < 0 then "-" ++ toString lead.natAbs else f.positiveSign ++ toString lead.natAbs
    String.ofList (chars.take 1) ++ fraction ++ f.exponentMark ++ exponent

/-! ## Floats read from text -/

open LintLedger.Text

/-- The float nearest to `digits * 10 ^ exponent`; far outside the range of floats the answer
is infinity or zero without any large power being formed. -/
def ofDecimal (digits : Nat) (exponent : Int) : Float :=
  let lead := Int.ofNat (toString digits).length + exponent
  if digits = 0 ∨ lead < -400 then 0.0
  else if lead > 400 then 1.0 / 0.0
  else if exponent ≥ 0 then Float.ofScientific digits false exponent.toNat
  else Float.ofScientific digits true (-exponent).toNat

/-- An exponent after its mark: an optional sign and at least one digit. -/
def exponentOf? : List Char → Option Int := intOf?

/-- Digits, an optional point with more digits, an optional exponent. -/
def unsignedFloatOf? (cs : List Char) : Option Float :=
  let whole := cs.takeWhile Char.isDigit
  let rest := cs.dropWhile Char.isDigit
  let (part, rest) := match rest with
    | '.' :: more => (more.takeWhile Char.isDigit, more.dropWhile Char.isDigit)
    | more => ([], more)
  if whole.isEmpty && part.isEmpty then none
  else
    let digits := natOfDigits (whole ++ part)
    let shift := -Int.ofNat part.length
    match rest with
    | [] => some (ofDecimal digits shift)
    | c :: more =>
      if c == 'e' || c == 'E' then (exponentOf? more).map fun e => ofDecimal digits (shift + e)
      else none

/-- A float without sign: a number or one of the three words. -/
def magnitudeOf? (cs : List Char) : Option Float :=
  let word := String.ofList (cs.map Char.toLower)
  if word = "inf" ∨ word = "infinity" then some (1.0 / 0.0)
  else if word = "nan" then some (0.0 / 0.0)
  else unsignedFloatOf? cs

/-- A float read from a whole text, without blanks. -/
def floatOf? (s : String) : Option Float :=
  match s.toList with
  | '-' :: cs => (magnitudeOf? cs).map fun x => -x
  | '+' :: cs => magnitudeOf? cs
  | cs => magnitudeOf? cs

end LintLedger.Decimal
