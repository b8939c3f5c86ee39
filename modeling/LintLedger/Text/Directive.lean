import LintLedger.Decimal.Styled

/-!
# Directives of formats

A directive says how one value is written: in which style, with how many places, and how wide.

## Main Definitions

* `Directive` -- what a directive says
* `Directive.text`, `Directive.integer`, `Directive.quantity` -- values written by it
-/

namespace LintLedger.Text

/-- How a value is written. -/
structure Directive where
  /-- Blanks come after the value. -/
  left : Bool := false
  /-- A number that is not negative has a plus sign. -/
  plus : Bool := false
  /-- A number that is not negative has a blank in front. -/
  blank : Bool := false
  /-- The form with marks of the base, or with the point in any case. -/
  full : Bool := false
  /-- Zeros fill a number up. -/
  zero : Bool := false
  width : Nat := 0
  precision? : Option Nat := none
  kind : Char
deriving DecidableEq, Repr

namespace Directive

/-- A text with blanks up to the width. -/
def padded (d : Directive) (s : String) : String :=
  let blanks := "".pushn ' ' (d.width - s.length)
  if d.left then s ++ blanks else blanks ++ s

/-- A text, of which at most as many characters are taken as the precision says. -/
def text (d : Directive) (s : String) : String :=
  d.padded (match d.precision? with
    | some n => String.ofList (s.toList.take n)
    | none => s)

/-- The sign of a number. -/
def sign (d : Directive) (negative : Bool) : String :=
  if negative then "-" else if d.plus then "+" else if d.blank then " " else ""

/-- A number behind its sign or mark, filled up with zeros or blanks. -/
def filled (d : Directive) (zero : Bool) (front digits : String) : String :=
  if zero && !d.left then
    front ++ "".pushn '0' (d.width - front.length - digits.length) ++ digits
  else d.padded (front ++ digits)

/-- The digits of a natural in the base of a kind. -/
def digitsOf (kind : Char) (n : Nat) : String :=
  match kind with
  | 'o' => String.ofList (Nat.toDigits 8 n)
  | 'x' => String.ofList (Nat.toDigits 16 n)
  | 'X' => String.ofList ((Nat.toDigits 16 n).map Char.toUpper)
  | _ => toString n

/-- An integer. -/
def integer (d : Directive) (i : Int) : String :=
  let n := i.natAbs
  let digits := if n = 0 && d.precision? = some 0 then "" else digitsOf d.kind n
  let digits := "".pushn '0' (d.precision?.getD 0 - digits.length) ++ digits
  let digits := if d.full && d.kind = 'o' && digits.toList.head? != some '0' then "0" ++ digits
    else digits
  let mark := if d.full && n != 0 then
      (if d.kind = 'x' then "0x" else if d.kind = 'X' then "0X" else "")
    else ""
  let front := if d.kind = 'd' || d.kind = 'i' then d.sign (decide (i < 0)) else mark
  d.filled (d.zero && d.precision?.isNone) front digits

/-- A number in a style. -/
def quantity (d : Directive) (q : Decimal.Quantity) : String :=
  let places := d.precision?.getD 6
  let body : String := match q with
    | .infinite _ => "inf"
    | .notANumber _ => "nan"
    | .finite _ num den =>
      match d.kind.toLower with
      | 'e' => Decimal.exponentText num den places d.full
      | 'f' => Decimal.fixedText num den places d.full
      | 'a' => Decimal.binaryText num den d.precision? d.full
      | _ => Decimal.generalText num den places d.full
  let isFinite := match q with
    | .finite _ _ _ => true
    | _ => false
  let cased := if d.kind.isUpper then String.ofList (body.toList.map Char.toUpper) else body
  let (mark, digits) := if isFinite && d.kind.toLower == 'a' then
      (String.ofList (cased.toList.take 2), String.ofList (cased.toList.drop 2))
    else ("", cased)
  d.filled (d.zero && isFinite) (d.sign q.isNegative ++ mark) digits

end Directive

end LintLedger.Text
