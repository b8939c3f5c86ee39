import LintLedger.Decimal.Basic
import LintLedger.Text.Integer

/-!
# Numbers in a chosen style

A number is written with a chosen number of digits: with a point at a fixed place, with an
exponent, or in the shorter of these two.  The number is exact, and its last digit is rounded to
the nearest, an exact half to the even neighbour.

## Main Definitions

* `roundHalfEven` -- a quotient rounded to the nearest natural
* `fixed` -- a float with the given number of places
* `Quantity` -- a number that is written or read
* `fixedText`, `exponentText`, `generalText`, `binaryText` -- the styles
* `readQuantity` -- the number at the begin of a text
-/

namespace LintLedger.Decimal

/-- The natural nearest to `num / den`, an exact half going to the even one. -/
def roundHalfEven (num den : Nat) : Nat :=
  let q := num / den
  let twice := 2 * (num % den)
  if twice < den then q
  else if den < twice then q + 1
  else if q % 2 = 0 then q else q + 1

/-- The digits of `n / 10 ^ places` with that many places after the point. -/
def pointed (places n : Nat) : String :=
  let whole := toString (n / Nat.pow 10 places)
  if places = 0 then whole
  else
    let part := toString (n % Nat.pow 10 places)
    whole ++ "." ++ zeros (places - part.length) ++ part

/-- A float with `places` decimal places. -/
def fixed (places : Nat) (x : Float) : String :=
  match readBits x.toBits with
  | .notANumber => "NaN"
  | .infinite negative => if negative then "-inf" else "inf"
  | .finite negative value =>
    let scaled := value.mantissa * Nat.pow 10 places
    let n :=
      if value.exponent ≥ 0 then scaled * Nat.pow 2 value.exponent.toNat
      else roundHalfEven scaled (Nat.pow 2 (-value.exponent).toNat)
    (if negative then "-" else "") ++ pointed places n

/-! ## Numbers -/

/-- A number: a fraction with a sign, or none that is finite. -/
inductive Quantity where
  | finite (negative : Bool) (num den : Nat)
  | infinite (negative : Bool)
  | notANumber (negative : Bool)
deriving DecidableEq, Repr

/-- The fraction that a binary float is. -/
def Binary.fraction (b : Binary) : Nat × Nat :=
  if b.exponent ≥ 0 then (b.mantissa * Nat.pow 2 b.exponent.toNat, 1)
  else (b.mantissa, Nat.pow 2 (-b.exponent).toNat)

/-- The number that a float is. -/
def Quantity.ofFloat (x : Float) : Quantity :=
  match readBits x.toBits with
  | .notANumber => .notANumber false
  | .infinite negative => .infinite negative
  | .finite negative b => .finite negative b.fraction.1 b.fraction.2

/-- The number with its sign changed. -/
def Quantity.negate : Quantity → Quantity
  | .finite s n d => .finite (!s) n d
  | .infinite s => .infinite (!s)
  | .notANumber s => .notANumber (!s)

/-- Whether a number has a minus sign. -/
def Quantity.isNegative : Quantity → Bool
  | .finite s _ _ => s
  | .infinite s => s
  | .notANumber s => s

/-! ## Styles -/

/-- A fraction with so many places after the point, which stays even without any if asked
for. -/
def fixedText (num den places : Nat) (keepsPoint : Bool) : String :=
  let text := pointed places (roundHalfEven (num * Nat.pow 10 places) den)
  if places = 0 && keepsPoint then text ++ "." else text

/-- The digits of a fraction with so many after the first, and the exponent of the first. -/
def leadingDigits (num den places : Nat) : Nat × Int :=
  if num = 0 then (0, 0)
  else
    let lead := leadingPower num den
    let (n, d) := scaleTen num den (Int.ofNat places - lead)
    let digits := roundHalfEven n d
    if digits = Nat.pow 10 (places + 1) then (Nat.pow 10 places, lead + 1) else (digits, lead)

/-- A point with digits around it: one before and so many after it. -/
def pointedDigits (digits places : Nat) (keepsPoint : Bool) : String :=
  let text := pointed places digits
  if places = 0 && keepsPoint then text ++ "." else text

/-- An exponent with its sign and at least two digits. -/
def exponentPart (e : Int) : String :=
  let digits := toString e.natAbs
  "e" ++ (if e < 0 then "-" else "+") ++ zeros (2 - digits.length) ++ digits

/-- A fraction with one digit before the point, so many after it, and an exponent. -/
def exponentText (num den places : Nat) (keepsPoint : Bool) : String :=
  let (digits, lead) := leadingDigits num den places
  pointedDigits digits places keepsPoint ++ exponentPart lead

/-- A text without zeros at its end, and without a point that is left there. -/
def withoutEndZeros (text : String) : String :=
  if text.toList.contains '.' then
    let bare := (text.toList.reverse.dropWhile (· == '0')).reverse
    String.ofList (if bare.getLast? = some '.' then bare.dropLast else bare)
  else text

/-- A fraction with so many digits that tell something, in the style that is shorter. -/
def generalText (num den precision : Nat) (keepsPoint : Bool) : String :=
  let p := max 1 precision
  let (digits, lead) := leadingDigits num den (p - 1)
  let bare (text : String) : String := if keepsPoint then text else withoutEndZeros text
  if -4 ≤ lead && lead < Int.ofNat p then
    bare (fixedText num den (Int.ofNat p - 1 - lead).toNat keepsPoint)
  else bare (pointedDigits digits (p - 1) keepsPoint) ++ exponentPart lead

/-- A fraction with hexadecimal digits and an exponent of two; the denominator is a power of
two. -/
def binaryText (num den : Nat) (places? : Option Nat) (keepsPoint : Bool) : String :=
  let hex (n digits : Nat) : String :=
    let text := String.ofList (Nat.toDigits 16 n)
    if digits = 0 then "" else zeros (digits - text.length) ++ text
  if num = 0 then
    let places := places?.getD 0
    "0x0" ++ (if places = 0 && !keepsPoint then "" else "." ++ hex 0 places) ++ "p+0"
  else
    let lead : Int := Int.ofNat (Nat.log2 num) - Int.ofNat (Nat.log2 den)
    -- Thirteen places hold every float.
    let scaled (places : Nat) : Nat :=
      let shift := 4 * Int.ofNat places - lead
      if shift ≥ 0 then roundHalfEven (num * Nat.pow 2 shift.toNat) den
      else roundHalfEven num (den * Nat.pow 2 (-shift).toNat)
    let full := scaled 13
    let needed := ((List.range 14).find? fun k => full % Nat.pow 16 (13 - k) = 0).getD 13
    let places := places?.getD needed
    let n := scaled places
    let part := n % Nat.pow 16 places
    "0x" ++ toString (n / Nat.pow 16 places) ++
      (if places = 0 && !keepsPoint then "" else "." ++ hex part places) ++
      "p" ++ (if lead < 0 then "-" else "+") ++ toString lead.natAbs

/-! ## Reading -/

/-- A number that was read, and what comes after it. -/
structure QuantityReading where
  value : Quantity
  rest : List Char
  /-- Whether the number lies outside of what floats can hold. -/
  outOfRange : Bool

/-- The exponent at the begin of a text after its mark, and the rest; without digits there is
none. -/
def readExponent (marks : List Char) (text : List Char) : Int × List Char :=
  match text with
  | m :: rest =>
    if marks.contains m then
      let (negative, digits) := match rest with
        | '-' :: r => (true, r)
        | '+' :: r => (false, r)
        | r => (false, r)
      if (digits.head?.map Char.isDigit).getD false then
        let n := Text.natOfDigits (digits.takeWhile Char.isDigit)
        (if negative then -Int.ofNat n else Int.ofNat n, digits.dropWhile Char.isDigit)
      else (0, text)
    else (0, text)
  | [] => (0, text)

/-- A number in hexadecimal digits after their mark. -/
def readHexadecimal (cs : List Char) : QuantityReading :=
  let isHex (c : Char) : Bool := (Text.digitIn? 16 c).isSome
  let whole := cs.takeWhile isHex
  let rest := cs.dropWhile isHex
  let (part, rest) := match rest with
    | '.' :: r => (r.takeWhile isHex, r.dropWhile isHex)
    | r => ([], r)
  let n := (Text.digitsIn 16 0 (whole ++ part)).1
  let (e, rest) := readExponent ['p', 'P'] rest
  let e := e - 4 * Int.ofNat part.length
  let size := Int.ofNat (Nat.log2 n) + e
  if n = 0 then ⟨.finite false 0 1, rest, false⟩
  else if 1024 ≤ size then ⟨.infinite false, rest, true⟩
  else if size < -1080 then ⟨.finite false 0 1, rest, true⟩
  else if e ≥ 0 then ⟨.finite false (n * Nat.pow 2 e.toNat) 1, rest, false⟩
  else ⟨.finite false n (Nat.pow 2 (-e).toNat), rest, false⟩

/-- A number in decimal digits, the nearest float. -/
def readDecimal (cs : List Char) : Option QuantityReading :=
  let whole := cs.takeWhile Char.isDigit
  let rest := cs.dropWhile Char.isDigit
  let (part, rest) := match rest with
    | '.' :: r => (r.takeWhile Char.isDigit, r.dropWhile Char.isDigit)
    | r => ([], r)
  if whole.isEmpty && part.isEmpty then none
  else
    let (e, rest) := readExponent ['e', 'E'] rest
    let digits := Text.natOfDigits (whole ++ part)
    let q := Quantity.ofFloat (ofDecimal digits (e - Int.ofNat part.length))
    let lost := match q with
      | .finite _ n _ => n = 0 && digits != 0
      | _ => true
    some ⟨q, rest, lost⟩

/-- The number at the begin of a text, if there is one. -/
def readQuantity (text : List Char) : Option QuantityReading :=
  let cs := text.dropWhile Text.isNumberBlank
  let (negative, cs) := match cs with
    | '-' :: r => (true, r)
    | '+' :: r => (false, r)
    | r => (false, r)
  let word (w : String) : Bool := w.toList.isPrefixOf (cs.map Char.toLower)
  let reading? : Option QuantityReading :=
    if word "infinity" then some ⟨.infinite false, cs.drop 8, false⟩
    else if word "inf" then some ⟨.infinite false, cs.drop 3, false⟩
    else if word "nan" then some ⟨.notANumber false, cs.drop 3, false⟩
    else
      match cs with
      | '0' :: x :: rest =>
        let first? := match rest with
          | '.' :: c :: _ => some c
          | c :: _ => some c
          | [] => none
        if (x == 'x' || x == 'X') && (first?.bind (Text.digitIn? 16)).isSome then
          some (readHexadecimal rest)
        else readDecimal cs
      | cs => readDecimal cs
  reading?.map fun r => if negative then { r with value := r.value.negate } else r

end LintLedger.Decimal
