import LintLedger.Json.Basic

/-!
# Reading JSON text

The grammar is RFC 8259 without extensions.  Objects come out in ascending key order, the
last of several equal keys winning; containers nest at most 127 deep; an escape that is half
of a surrogate pair is refused.  An integer in the signed or unsigned 64-bit range stays an
integer.  Any other number is a float made from its first significant digits, as many as fit
in 64 bits, by one multiplication or division with a power of ten.

## Main Definitions

* `Json.readNumber?`, `Json.readString?` -- the scalars
* `Json.readValue?` -- a value and the text after it
* `Json.parse?` -- a whole text
-/

namespace LintLedger.Json

/-- The four blanks of the grammar. -/
def isSpace (c : Char) : Bool := c == ' ' || c == '\t' || c == '\n' || c == '\r'

/-- The text after the blanks in front. -/
def skipSpace (cs : List Char) : List Char := cs.dropWhile isSpace

/-- How many containers may enclose a value. -/
def maxDepth : Nat := 127

/-! ## Numbers -/

/-- The greatest unsigned 64-bit integer. -/
def maxWord : Nat := 18446744073709551615

/-- Appends digits to a significand while it fits in 64 bits; the second part counts the
digits used. -/
def accumulate : Nat → List Char → Nat × Nat
  | sig, [] => (sig, 0)
  | sig, d :: ds =>
    let next := sig * 10 + Text.digitValue d
    if next > maxWord then (sig, 0)
    else
      let more := accumulate next ds
      (more.1, more.2 + 1)

/-- The power of ten as a float. -/
def tenPower (n : Nat) : Float := Float.ofScientific 1 false n

/-- Scales a float by a power of ten, in steps of at most 308 places; `none` when the result
is no finite float. -/
def scale : Nat → Float → Int → Option Float
  | 0, f, _ => some f
  | steps + 1, f, e =>
    if e.natAbs ≤ 308 then
      if e ≥ 0 then
        let g := f * tenPower e.natAbs
        if g.isInf then none else some g
      else some (f / tenPower e.natAbs)
    else if f == 0.0 then some f
    else if e ≥ 0 then none
    else scale steps (f / tenPower 308) (e + 308)

/-- A float from significand and exponent; three steps always suffice, since the second
division by `10 ^ 308` leaves zero. -/
def floatOfParts (negative : Bool) (sig : Nat) (e : Int) : Option Number :=
  (scale 4 (Float.ofScientific sig false 0) e).map fun f => .real (if negative then -f else f)

/-- An integer, unless it is minus zero or out of range for its sign. -/
def integerOf (negative : Bool) (sig : Nat) : Number :=
  if negative then
    if sig = 0 ∨ sig > 9223372036854775808 then .real (-(Float.ofScientific sig false 0))
    else .int (-Int.ofNat sig)
  else .int (Int.ofNat sig)

/-- An exponent after its mark: sign, value and the text after it. -/
def readExponent? (cs : List Char) : Option (Bool × Nat × List Char) :=
  let (negative, rest) := match cs with
    | '+' :: more => (false, more)
    | '-' :: more => (true, more)
    | more => (false, more)
  let digits := rest.takeWhile Char.isDigit
  if digits.isEmpty then none
  else some (negative, Text.natOfDigits digits, rest.dropWhile Char.isDigit)

/-- The number with an exponent part; an exponent beyond 31 bits is an overflow or zero. -/
def withExponent (negative : Bool) (sig : Nat) (e : Int) (down : Bool) (size : Nat) :
    Option Number :=
  if size > 2147483647 then
    if sig ≠ 0 ∧ !down then none else some (.real (if negative then -0.0 else 0.0))
  else floatOfParts negative sig (if down then e - Int.ofNat size else e + Int.ofNat size)

/-- The part of a number after its significand so far: an exponent, or nothing. -/
def readScale? (negative : Bool) (sig : Nat) (e : Int) : List Char →
    Option (Number × List Char)
  | c :: rest =>
    if c == 'e' || c == 'E' then
      (readExponent? rest).bind fun (down, size, more) =>
        (withExponent negative sig e down size).map fun n => (n, more)
    else (floatOfParts negative sig e).map fun n => (n, c :: rest)
  | [] => (floatOfParts negative sig e).map fun n => (n, [])

/-- A number without its sign. -/
def readMagnitude? (negative : Bool) (cs : List Char) : Option (Number × List Char) :=
  let whole := cs.takeWhile Char.isDigit
  let rest := cs.dropWhile Char.isDigit
  if whole.isEmpty || (whole.head? == some '0' && whole.length > 1) then none
  else
    let (sig, used) := accumulate 0 whole
    let dropped := whole.length - used
    match rest with
    | '.' :: more =>
      let part := more.takeWhile Char.isDigit
      if part.isEmpty then none
      else
        let (sig', used') := accumulate sig part
        readScale? negative sig' (Int.ofNat dropped - Int.ofNat used') (more.dropWhile Char.isDigit)
    | c :: more =>
      if c == 'e' || c == 'E' || dropped > 0 then
        readScale? negative sig (Int.ofNat dropped) (c :: more)
      else some (integerOf negative sig, c :: more)
    | [] =>
      if dropped > 0 then readScale? negative sig (Int.ofNat dropped) []
      else some (integerOf negative sig, [])

/-- A number and the text after it. -/
def readNumber? : List Char → Option (Number × List Char)
  | '-' :: cs => readMagnitude? true cs
  | cs => readMagnitude? false cs

/-! ## Strings -/

/-- The value of a hexadecimal digit. -/
def hexValue? (c : Char) : Option Nat :=
  if c.isDigit then some (c.toNat - 48)
  else if 'a' ≤ c ∧ c ≤ 'f' then some (c.toNat - 87)
  else if 'A' ≤ c ∧ c ≤ 'F' then some (c.toNat - 55)
  else none

/-- Four hexadecimal digits. -/
def readHex4? : List Char → Option (Nat × List Char)
  | a :: b :: c :: d :: rest => do
    let a ← hexValue? a
    let b ← hexValue? b
    let c ← hexValue? c
    let d ← hexValue? d
    return (((a * 16 + b) * 16 + c) * 16 + d, rest)
  | _ => none

/-- The second half of a surrogate pair whose first half was `high`. -/
def readLowSurrogate? (high : Nat) : List Char → Option (Char × List Char)
  | '\\' :: 'u' :: rest =>
    (readHex4? rest).bind fun (low, more) =>
      if 0xdc00 ≤ low ∧ low ≤ 0xdfff then
        some (Char.ofNat (0x10000 + (high - 0xd800) * 0x400 + (low - 0xdc00)), more)
      else none
  | _ => none

/-- What stands after a backslash. -/
def readEscape? : List Char → Option (Char × List Char)
  | [] => none
  | c :: rest =>
    match c with
    | '"' => some ('"', rest)
    | '\\' => some ('\\', rest)
    | '/' => some ('/', rest)
    | 'b' => some ('\x08', rest)
    | 'f' => some ('\x0c', rest)
    | 'n' => some ('\n', rest)
    | 'r' => some ('\r', rest)
    | 't' => some ('\t', rest)
    | 'u' =>
      (readHex4? rest).bind fun (n, more) =>
        if 0xd800 ≤ n ∧ n ≤ 0xdbff then readLowSurrogate? n more
        else if 0xdc00 ≤ n ∧ n ≤ 0xdfff then none
        else some (Char.ofNat n, more)
    | _ => none

/-- The rest of a string after its opening quote; `acc` holds the characters so far, last
first.  Every step uses up a character, so the length of the text bounds the steps. -/
def stringBody? : Nat → List Char → List Char → Option (String × List Char)
  | 0, _, _ => none
  | _ + 1, _, [] => none
  | fuel + 1, acc, c :: rest =>
    if c == '"' then some (String.ofList acc.reverse, rest)
    else if c == '\\' then
      (readEscape? rest).bind fun (d, more) => stringBody? fuel (d :: acc) more
    else if c.toNat < 0x20 then none
    else stringBody? fuel (c :: acc) rest

/-- A string after its opening quote, and the text after it. -/
def readString? (cs : List Char) : Option (String × List Char) :=
  stringBody? (cs.length + 1) [] cs

/-! ## Values -/

/-- The items of an array up to its closing bracket, given how an item is read. -/
def itemsWith (item : List Char → Option (Json × List Char)) :
    Nat → List Json → List Char → Option (List Json × List Char)
  | 0, _, _ => none
  | fuel + 1, acc, cs =>
    (item cs).bind fun (v, rest) =>
      match skipSpace rest with
      | ',' :: more => itemsWith item fuel (v :: acc) more
      | ']' :: more => some ((v :: acc).reverse, more)
      | _ => none

/-- The members of an object up to its closing brace, given how a value is read. -/
def membersWith (item : List Char → Option (Json × List Char)) :
    Nat → List (String × Json) → List Char → Option (List (String × Json) × List Char)
  | 0, _, _ => none
  | fuel + 1, acc, cs =>
    match skipSpace cs with
    | '"' :: afterQuote =>
      (readString? afterQuote).bind fun (key, rest) =>
        match skipSpace rest with
        | ':' :: more =>
          (item more).bind fun (v, rest) =>
            match skipSpace rest with
            | ',' :: more => membersWith item fuel ((key, v) :: acc) more
            | '}' :: more => some (((key, v) :: acc).reverse, more)
            | _ => none
        | _ => none
    | _ => none

/-- The text after a word that must stand in front. -/
def afterWord? (word : List Char) (cs : List Char) : Option (List Char) :=
  if word.isPrefixOf cs then some (cs.drop word.length) else none

/-- A value inside at most `depth` more containers, and the text after it. -/
def readValue? : Nat → List Char → Option (Json × List Char)
  | depth, cs =>
    match skipSpace cs with
    | [] => none
    | c :: rest =>
      match c with
      | 'n' => (afterWord? ['u', 'l', 'l'] rest).map fun more => (.null, more)
      | 't' => (afterWord? ['r', 'u', 'e'] rest).map fun more => (.bool true, more)
      | 'f' => (afterWord? ['a', 'l', 's', 'e'] rest).map fun more => (.bool false, more)
      | '"' => (readString? rest).map fun (s, more) => (.str s, more)
      | '[' =>
        match depth with
        | 0 => none
        | inner + 1 =>
          match skipSpace rest with
          | ']' :: more => some (.arr [], more)
          | _ => (itemsWith (readValue? inner) (rest.length + 1) [] rest).map
              fun (items, more) => (.arr items, more)
      | '{' =>
        match depth with
        | 0 => none
        | inner + 1 =>
          match skipSpace rest with
          | '}' :: more => some (.obj [], more)
          | _ => (membersWith (readValue? inner) (rest.length + 1) [] rest).map
              fun (members, more) => (.obj (Assoc.ofList members), more)
      | _ => (readNumber? (c :: rest)).map fun (n, more) => (.num n, more)

/-- The value a whole text denotes, with blanks around it. -/
def parse? (s : String) : Option Json :=
  (readValue? maxDepth s.toList).bind fun (v, rest) =>
    if (skipSpace rest).isEmpty then some v else none

end LintLedger.Json
