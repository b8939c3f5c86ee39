/-!
# Digits and integers in text

`isDecimalDigit` is the Unicode property `Nd`, which decides where a run of digits ends; a
number is read from ASCII digits only.  Programs take integers in base ten, eight, sixteen or
two, told apart by what is in front of the digits; their reader takes as much of a text as is an
integer and leaves the rest.

## Main Definitions

* `digitZeros` -- the zero of every decimal digit series
* `isDecimalDigit` -- the property
* `natOf?`, `intOf?` -- digits, and digits with an optional sign
* `int64Of?` -- the same within the signed 64-bit range
* `digitIn?` -- the value of a digit in a base
* `Reading`, `readInteger` -- the integer at the begin of a text
* `clamp` -- the nearest integer within a range
-/

namespace LintLedger.Text

/-- The zero of each series of ten decimal digits, ascending. -/
def digitZeros : List Nat :=
  [0x30, 0x660, 0x6f0, 0x7c0, 0x966, 0x9e6, 0xa66, 0xae6, 0xb66, 0xbe6, 0xc66, 0xce6, 0xd66,
   0xde6, 0xe50, 0xed0, 0xf20, 0x1040, 0x1090, 0x17e0, 0x1810, 0x1946, 0x19d0, 0x1a80, 0x1a90,
   0x1b50, 0x1bb0, 0x1c40, 0x1c50, 0xa620, 0xa8d0, 0xa900, 0xa9d0, 0xa9f0, 0xaa50, 0xabf0,
   0xff10, 0x104a0, 0x10d30, 0x10d40, 0x11066, 0x110f0, 0x11136, 0x111d0, 0x112f0, 0x11450,
   0x114d0, 0x11650, 0x116c0, 0x116d0, 0x116da, 0x11730, 0x118e0, 0x11950, 0x11bf0, 0x11c50,
   0x11d50, 0x11da0, 0x11f50, 0x16a60, 0x16ac0, 0x16b50, 0x1ccf0, 0x1d7ce, 0x1d7d8, 0x1d7e2,
   0x1d7ec, 0x1d7f6, 0x1e140, 0x1e2f0, 0x1e4f0, 0x1e5f1, 0x1e950, 0x1fbf0]

/-- Unicode `Nd`. -/
def isDecimalDigit (c : Char) : Bool :=
  let n := c.toNat
  digitZeros.any fun z => z ≤ n && n < z + 10

/-- Every ASCII digit is a decimal digit. -/
theorem isDecimalDigit_of_isDigit {c : Char} (h : c.isDigit = true) :
    isDecimalDigit c = true := by
  simp only [Char.isDigit, Bool.and_eq_true, decide_eq_true_eq] at h
  have h1 : 48 ≤ c.toNat := by simpa [UInt32.le_iff_toNat_le] using h.1
  have h2 : c.toNat ≤ 57 := by simpa [UInt32.le_iff_toNat_le] using h.2
  simp only [isDecimalDigit, digitZeros, List.any_cons, Bool.or_eq_true, Bool.and_eq_true,
    decide_eq_true_eq]
  exact Or.inl ⟨h1, by omega⟩

/-- The value of an ASCII digit. -/
def digitValue (c : Char) : Nat := c.toNat - '0'.toNat

/-- The number written by a list of ASCII digits, most significant first. -/
def natOfDigits (cs : List Char) : Nat := cs.foldl (fun n c => 10 * n + digitValue c) 0

/-- A nonempty list of ASCII digits read as a number. -/
def natOf? (cs : List Char) : Option Nat :=
  if cs.isEmpty then none else if cs.all Char.isDigit then some (natOfDigits cs) else none

/-- An optional sign and ASCII digits read as a number. -/
def intOf? : List Char → Option Int
  | '+' :: cs => (natOf? cs).map Int.ofNat
  | '-' :: cs => (natOf? cs).map fun n => -Int.ofNat n
  | cs => (natOf? cs).map Int.ofNat

/-- The least signed 64-bit integer. -/
def int64Min : Int := -9223372036854775808

/-- The greatest signed 64-bit integer. -/
def int64Max : Int := 9223372036854775807

/-- Whether an integer fits in 64 bits with sign. -/
def fitsInt64 (i : Int) : Bool := decide (int64Min ≤ i) && decide (i ≤ int64Max)

/-- A signed 64-bit integer read from a whole text, without blanks. -/
def int64Of? (s : String) : Option Int := (intOf? s.toList).filter fitsInt64

/-- An unsigned integer up to `limit` read from a whole text; a plus sign is allowed. -/
def natUpTo? (limit : Nat) (s : String) : Option Nat :=
  let digits := match s.toList with
    | '+' :: cs => cs
    | cs => cs
  (natOf? digits).filter (· ≤ limit)

/-! ## Integers as programs write them -/

/-- The value of a digit in a base. -/
def digitIn? (base : Nat) (c : Char) : Option Nat :=
  let value? : Option Nat :=
    if c.isDigit then some (c.toNat - 48)
    else if 'a' ≤ c && c ≤ 'z' then some (c.toNat - 87)
    else if 'A' ≤ c && c ≤ 'Z' then some (c.toNat - 55)
    else none
  value?.filter (· < base)

/-- Whether a character is a blank between numbers. -/
def isNumberBlank (c : Char) : Bool := c == ' ' || ('\t' ≤ c && c ≤ '\r')

/-- The digits of a base at the begin of a text as a number, and the rest. -/
def digitsIn (base value : Nat) : List Char → Nat × List Char
  | [] => (value, [])
  | c :: rest =>
    match digitIn? base c with
    | some d => digitsIn base (base * value + d) rest
    | none => (value, c :: rest)

/-- An integer at the begin of a text. -/
structure Reading where
  value : Int
  /-- What comes after the integer. -/
  rest : List Char
  /-- Whether there is no integer; then nothing has been taken. -/
  isNone : Bool
deriving DecidableEq, Repr

/-- The base that the begin of some digits tells, and the digits. -/
def baseOf (cs : List Char) : Nat × List Char :=
  let starts (base : Nat) (rest : List Char) : Bool :=
    (rest.head?.bind (digitIn? base)).isSome
  match cs with
  | '0' :: x :: rest =>
    if (x == 'x' || x == 'X') && starts 16 rest then (16, rest)
    else if (x == 'b' || x == 'B') && starts 2 rest then (2, rest)
    else (8, cs)
  | '0' :: _ => (8, cs)
  | _ => (10, cs)

/-- Reads an integer; without a base, its first digits tell the base. -/
def readInteger (base? : Option Nat) (text : List Char) : Reading :=
  let cs := text.dropWhile isNumberBlank
  let (negative, cs) := match cs with
    | '-' :: r => (true, r)
    | '+' :: r => (false, r)
    | r => (false, r)
  let (base, digits) := match base? with
    | some b => (b, cs)
    | none => baseOf cs
  if (digits.head?.bind (digitIn? base)).isNone then ⟨0, text, true⟩
  else
    let (n, rest) := digitsIn base 0 digits
    ⟨if negative then -Int.ofNat n else Int.ofNat n, rest, false⟩

/-- The nearest integer from `low` to `high`. -/
def clamp (low high i : Int) : Int := max low (min high i)

/-- The nearest integer that fits in 64 bits with sign. -/
def clamp64 (i : Int) : Int := clamp int64Min int64Max i

end LintLedger.Text
