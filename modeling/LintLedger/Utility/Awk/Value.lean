import LintLedger.Text.Blank
import LintLedger.Text.Directive
import LintLedger.Utility.Awk.Basic

/-!
# Values

A value is a number or a text, and each can be taken for the other.  What was read is a text
that counts as a number if it looks like one.

## Main Definitions

* `Value` -- values
* `Value.toNumber`, `Value.toText`, `Value.isTrue` -- what a value is taken for
* `compare` -- how two values are compared
* `fill` -- a format filled with values
-/

namespace LintLedger.Utility.Awk

/-- A value. -/
inductive Value where
  /-- The value of a variable that was given none. -/
  | unset
  | number (x : Float)
  | text (s : String)
  /-- What was read. -/
  | input (s : String)

instance : Inhabited Value := ⟨.unset⟩

/-! ## Texts as numbers -/

/-- The float of a number whose denominator is a power of two. -/
def floatOf : Decimal.Quantity → Float
  | .finite negative n d =>
    let x := Float.scaleB (Float.ofNat n) (-Int.ofNat (Nat.log2 d))
    if negative then -x else x
  | .infinite negative => if negative then -1.0 / 0.0 else 1.0 / 0.0
  | .notANumber _ => 0.0 / 0.0

/-- How many decimal digits every float holds. -/
def safeDigits : Nat := 15

/-- The number at the begin of a text, or zero. -/
def numberIn (s : String) : Float :=
  let cs := s.toList.dropWhile Text.isNumberBlank
  let digits := cs.takeWhile Char.isDigit
  let goesOn : Bool := match cs.drop digits.length with
    | [] => false
    | c :: _ => c == '.' || c.isAlpha
  if !digits.isEmpty && digits.length ≤ safeDigits && !goesOn then
    Float.ofNat (Text.natOfDigits digits)
  else
    match Decimal.readQuantity cs with
    | some r => floatOf r.value
    | none => 0.0

/-- Whether a text is a number of digits, with blanks around it or without. -/
def looksNumeric (s : String) : Bool :=
  let isBlank (c : Char) : Bool := c == ' ' || c == '\t'
  let cs := Text.dropTail isBlank (s.toList.dropWhile isBlank)
  let isEnd (c : Char) : Bool := c.isDigit || c == '.'
  let isBegin (c : Char) : Bool := isEnd c || c == '+' || c == '-'
  if !(cs.head?.any isBegin && cs.getLast?.any isEnd) then false
  else if cs.all Char.isDigit && cs.length ≤ safeDigits then true
  else
    match Decimal.readQuantity cs with
    | some r =>
      let isFinite := match r.value with
        | .finite _ _ _ => true
        | _ => false
      r.rest.isEmpty && isFinite
    | none => false

/-! ## Numbers as texts -/

/-- The integer that a float is, unless it is too great for a word. -/
def wordOf? (x : Float) : Option Int :=
  if x.abs < 9007199254740992.0 then
    if x.floor == x then
      let n := Int.ofNat x.abs.toUInt64.toNat
      some (if x < 0.0 then -n else n)
    else none
  else if -9223372036854775808.0 ≤ x && x ≤ 18446744073709551616.0 then
    match Decimal.Quantity.ofFloat x with
    | .finite negative n d =>
      let n := Int.ofNat (n / d)
      some (if negative then -n else min n (Int.pow 2 64 - 1))
    | _ => none
  else none

/-- The word that is nearest to a float, without what comes after the point. -/
def nearestWord (x : Float) : Int :=
  match Decimal.Quantity.ofFloat x with
  | .finite negative n d =>
    let n := Int.ofNat (n / d)
    if negative then max (-n) (-(Int.pow 2 63 - 1)) else min n (Int.pow 2 64 - 1)
  | .infinite negative => if negative then -(Int.pow 2 63 - 1) else Int.pow 2 64 - 1
  | .notANumber _ => -(Int.pow 2 63)

/-- A number that a format writes.  What is no number comes from a calculation and has a sign. -/
def quantityOf (x : Float) : Decimal.Quantity :=
  match Decimal.Quantity.ofFloat x with
  | .notANumber _ => .notANumber true
  | q => q

/-- The directives at the begin of the rest of a format after a percent sign: the flags, the
width, the precision and the kind, and what comes after it. -/
structure DirectiveReading where
  flags : List Char
  /-- No number stands for an asterisk. -/
  width? : Option Nat
  precision? : Option (Option Nat)
  kind? : Option Char
  rest : List Char

/-- Reads a directive. -/
def readDirective (cs : List Char) : DirectiveReading :=
  let flags := cs.takeWhile fun c => "-+ #0".toList.contains c
  let size (cs : List Char) : Option Nat × List Char := match cs with
    | '*' :: rest => (none, rest)
    | cs =>
      let digits := cs.takeWhile Char.isDigit
      (some (Text.natOfDigits digits), cs.drop digits.length)
  let (width?, rest) := size (cs.drop flags.length)
  let (precision?, rest) : Option (Option Nat) × List Char := match rest with
    | '.' :: rest =>
      let (p?, rest) := size rest
      (some p?, rest)
    | rest => (none, rest)
  let rest := rest.dropWhile fun c => c == 'l' || c == 'h'
  ⟨flags, width?, precision?, rest.head?, rest.drop 1⟩

/-- The directive that was read, with a width and a precision. -/
def DirectiveReading.directive (r : DirectiveReading) (width : Int) (precision? : Option Int) :
    Text.Directive :=
  { left := r.flags.contains '-' || width < 0
    plus := r.flags.contains '+'
    blank := r.flags.contains ' '
    full := r.flags.contains '#'
    zero := r.flags.contains '0'
    width := width.natAbs
    precision? := precision?.bind fun p => if p < 0 then none else some p.toNat
    kind := r.kind?.getD '%' }

/-- A number that is no integer as a text, by a format with one directive. -/
def formatted (form : String) (x : Float) : String :=
  let cs := form.toList
  let before := cs.takeWhile (· != '%')
  match cs.drop before.length with
  | _ :: rest =>
    let r := readDirective rest
    let d := r.directive (Int.ofNat (r.width?.getD 0)) (r.precision?.map fun p? => Int.ofNat (p?.getD 0))
    let text := if "di".toList.contains d.kind then d.integer (nearestWord x) else d.quantity (quantityOf x)
    String.ofList before ++ text ++ String.ofList r.rest
  | [] => form

/-- A number as a text. -/
def numberText (form : String) (x : Float) : String :=
  match wordOf? x with
  | some i => toString i
  | none => formatted form x

namespace Value

/-- A value as a number. -/
def toNumber : Value → Float
  | .unset => 0.0
  | .number x => x
  | .text s => numberIn s
  | .input s => numberIn s

/-- A value as a text. -/
def toText (form : String) : Value → String
  | .unset => ""
  | .number x => numberText form x
  | .text s => s
  | .input s => s

/-- The number that a value is without doubt. -/
def plainNumber? : Value → Option Float
  | .unset => some 0.0
  | .number x => some x
  | .text _ => none
  | .input s => if looksNumeric s then some (numberIn s) else none

/-- Whether a value counts as true. -/
def isTrue : Value → Bool
  | .unset => false
  | .number x => x != 0.0
  | .text s => s != ""
  | .input s => if looksNumeric s then numberIn s != 0.0 else s != ""

/-- A truth value. -/
def ofBool (b : Bool) : Value := .number (if b then 1.0 else 0.0)

/-- A count. -/
def ofNat (n : Nat) : Value := .number (Float.ofNat n)

end Value

/-- How two values are ordered: by number if both are numbers, or else by text. -/
def order (form : String) (a b : Value) : Ordering :=
  match a.plainNumber?, b.plainNumber? with
  | some x, some y =>
    let d := x - y
    if d > 0.0 then .gt else if d < 0.0 then .lt else .eq
  | _, _ => Ord.compare (a.toText form) (b.toText form)

/-- Whether two values that are so ordered are related. -/
def Relation.holds (r : Relation) (o : Ordering) : Bool :=
  match r with
  | .less => o == .lt
  | .lessEqual => o != .gt
  | .equal => o == .eq
  | .unequal => o != .eq
  | .greater => o == .gt
  | .greaterEqual => o != .lt

/-! ## Calculation -/

/-- The remainder of a division whose quotient has no part after its point. -/
def remainder (x y : Float) : Float :=
  match Decimal.Quantity.ofFloat x, Decimal.Quantity.ofFloat y with
  | .finite negative a b, .finite _ c d =>
    if c = 0 then 0.0 / 0.0
    else
      -- Both denominators are powers of two, so that the greater serves for both numbers.
      let e := max b d
      let n := a * (e / b) % (c * (e / d))
      floatOf (.finite negative n e)
  | .finite _ _ _, .infinite _ => x
  | _, _ => 0.0 / 0.0

/-- What two numbers come to. -/
def Operation.apply (o : Operation) (x y : Float) : Float :=
  match o with
  | .plus => x + y
  | .minus => x - y
  | .times => x * y
  | .over => x / y
  | .modulo => remainder x y
  | .power => Float.pow x y

/-- A number without what comes after its point. -/
def truncated (x : Float) : Float := if x < 0.0 then x.ceil else x.floor

/-! ## Formats -/

/-- Why a format cannot be filled. -/
inductive FormatFault where
  | tooFewValues
  /-- The directive of that number is none. -/
  | noDirective (n : Nat)
deriving DecidableEq, Repr

/-- What is said of a format that cannot be filled. -/
def FormatFault.words (name form : String) : FormatFault → String
  | .tooFewValues => "not enough arguments passed to " ++ name ++ "(\"" ++ form ++ "\")"
  | .noDirective n =>
    "improper conversion(number " ++ toString n ++ ") in " ++ name ++ "(\"" ++ form ++ "\")"

/-- One value written by a directive, if there are such directives. -/
def directed (form : String) (d : Text.Directive) (v : Value) : Option String :=
  let wrapped (i : Int) : Int := i % Int.pow 2 64
  match d.kind with
  | 's' => some (d.text (v.toText form))
  | 'c' =>
    let byte (x : Float) : String :=
      String.singleton (Char.ofNat (nearestWord x % 256).toNat)
    some (d.padded (match v.plainNumber?, v with
      | _, .text s => if s = "" then "\x00" else String.ofList (s.toList.take 1)
      | some x, _ => byte x
      | none, v => String.ofList ((v.toText form).toList.take 1)))
  | 'd' => some (d.integer (nearestWord v.toNumber))
  | 'i' => some (d.integer (nearestWord v.toNumber))
  | 'o' => some (d.integer (wrapped (nearestWord v.toNumber)))
  | 'x' => some (d.integer (wrapped (nearestWord v.toNumber)))
  | 'X' => some (d.integer (wrapped (nearestWord v.toNumber)))
  | 'u' => some (d.integer (wrapped (nearestWord v.toNumber)))
  | kind =>
    if "eEfFgGaA".toList.contains kind then some (d.quantity (quantityOf v.toNumber)) else none

/-- A size of a directive: the one that was read, or the next value. -/
def sizeOr (read? : Option Nat) (values : List Value) : Option (Int × List Value) :=
  match read?, values with
  | some n, values => some (Int.ofNat n, values)
  | none, v :: values => some (nearestWord v.toNumber, values)
  | none, [] => none

/-- A format filled with values; `n` directives came before.  The value is the text, the last
part first, and what is wrong. -/
def fillWithin (form : String) : Nat → Nat → List Char → List Value → List String →
    List String × Option FormatFault
  | 0, _, _, _, done => (done, none)
  | _, _, [], _, done => (done, none)
  | fuel + 1, n, '%' :: '%' :: rest, values, done => fillWithin form fuel n rest values ("%" :: done)
  | fuel + 1, n, '%' :: rest, values, done =>
    let r := readDirective rest
    let sizes? : Option (Int × Option Int × List Value) := do
      let (width, values) ← sizeOr r.width? values
      match r.precision? with
      | none => return (width, none, values)
      | some p? =>
        let (precision, values) ← sizeOr p? values
        return (width, some precision, values)
    match sizes? with
    | some (width, precision?, v :: values) =>
      match directed form (r.directive width precision?) v with
      | some text => fillWithin form fuel (n + 1) r.rest values (text :: done)
      | none => (done, some (.noDirective (n + 1)))
    | _ => (done, some .tooFewValues)
  | fuel + 1, n, c :: rest, values, done =>
    let plain := rest.takeWhile (· != '%')
    fillWithin form fuel n (rest.drop plain.length) values (String.ofList (c :: plain) :: done)

/-- A format filled with values, as far as that goes, and what is wrong. -/
def fill (textForm form : String) (values : List Value) : String × Option FormatFault :=
  let (parts, fault?) := fillWithin textForm (form.length + 1) 0 form.toList values []
  (String.join parts.reverse, fault?)

end LintLedger.Utility.Awk
