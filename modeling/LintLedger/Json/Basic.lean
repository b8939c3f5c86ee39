import LintLedger.Data.Assoc
import LintLedger.Decimal.Basic
import LintLedger.Text.Integer

/-!
# JSON values

The tools report in JSON, the findings keep parts of it, and the identity of a finding is
computed from its text.  An object is the list of its members; a value read from text has
them in ascending key order with distinct keys.

## Main Definitions

* `Number` -- an integer or a binary float
* `Json` -- the values
* `Json.get?`, `Json.items`, `Json.members`, `Json.dig?` -- looking inside
* `Number.toInt64`, `Number.toFloat` -- the two numeric readings of a number
-/

namespace LintLedger

/-- A JSON number: an integer is kept exactly, every other number is a binary float. -/
inductive Number where
  | int (i : Int)
  | real (x : Float)

/-- A JSON value. -/
inductive Json where
  | null
  | bool (b : Bool)
  | num (n : Number)
  | str (s : String)
  | arr (items : List Json)
  | obj (members : List (String × Json))

instance : Inhabited Json := ⟨.null⟩

/-- The integer part of a float, kept within the signed 64-bit range; not-a-number is zero. -/
def truncateFloat (x : Float) : Int :=
  match Decimal.readBits x.toBits with
  | .notANumber => 0
  | .infinite negative => if negative then Text.int64Min else Text.int64Max
  | .finite negative value =>
    let magnitude : Int :=
      if value.exponent ≥ 0 then Int.ofNat (value.mantissa * Nat.pow 2 value.exponent.toNat)
      else Int.ofNat (value.mantissa / Nat.pow 2 (-value.exponent).toNat)
    if negative then max Text.int64Min (-magnitude) else min Text.int64Max magnitude

/-- The float nearest to an integer. -/
def floatOfInt (i : Int) : Float :=
  if i < 0 then -(Float.ofScientific i.natAbs false 0) else Float.ofScientific i.natAbs false 0

namespace Number

/-- The number as a signed 64-bit integer: an integer beyond the range is cut to its nearest
end, a float is truncated. -/
def toInt64 : Number → Int
  | .int i => max Text.int64Min (min Text.int64Max i)
  | .real x => truncateFloat x

/-- The number as an integer, if it is one of the signed 64-bit integers. -/
def exactInt64? : Number → Option Int
  | .int i => if Text.fitsInt64 i then some i else none
  | .real _ => none

/-- The number as a float. -/
def toFloat : Number → Float
  | .int i => floatOfInt i
  | .real x => x

end Number

namespace Json

/-- An integer value. -/
def ofInt (i : Int) : Json := .num (.int i)

/-- A natural number value. -/
def ofNat (n : Nat) : Json := .num (.int n)

/-- A float value; JSON has none for infinities and not-a-number, which become `null`. -/
def ofFloat (x : Float) : Json := if x.isFinite then .num (.real x) else .null

/-- A value or `null`. -/
def ofOption {α : Type} (f : α → Json) : Option α → Json
  | none => .null
  | some a => f a

/-- A list of texts. -/
def ofStrings (xs : List String) : Json := .arr (xs.map .str)

/-- An object with one member per key of a map. -/
def ofAssoc {α : Type} (f : α → Json) (m : Assoc α) : Json := .obj (m.mapValues f)

/-- Whether the value is `null`. -/
def isNull : Json → Bool
  | .null => true
  | _ => false

/-- Whether the value is an object. -/
def isObject : Json → Bool
  | .obj _ => true
  | _ => false

/-- The member of an object under a key. -/
def get? (key : String) : Json → Option Json
  | .obj members => Assoc.find? key members
  | _ => none

/-- The text of a string value. -/
def str? : Json → Option String
  | .str s => some s
  | _ => none

/-- The truth value of a boolean. -/
def bool? : Json → Option Bool
  | .bool b => some b
  | _ => none

/-- The items of an array. -/
def arr? : Json → Option (List Json)
  | .arr items => some items
  | _ => none

/-- The members of an object. -/
def obj? : Json → Option (Assoc Json)
  | .obj members => some members
  | _ => none

/-- The integer of a number that is a signed 64-bit integer. -/
def int64? : Json → Option Int
  | .num n => n.exactInt64?
  | _ => none

/-- The value at the end of a chain of keys. -/
def dig? : List String → Json → Option Json
  | [], v => some v
  | key :: keys, v => (v.get? key).bind (dig? keys)

end Json

end LintLedger
