import LintLedger.Decimal.Basic
import LintLedger.Json.Writer
import LintLedger.Text.Blank

/-!
# Lenient readings of reported values

Reports of different tools and versions spell the same thing as a number or as a string.
These readings accept both where that is harmless, and take an absent value as an absent
answer, so that a report with a missing or odd field loses that field and nothing else.

## Main Definitions

* `Json.asInt?`, `Json.asFloat?` -- a number, or a string that holds one
* `Json.asText?` -- a nonempty string, or a number as text
* `Json.nonEmpty?` -- anything but null and empty containers
* `Json.itemsOf` -- the items of an array, none of anything else
-/

namespace LintLedger.Json

/-- An integer from a number or a numeric string. -/
def asInt? : Option Json → Option Int
  | some (.num n) => some n.toInt64
  | some (.str s) => Text.int64Of? (Text.trim s)
  | _ => none

/-- A float from a number or a numeric string. -/
def asFloat? : Option Json → Option Float
  | some (.num n) => some n.toFloat
  | some (.str s) => Decimal.floatOf? (Text.trim s)
  | _ => none

/-- A nonempty string, or the text of a number. -/
def asText? : Option Json → Option String
  | some (.str s) => if s.isEmpty then none else some s
  | some (.num n) => some n.render
  | _ => none

/-- The value unless it is null or an empty container. -/
def nonEmpty? : Option Json → Option Json
  | none => none
  | some .null => none
  | some (.arr []) => none
  | some (.obj []) => none
  | some v => some v

/-- The items of an array. -/
def itemsOf : Option Json → List Json
  | some (.arr items) => items
  | _ => []

/-- The string under a key. -/
def textAt? (key : String) (v : Json) : Option String := (v.get? key).bind str?

end LintLedger.Json
