import LintLedger.Digest.Sha256
import LintLedger.Finding
import LintLedger.Json.Writer
import LintLedger.Path.Basic

/-!
# The identity of a finding

The same finding in the same place has the same identity whichever scan reported it.  It is
the digest of the table, the root, the path below the root and those fields, out of a fixed
list, that say anything.

## Main Definitions

* `Finding.identityFields` -- the fields that take part, in order
* `Finding.identityParts` -- the texts that are digested
* `Finding.pk` -- the identity given, else the computed one
-/

namespace LintLedger

/-- Whether a number is not zero. -/
def Number.isNonzero : Number → Bool
  | .int i => i != 0
  | .real x => x != 0.0

/-- Whether a value says anything: null, false, zero and empty values do not. -/
def Json.isTruthy : Json → Bool
  | .null => false
  | .bool b => b
  | .num n => n.isNonzero
  | .str s => !s.isEmpty
  | .arr items => !items.isEmpty
  | .obj members => !members.isEmpty

/-- A string as it is, any other value as compact JSON. -/
def Json.plain : Json → String
  | .str s => s
  | v => v.render

namespace Finding

/-- The fields that tell apart two findings of one file, in the order in which they are
digested. -/
def identityFields : List String :=
  ["fingerprint", "row_type", "metric_type", "rule_id", "check_id", "message", "line_number",
   "end_line_number", "col_offset", "end_col_offset"]

/-- The table, the root, the path below it and the texts of the identity fields that say
anything. -/
def identityParts (f : Finding) : List String :=
  let root := Path.toSlashes f.root
  f.table :: root :: Path.identityRelative f.file root ::
    ((identityFields.filterMap f.column?).filter Json.isTruthy).map Json.plain

/-- The identity computed from the content. -/
def contentKey (f : Finding) : String := Sha256.hex ("|".intercalate f.identityParts)

/-- The identity of a finding: the one it was given, else the computed one. -/
def pk (f : Finding) : String := f.pk?.getD f.contentKey

end Finding

end LintLedger
