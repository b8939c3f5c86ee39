import LintLedger.Json.Basic

/-!
# Writing JSON text

The compact form has no blanks; the indented form puts every item and member on its own line,
two blanks deeper than its container, and leaves empty containers on one line.

## Main Definitions

* `Json.realFormat` -- how floats are written
* `Number.render` -- a number
* `Json.quote` -- a string with its quotes
* `Json.render` -- the compact form
* `Json.renderIndented` -- the indented form
-/

namespace LintLedger

/-- Floats have the fewest digits that read back; the first digit is written positionally from
`10 ^ -5` to `10 ^ 15`, integral floats end in `.0`, and an exponent carries its sign. -/
def Json.realFormat : Decimal.RealFormat where
  positionalFrom := -5
  positionalTo := 15
  integralEnd := ".0"
  exponentMark := "e"
  positiveSign := "+"

/-- A float in JSON text; infinities and not-a-number have no form and give `null`. -/
def Json.renderReal (x : Float) : String :=
  match Decimal.readBits x.toBits with
  | .notANumber => "null"
  | .infinite _ => "null"
  | .finite negative value =>
    (if negative then "-" else "") ++ value.shortest.render Json.realFormat

/-- A number in JSON text. -/
def Number.render : Number → String
  | .int i => toString i
  | .real x => Json.renderReal x

namespace Json

/-- A small hexadecimal digit. -/
def hexDigit (n : Nat) : Char :=
  if n < 10 then Char.ofNat (48 + n) else Char.ofNat (87 + n)

/-- A character inside quotes. -/
def escapeChar (c : Char) : List Char :=
  match c with
  | '"' => ['\\', '"']
  | '\\' => ['\\', '\\']
  | '\x08' => ['\\', 'b']
  | '\x0c' => ['\\', 'f']
  | '\n' => ['\\', 'n']
  | '\r' => ['\\', 'r']
  | '\t' => ['\\', 't']
  | c =>
    if c.toNat < 0x20 then
      ['\\', 'u', '0', '0', hexDigit (c.toNat / 16), hexDigit (c.toNat % 16)]
    else [c]

/-- A string with its quotes. -/
def quote (s : String) : String :=
  String.ofList ('"' :: (s.toList.flatMap escapeChar ++ ['"']))

mutual

/-- The compact text of a value. -/
def render : Json → String
  | .null => "null"
  | .bool true => "true"
  | .bool false => "false"
  | .num n => n.render
  | .str s => quote s
  | .arr items => "[" ++ ",".intercalate (renderItems items) ++ "]"
  | .obj members => "\x7b" ++ ",".intercalate (renderMembers members) ++ "\x7d"

/-- The compact texts of the items of an array. -/
def renderItems : List Json → List String
  | [] => []
  | v :: rest => v.render :: renderItems rest

/-- The compact texts of the members of an object. -/
def renderMembers : List (String × Json) → List String
  | [] => []
  | (key, v) :: rest => (quote key ++ ":" ++ v.render) :: renderMembers rest

end

/-- A line break and the blanks before a line at the given depth. -/
def newLine (depth : Nat) : String := "\n" ++ String.ofList (List.replicate (2 * depth) ' ')

mutual

/-- The indented text of a value that stands at the given depth. -/
def renderAt (depth : Nat) : Json → String
  | .arr [] => "[]"
  | .obj [] => "\x7b\x7d"
  | .arr (v :: rest) =>
    let sep := newLine (depth + 1)
    "[" ++ sep ++ ("," ++ sep).intercalate (renderAt (depth + 1) v :: itemsAt (depth + 1) rest)
      ++ newLine depth ++ "]"
  | .obj ((key, v) :: rest) =>
    let sep := newLine (depth + 1)
    "\x7b" ++ sep ++ ("," ++ sep).intercalate
      ((quote key ++ ": " ++ renderAt (depth + 1) v) :: membersAt (depth + 1) rest)
      ++ newLine depth ++ "\x7d"
  | .null => "null"
  | .bool true => "true"
  | .bool false => "false"
  | .num n => n.render
  | .str s => quote s

/-- The indented texts of the items of an array. -/
def itemsAt (depth : Nat) : List Json → List String
  | [] => []
  | v :: rest => renderAt depth v :: itemsAt depth rest

/-- The indented texts of the members of an object. -/
def membersAt (depth : Nat) : List (String × Json) → List String
  | [] => []
  | (key, v) :: rest => (quote key ++ ": " ++ renderAt depth v) :: membersAt depth rest

end

/-- The indented text of a value. -/
def renderIndented (v : Json) : String := renderAt 0 v

end Json

end LintLedger
