import LintLedger.Decimal.Basic
import LintLedger.Json.Basic

/-!
# Strings, numbers and dates in settings files

A reader takes characters and answers with a value and the characters after it, or with
nothing if the characters do not begin with such a value.

## Main Definitions

* `Toml.string?` -- the four forms of strings
* `Toml.integer?`, `Toml.float?` -- numbers
* `Toml.dateTime?` -- dates, times and both
-/

namespace LintLedger.Toml

open LintLedger.Text

/-- A reader: a value and the characters after it. -/
abbrev Reader (α : Type) := List Char → Option (α × List Char)

/-! ## Blanks and comments -/

/-- Whether a character separates words on a line. -/
def isSpace (c : Char) : Bool := c == ' ' || c == '\t'

/-- Drops the blanks of a line. -/
def skipSpace (cs : List Char) : List Char := cs.dropWhile isSpace

/-- Whether a character may stand in a comment: anything but control characters, the tab
excepted. -/
def isCommentChar (c : Char) : Bool :=
  c == '\t' || (0x20 ≤ c.toNat && c.toNat ≠ 0x7f)

/-- Drops a comment. -/
def skipComment : List Char → List Char
  | '#' :: rest => rest.dropWhile isCommentChar
  | cs => cs

/-- What follows a line ending. -/
def afterNewline? : List Char → Option (List Char)
  | '\n' :: rest => some rest
  | '\r' :: '\n' :: rest => some rest
  | _ => none

/-- Drops blanks, comments and line endings; `fuel` bounds the number of lines. -/
def skipLines : Nat → List Char → List Char
  | 0, cs => cs
  | fuel + 1, cs =>
    let after := skipComment (skipSpace cs)
    match afterNewline? after with
    | some rest => skipLines fuel rest
    | none => after

/-! ## Strings -/

/-- Whether a character may stand for itself in a string on one line. -/
def isStringChar (c : Char) : Bool := isCommentChar c

/-- The value of a hexadecimal digit. -/
def hexValue? (c : Char) : Option Nat :=
  if c.isDigit then some (c.toNat - 48)
  else if 'a' ≤ c ∧ c ≤ 'f' then some (c.toNat - 87)
  else if 'A' ≤ c ∧ c ≤ 'F' then some (c.toNat - 55)
  else none

/-- The character with the code point written by hexadecimal digits. -/
def scalar? (digits : List Char) : Option Char :=
  (digits.mapM hexValue?).bind fun values =>
    let n := values.foldl (fun n d => 16 * n + d) 0
    if n.isValidChar then some (Char.ofNat n) else none

/-- The character of an escape, after the backslash. -/
def escape? : Reader Char
  | 'b' :: rest => some ('\x08', rest)
  | 't' :: rest => some ('\t', rest)
  | 'n' :: rest => some ('\n', rest)
  | 'f' :: rest => some ('\x0c', rest)
  | 'r' :: rest => some ('\r', rest)
  | '"' :: rest => some ('"', rest)
  | '\\' :: rest => some ('\\', rest)
  | 'u' :: a :: b :: c :: d :: rest => (scalar? [a, b, c, d]).map fun x => (x, rest)
  | 'U' :: a :: b :: c :: d :: e :: f :: g :: h :: rest =>
    (scalar? [a, b, c, d, e, f, g, h]).map fun x => (x, rest)
  | _ => none

/-- The rest of a string in double quotes on one line. -/
def basicRest? : Nat → List Char → List Char → Option (String × List Char)
  | 0, _, _ => none
  | _, _, [] => none
  | fuel + 1, done, c :: rest =>
    if c = '"' then some (String.ofList done.reverse, rest)
    else if c = '\\' then
      (escape? rest).bind fun (x, more) => basicRest? fuel (x :: done) more
    else if isStringChar c then basicRest? fuel (c :: done) rest
    else none

/-- The rest of a string in single quotes on one line. -/
def literalRest? : List Char → List Char → Option (String × List Char)
  | _, [] => none
  | done, c :: rest =>
    if c = '\'' then some (String.ofList done.reverse, rest)
    else if isStringChar c then literalRest? (c :: done) rest
    else none

/-- The end of a string in triple quotes: up to two quotes before the closing ones belong to
the string. -/
def closing? (quote : Char) (done : List Char) : List Char → Option (String × List Char)
  | a :: b :: c :: rest =>
    if a = quote ∧ b = quote ∧ c = quote then
      let text (extra : Nat) := String.ofList (List.replicate extra quote ++ done).reverse
      match rest with
      | d :: e :: more =>
        if d = quote ∧ e = quote then some (text 2, more)
        else if d = quote then some (text 1, e :: more)
        else some (text 0, rest)
      | [d] => if d = quote then some (text 1, []) else some (text 0, rest)
      | [] => some (text 0, [])
    else none
  | _ => none

/-- What follows a backslash at the end of a line, all blank lines and blanks included. -/
def afterContinuation? (fuel : Nat) (cs : List Char) : Option (List Char) :=
  (afterNewline? (skipSpace cs)).map (blankLines fuel)
where
  /-- Drops blanks and line endings. -/
  blankLines : Nat → List Char → List Char
    | 0, cs => cs
    | fuel + 1, cs =>
      let after := skipSpace cs
      match afterNewline? after with
      | some rest => blankLines fuel rest
      | none => after

/-- The rest of a string in triple quotes, with escapes if the quotes are double; a line
ending is one line feed. -/
def longRest? (quote : Char) : Nat → List Char → List Char → Option (String × List Char)
  | 0, _, _ => none
  | _, _, [] => none
  | fuel + 1, done, c :: rest =>
    match closing? quote done (c :: rest) with
    | some found => some found
    | none =>
      match afterNewline? (c :: rest) with
      | some more => longRest? quote fuel ('\n' :: done) more
      | none =>
        if c = '\\' ∧ quote = '"' then
          match afterContinuation? fuel rest with
          | some more => longRest? quote fuel done more
          | none => (escape? rest).bind fun (x, more) => longRest? quote fuel (x :: done) more
        else if isStringChar c then longRest? quote fuel (c :: done) rest
        else none

/-- Drops the line ending right after opening triple quotes. -/
def skipFirstNewline (cs : List Char) : List Char := (afterNewline? cs).getD cs

/-- A string in any of its four forms. -/
def string? (cs : List Char) : Option (String × List Char) :=
  let fuel := cs.length
  match cs with
  | '"' :: '"' :: '"' :: rest => longRest? '"' fuel [] (skipFirstNewline rest)
  | '\'' :: '\'' :: '\'' :: rest => longRest? '\'' fuel [] (skipFirstNewline rest)
  | '"' :: rest => basicRest? fuel [] rest
  | '\'' :: rest => literalRest? [] rest
  | _ => none

/-! ## Numbers -/

/-- The rest of a run of digits, in which a mark may stand between two digits. -/
def digitsRest (isDigit : Char → Bool) : List Char → List Char × List Char
  | '_' :: c :: rest =>
    if isDigit c then
      let (more, after) := digitsRest isDigit rest
      (c :: more, after)
    else ([], '_' :: c :: rest)
  | c :: rest =>
    if isDigit c then
      let (more, after) := digitsRest isDigit rest
      (c :: more, after)
    else ([], c :: rest)
  | [] => ([], [])

/-- A run of at least one digit, without the marks in it. -/
def digits? (isDigit : Char → Bool) : Reader (List Char)
  | c :: rest =>
    if isDigit c then
      let (more, after) := digitsRest isDigit rest
      some (c :: more, after)
    else none
  | [] => none

/-- Decimal digits without a zero in front. -/
def plainDigits? : Reader (List Char)
  | '0' :: rest => some (['0'], rest)
  | cs => digits? Char.isDigit cs

/-- A sign, if there is one: whether it is a minus, and what follows. -/
def sign : List Char → Bool × List Char
  | '-' :: rest => (true, rest)
  | '+' :: rest => (false, rest)
  | cs => (false, cs)

/-- Digits of a base as a number. -/
def natInBase? (base : Nat) (cs : List Char) : Option Nat :=
  (cs.mapM fun c => (hexValue? c).filter (· < base)).map fun ds =>
    ds.foldl (fun n d => base * n + d) 0

/-- An integer of 64 bits with sign. -/
def fitting? (i : Int) (rest : List Char) : Option (Int × List Char) :=
  if fitsInt64 i then some (i, rest) else none

/-- Digits of a base after its mark. -/
def basedInteger? (base : Nat) (cs : List Char) : Option (Int × List Char) :=
  (digits? (fun c => ((hexValue? c).filter (· < base)).isSome) cs).bind fun (ds, rest) =>
    (natInBase? base ds).bind fun n => fitting? n rest

/-- An integer: decimal with an optional sign, or in base sixteen, eight or two. -/
def integer? : Reader Int
  | '0' :: 'x' :: rest => basedInteger? 16 rest
  | '0' :: 'o' :: rest => basedInteger? 8 rest
  | '0' :: 'b' :: rest => basedInteger? 2 rest
  | cs =>
    let (negative, rest) := sign cs
    (plainDigits? rest).bind fun (ds, after) =>
      let n : Int := natOfDigits ds
      fitting? (if negative then -n else n) after

/-- An exponent with its mark. -/
def exponent? : Reader Int
  | c :: rest =>
    if c == 'e' || c == 'E' then
      let (negative, more) := sign rest
      (digits? Char.isDigit more).map fun (ds, after) =>
        let n : Int := natOfDigits ds
        (if negative then -n else n, after)
    else none
  | [] => none

/-- Digits after a point. -/
def fraction? : Reader (List Char)
  | '.' :: rest => digits? Char.isDigit rest
  | _ => none

/-- The digits, their shift and what follows: a fraction, an exponent, or both. -/
def decimal? (cs : List Char) : Option (Nat × Int × List Char) :=
  (plainDigits? cs).bind fun (whole, rest) =>
    match fraction? rest with
    | some (part, after) =>
      let n := natOfDigits (whole ++ part)
      let shift : Int := -(part.length : Int)
      match exponent? after with
      | some (e, more) => some (n, shift + e, more)
      | none => some (n, shift, after)
    | none => (exponent? rest).map fun (e, more) => (natOfDigits whole, e, more)

/-- A float: a decimal, infinity or not-a-number, with an optional sign.  A positive decimal
beyond the range of floats is none. -/
def float? (cs : List Char) : Option (Float × List Char) :=
  let (negative, rest) := sign cs
  let signed (x : Float) := if negative then -x else x
  match rest with
  | 'i' :: 'n' :: 'f' :: after => some (signed (1.0 / 0.0), after)
  | 'n' :: 'a' :: 'n' :: after => some (signed (0.0 / 0.0), after)
  | _ =>
    (decimal? rest).bind fun (n, shift, after) =>
      let x := signed (Decimal.ofDecimal n shift)
      if x == 1.0 / 0.0 then none else some (x, after)

/-! ## Dates and times -/

/-- Exactly so many ASCII digits, as a number. -/
def fixedDigits? (count : Nat) (cs : List Char) : Option (Nat × List Char) :=
  let ds := cs.take count
  if ds.length = count ∧ ds.all Char.isDigit then some (natOfDigits ds, cs.drop count) else none

/-- What follows one given character. -/
def after? (c : Char) : List Char → Option (List Char)
  | d :: rest => if c = d then some rest else none
  | [] => none

/-- Whether a year has a leap day. -/
def isLeapYear (year : Nat) : Bool :=
  (year % 4 == 0 && year % 100 != 0) || year % 400 == 0

/-- The number of days of a month. -/
def daysOfMonth (year month : Nat) : Nat :=
  if month = 2 then (if isLeapYear year then 29 else 28)
  else if month = 4 ∨ month = 6 ∨ month = 9 ∨ month = 11 then 30
  else 31

/-- What follows a date that exists. -/
def afterDate? (cs : List Char) : Option (List Char) := do
  let (year, cs) ← fixedDigits? 4 cs
  let cs ← after? '-' cs
  let (month, cs) ← fixedDigits? 2 cs
  let cs ← after? '-' cs
  let (day, cs) ← fixedDigits? 2 cs
  if 1 ≤ month ∧ month ≤ 12 ∧ 1 ≤ day ∧ day ≤ daysOfMonth year month then some cs else none

/-- What follows a time of day, seconds included. -/
def afterTime? (cs : List Char) : Option (List Char) := do
  let (hour, cs) ← fixedDigits? 2 cs
  let cs ← after? ':' cs
  let (minute, cs) ← fixedDigits? 2 cs
  let cs ← after? ':' cs
  let (second, cs) ← fixedDigits? 2 cs
  if hour ≤ 23 ∧ minute ≤ 59 ∧ second ≤ 60 then
    match cs with
    | '.' :: rest =>
      let part := rest.takeWhile Char.isDigit
      if part.isEmpty then some cs else some (rest.dropWhile Char.isDigit)
    | _ => some cs
  else none

/-- What follows an offset from universal time, if there is one. -/
def skipOffset (cs : List Char) : List Char :=
  match cs with
  | 'Z' :: rest => rest
  | 'z' :: rest => rest
  | c :: rest =>
    if c == '+' || c == '-' then
      let after? := do
        let (hour, cs) ← fixedDigits? 2 rest
        let cs ← after? ':' cs
        let (minute, cs) ← fixedDigits? 2 cs
        if hour ≤ 23 ∧ minute ≤ 59 then some cs else none
      after?.getD cs
    else cs
  | [] => []

/-- What follows a date, a time, or a date with a time and an optional offset. -/
def afterDateTime? (cs : List Char) : Option (List Char) :=
  match afterDate? cs with
  | some rest =>
    match rest with
    | c :: more =>
      if c == 'T' || c == 't' || c == ' ' then
        match afterTime? more with
        | some after => some (skipOffset after)
        | none => some rest
      else some rest
    | [] => some []
  | none => afterTime? cs

/-- The key under which a date or time is kept in a document. -/
def dateKey : String := "$date"

/-- A date or time, kept as an object with one member that holds its text. -/
def dateTime? (cs : List Char) : Option (Json × List Char) :=
  (afterDateTime? cs).map fun rest =>
    (.obj [(dateKey, .str (String.ofList (cs.take (cs.length - rest.length))))], rest)

end LintLedger.Toml
