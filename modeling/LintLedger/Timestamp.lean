import LintLedger.Text.Integer

/-!
# Timestamps

A point in time to the second, in universal time.  Timestamps are written with four digits for
the year, two for every other part and a `Z` at the end, so that the order of their texts is
the order of time.  They are read with any offset from universal time and are converted; parts
of seconds are dropped.

## Main Definitions

* `Timestamp` -- a point in time
* `Timestamp.ofSeconds` -- the time by the seconds since 1970
* `Timestamp.ofText?`, `Timestamp.toText` -- read and write one

## Design Notes

A minute may have a leap second, wherever it lies.  Offsets are whole minutes of less than a
day, so that a conversion moves the date by one day at most.
-/

namespace LintLedger

/-- A point in time to the second, in universal time. -/
structure Timestamp where
  year : Int
  month : Nat
  day : Nat
  hour : Nat
  minute : Nat
  /-- Sixty is a leap second. -/
  second : Nat
deriving DecidableEq, Repr

namespace Timestamp

/-! ## The calendar -/

/-- Whether a year has a leap day. -/
def isLeapYear (year : Int) : Bool := year % 4 == 0 && (year % 100 != 0 || year % 400 == 0)

/-- The number of days in a month. -/
def daysIn (year : Int) (month : Nat) : Nat :=
  if month = 2 then if isLeapYear year then 29 else 28
  else if month = 4 ∨ month = 6 ∨ month = 9 ∨ month = 11 then 30
  else 31

/-- Whether there is such a day. -/
def isDate (year : Int) (month day : Nat) : Bool :=
  1 ≤ month && month ≤ 12 && 1 ≤ day && day ≤ daysIn year month

/-- The day before. -/
def dayBefore (t : Timestamp) : Timestamp :=
  if 1 < t.day then { t with day := t.day - 1 }
  else if 1 < t.month then { t with month := t.month - 1, day := daysIn t.year (t.month - 1) }
  else { t with year := t.year - 1, month := 12, day := 31 }

/-- The day after. -/
def dayAfter (t : Timestamp) : Timestamp :=
  if t.day < daysIn t.year t.month then { t with day := t.day + 1 }
  else if t.month < 12 then { t with month := t.month + 1, day := 1 }
  else { t with year := t.year + 1, month := 1, day := 1 }

/-- A local time converted to universal time; the offset is in minutes, less than a day. -/
def removeOffset (offset : Int) (t : Timestamp) : Timestamp :=
  let minutes := Int.ofNat (60 * t.hour + t.minute) - offset
  let ofDay := (minutes % 1440).toNat
  let moved := { t with hour := ofDay / 60, minute := ofDay % 60 }
  if minutes < 0 then moved.dayBefore
  else if 1440 ≤ minutes then moved.dayAfter
  else moved

/-- The time at a number of seconds since the beginning of 1970.  Days are counted from the
first of March of the year zero, so that a leap day is the last of its year; 400 years have
146097 days. -/
def ofSeconds (seconds : Int) : Timestamp :=
  let ofDay := (seconds % 86400).toNat
  let days := seconds / 86400 + 719468
  let ofEra := (days % 146097).toNat
  let yearOfEra := (ofEra - ofEra / 1460 + ofEra / 36524 - ofEra / 146096) / 365
  let ofYear := ofEra - (365 * yearOfEra + yearOfEra / 4 - yearOfEra / 100)
  let fromMarch := (5 * ofYear + 2) / 153
  let month := if fromMarch < 10 then fromMarch + 3 else fromMarch - 9
  let year := Int.ofNat yearOfEra + 400 * (days / 146097)
  { year := if month ≤ 2 then year + 1 else year
    month := month
    day := ofYear - (153 * fromMarch + 2) / 5 + 1
    hour := ofDay / 3600
    minute := ofDay / 60 % 60
    second := ofDay % 60 }

/-! ## Reading -/

/-- A number of exactly `n` digits at the front, and the rest. -/
def digits? (n : Nat) (cs : List Char) : Option (Nat × List Char) :=
  let front := cs.take n
  if front.length = n ∧ front.all Char.isDigit then
    some (Text.natOfDigits front, cs.drop n)
  else none

/-- The rest after one of some characters. -/
def after? (allowed : List Char) : List Char → Option (List Char)
  | c :: rest => if allowed.contains c then some rest else none
  | [] => none

/-- The rest after a part of a second, which needs a digit if it begins. -/
def dropFraction? : List Char → Option (List Char)
  | '.' :: rest =>
    if rest.head?.any Char.isDigit then some (rest.dropWhile Char.isDigit) else none
  | cs => some cs

/-- The offset in minutes that is all of a text.  A minus sign may be the hyphen or the sign
of mathematics. -/
def offset? : List Char → Option Int
  | ['Z'] => some 0
  | ['z'] => some 0
  | sign :: rest => do
    let negative ←
      if sign = '+' then some false
      else if sign = '-' ∨ sign = '−' then some true
      else none
    let (hours, rest) ← digits? 2 rest
    let rest ← after? [':'] rest
    let (minutes, rest) ← digits? 2 rest
    if rest.isEmpty ∧ hours < 24 ∧ minutes < 60 then
      let total := Int.ofNat (60 * hours + minutes)
      some (if negative then -total else total)
    else none
  | [] => none

/-- The timestamp that a text means. -/
def ofText? (text : String) : Option Timestamp := do
  let (year, rest) ← digits? 4 text.toList
  let rest ← after? ['-'] rest
  let (month, rest) ← digits? 2 rest
  let rest ← after? ['-'] rest
  let (day, rest) ← digits? 2 rest
  let rest ← after? ['T', 't', ' '] rest
  let (hour, rest) ← digits? 2 rest
  let rest ← after? [':'] rest
  let (minute, rest) ← digits? 2 rest
  let rest ← after? [':'] rest
  let (second, rest) ← digits? 2 rest
  let rest ← dropFraction? rest
  let offset ← offset? rest
  if isDate year month day ∧ hour < 24 ∧ minute < 60 ∧ second ≤ 60 then
    some (removeOffset offset ⟨year, month, day, hour, minute, second⟩)
  else none

/-! ## Writing -/

/-- A number with zeros in front up to a width. -/
def padded (width n : Nat) : String :=
  let text := toString n
  "".pushn '0' (width - text.length) ++ text

/-- The text of a year; one that is not in the first ten thousand has a sign. -/
def yearText (year : Int) : String :=
  if year < 0 then "-" ++ padded 4 year.natAbs
  else if year < 10000 then padded 4 year.natAbs
  else "+" ++ padded 4 year.natAbs

/-- The text of a timestamp. -/
def toText (t : Timestamp) : String :=
  yearText t.year ++ "-" ++ padded 2 t.month ++ "-" ++ padded 2 t.day ++ "T"
    ++ padded 2 t.hour ++ ":" ++ padded 2 t.minute ++ ":" ++ padded 2 t.second ++ "Z"

/-- The digits of a timestamp with a letter between date and time, as in names of files. -/
def compactText (t : Timestamp) : String :=
  yearText t.year ++ padded 2 t.month ++ padded 2 t.day ++ "T"
    ++ padded 2 t.hour ++ padded 2 t.minute ++ padded 2 t.second ++ "Z"

end Timestamp

end LintLedger
