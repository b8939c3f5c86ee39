import LintLedger.Timestamp
import LintLedger.Utility.Paths

/-!
# The time of day

## Main Definitions

* `Moment` -- a point in time
* `Moment.filled` -- a format filled with a point in time
* `date` -- prints a point in time
-/

namespace LintLedger.Utility

open LintLedger.Machine

/-- How many seconds after the beginning of 1970 machines are started. -/
def startOfTime : Nat := 1767225600

/-- A point in time: seconds since the beginning of 1970, and nanoseconds. -/
structure Moment where
  seconds : Int
  nanoseconds : Nat

/-- The time of a file, which is known in nanoseconds after the machine was started. -/
def Moment.ofFileTime (time : Int) : Moment :=
  ⟨Int.ofNat startOfTime + time / 1000000000, (time % 1000000000).toNat⟩

/-- A point in time as it is known of files. -/
def Moment.fileTime (m : Moment) : Int :=
  (m.seconds - Int.ofNat startOfTime) * 1000000000 + Int.ofNat m.nanoseconds

/-- The time now. -/
def currentMoment : Act Moment := do
  let now ← Act.numberOrZero .time
  return ⟨Int.ofNat (startOfTime + now / 1000000000), now % 1000000000⟩

/-- The days from the beginning of 1970 to a date, years taken to begin in March. -/
def daysTo (year : Int) (month day : Nat) : Int :=
  let y := if month ≤ 2 then year - 1 else year
  let fromMarch := if month ≤ 2 then month + 9 else month - 3
  let ofYear := (153 * fromMarch + 2) / 5 + day - 1
  365 * y + y / 4 - y / 100 + y / 400 + Int.ofNat ofYear - 719468

namespace Moment

/-- The date and the time of day. -/
def stamp (m : Moment) : Timestamp := .ofSeconds m.seconds

/-- The day of the week; Sunday is zero. -/
def weekday (m : Moment) : Nat := ((m.seconds / 86400 + 4) % 7).toNat

/-- The day of the year, counted from zero. -/
def yearDay (m : Moment) : Nat := (m.seconds / 86400 - daysTo m.stamp.year 1 1).toNat

/-- The year that the week belongs to, and the number of the week; the week that has the first
Thursday of a year is its first. -/
def week (m : Moment) : Int × Nat :=
  let fromMonday := (m.weekday + 6) % 7
  let thursday : Moment := { m with seconds := m.seconds + 86400 * (3 - Int.ofNat fromMonday) }
  (thursday.stamp.year, thursday.yearDay / 7 + 1)

end Moment

/-- The days of the week. -/
def weekdayNames : List String :=
  ["Sunday", "Monday", "Tuesday", "Wednesday", "Thursday", "Friday", "Saturday"]

/-- The months. -/
def monthNames : List String :=
  ["January", "February", "March", "April", "May", "June", "July", "August", "September",
   "October", "November", "December"]

/-- The first three letters of a name. -/
def shortName (s : String) : String := String.ofList (s.toList.take 3)

/-- A number in a field: filled up with a character to a width. -/
def inField (fill : Char) (width : Nat) (i : Int) : String :=
  let digits := toString i.natAbs
  let sign := if i < 0 then "-" else ""
  if fill == '-' then sign ++ digits
  else if fill == ' ' then "".pushn ' ' (width - sign.length - digits.length) ++ sign ++ digits
  else sign ++ "".pushn '0' (width - sign.length - digits.length) ++ digits

/-- What a letter in a format stands for: a text, a number with its usual filling and width, or
another format. -/
inductive TimePart where
  | text (s : String)
  | number (fill : Char) (width : Nat) (i : Int)
  | format (s : String)

/-- What a letter in a format stands for. -/
def Moment.part? (m : Moment) (c : Char) : Option TimePart :=
  let t := m.stamp
  let twelve := if t.hour % 12 = 0 then 12 else t.hour % 12
  let two (n : Nat) : Option TimePart := some (.number '0' 2 (Int.ofNat n))
  let blank (n : Nat) : Option TimePart := some (.number ' ' 2 (Int.ofNat n))
  let dayName := weekdayNames[m.weekday]?.getD ""
  let monthName := monthNames[t.month - 1]?.getD ""
  match c with
  | 'a' => some (.text (shortName dayName))
  | 'A' => some (.text dayName)
  | 'b' => some (.text (shortName monthName))
  | 'h' => some (.text (shortName monthName))
  | 'B' => some (.text monthName)
  | 'c' => some (.format "%a %b %e %H:%M:%S %Y")
  | 'C' => some (.number '0' 2 (t.year / 100))
  | 'd' => two t.day
  | 'D' => some (.format "%m/%d/%y")
  | 'e' => blank t.day
  | 'F' => some (.format "%Y-%m-%d")
  | 'g' => some (.number '0' 2 (m.week.1 % 100))
  | 'G' => some (.number '0' 4 m.week.1)
  | 'H' => two t.hour
  | 'I' => two twelve
  | 'j' => some (.number '0' 3 (Int.ofNat (m.yearDay + 1)))
  | 'k' => blank t.hour
  | 'l' => blank twelve
  | 'm' => two t.month
  | 'M' => two t.minute
  | 'n' => some (.text "\n")
  | 'N' => some (.number '0' 9 (Int.ofNat m.nanoseconds))
  | 'p' => some (.text (if t.hour < 12 then "AM" else "PM"))
  | 'P' => some (.text (if t.hour < 12 then "am" else "pm"))
  | 'q' => some (.number '0' 1 (Int.ofNat ((t.month + 2) / 3)))
  | 'r' => some (.format "%I:%M:%S %p")
  | 'R' => some (.format "%H:%M")
  | 's' => some (.number '0' 1 m.seconds)
  | 'S' => two t.second
  | 't' => some (.text "\t")
  | 'T' => some (.format "%H:%M:%S")
  | 'u' => some (.number '0' 1 (Int.ofNat (if m.weekday = 0 then 7 else m.weekday)))
  | 'U' => two ((m.yearDay + 7 - m.weekday) / 7)
  | 'V' => two m.week.2
  | 'w' => some (.number '0' 1 (Int.ofNat m.weekday))
  | 'W' => two ((m.yearDay + 7 - (m.weekday + 6) % 7) / 7)
  | 'x' => some (.format "%m/%d/%y")
  | 'X' => some (.format "%H:%M:%S")
  | 'y' => some (.number '0' 2 (t.year % 100))
  | 'Y' => some (.number '0' 4 t.year)
  | 'z' => some (.text "+0000")
  | 'Z' => some (.text "UTC")
  | '%' => some (.text "%")
  | _ => none

/-- A format filled with a point in time; formats within it go at most so deep. -/
def Moment.filledWithin (m : Moment) : Nat → Nat → List Char → List Char
  | 0, _, cs => cs
  | _, 0, cs => cs
  | _, _, [] => []
  | depth + 1, fuel + 1, '%' :: rest =>
    let flags := rest.takeWhile fun c => "_-0^#".toList.contains c
    let after := rest.drop flags.length
    let width := after.takeWhile Char.isDigit
    match after.drop width.length with
    | [] => '%' :: rest
    | c :: more =>
      let fill? := (flags.filter fun c => "_-0".toList.contains c).getLast?
      let cased (cs : List Char) : List Char :=
        if flags.contains '^' then cs.map Char.toUpper
        else if flags.contains '#' then
          cs.map (if c == 'Z' || c == 'p' then Char.toLower else Char.toUpper)
        else cs
      match (if c == ':' && more.head? = some 'z' then some (.text "+00:00") else m.part? c) with
      | none => '%' :: (flags ++ width ++ [c]) ++ m.filledWithin (depth + 1) fuel more
      | some part =>
        let more := if c == ':' then more.drop 1 else more
        let here : List Char := match part with
          | .text s =>
            let cs := cased s.toList
            "".pushn (if fill? = some '0' then '0' else ' ') (Text.natOfDigits width - cs.length)
              |>.toList |> (· ++ cs)
          | .number fill size i =>
            let fill := match fill? with
              | some '_' => ' '
              | some c => c
              | none => fill
            (inField fill (if width.isEmpty then size else Text.natOfDigits width) i).toList
          | .format s => cased (m.filledWithin depth (s.length + 1) s.toList)
        here ++ m.filledWithin (depth + 1) fuel more
  | depth + 1, fuel + 1, c :: rest => c :: m.filledWithin (depth + 1) fuel rest

/-- A format filled with a point in time. -/
def Moment.filled (m : Moment) (format : String) : String :=
  String.ofList (m.filledWithin 3 (format.length + 1) format.toList)

/-! ## Reading -/

/-- A time of day: its seconds. -/
def timeOfDay? (cs : List Char) : Option Nat :=
  let parts := Text.splitOnChar (· == ':') (String.ofList cs)
  match parts.map decimal? with
  | [some h, some m] => if h < 24 && m < 60 then some (3600 * h + 60 * m) else none
  | [some h, some m, some s] =>
    if h < 24 && m < 60 && s ≤ 60 then some (3600 * h + 60 * m + s) else none
  | _ => none

/-- A date: its days since the beginning of 1970. -/
def dayOf? (cs : List Char) : Option Int :=
  match (Text.splitOnChar (· == '-') (String.ofList cs)).map decimal? with
  | [some y, some m, some d] =>
    if Timestamp.isDate (Int.ofNat y) m d then some (daysTo (Int.ofNat y) m d) else none
  | _ => none

/-- The point in time that words mean, read one after the other. -/
def momentOf (now : Moment) : Moment → List String → Option Moment
  | m, [] => some m
  | m, n :: unit :: "ago" :: rest =>
    match decimal? n, unitOf unit with
    | some n, some size =>
      momentOf now { m with seconds := m.seconds - Int.ofNat n * size } rest
    | _, _ => none
  | m, w :: rest =>
    let later (days : Int) : Moment := { m with seconds := m.seconds + 86400 * days }
    let atDay (d : Int) : Moment := ⟨86400 * d, 0⟩
    match w with
    | "now" => momentOf now m rest
    | "today" => momentOf now m rest
    | "yesterday" => momentOf now (later (-1)) rest
    | "tomorrow" => momentOf now (later 1) rest
    | "UTC" => momentOf now m rest
    | "Z" => momentOf now m rest
    | w =>
      match dayOf? w.toList, timeOfDay? w.toList with
      | some d, _ => momentOf now (atDay d) rest
      | none, some s =>
        momentOf now ⟨m.seconds / 86400 * 86400 + Int.ofNat s, 0⟩ rest
      | none, none =>
        let signed? := Text.intOf? w.toList
        match signed?, rest with
        | some n, unit :: rest =>
          match unitOf unit with
          | some size => momentOf now { m with seconds := m.seconds + n * size } rest
          | none => none
        | _, _ => none
where
  /-- How many seconds a unit has. -/
  unitOf (unit : String) : Option Int :=
    match unit with
    | "second" => some 1
    | "seconds" => some 1
    | "sec" => some 1
    | "minute" => some 60
    | "minutes" => some 60
    | "min" => some 60
    | "hour" => some 3600
    | "hours" => some 3600
    | "day" => some 86400
    | "days" => some 86400
    | "week" => some 604800
    | "weeks" => some 604800
    | _ => none

/-- The point in time that a text means. -/
def readMoment (now : Moment) (text : String) : Option Moment :=
  match text.toList with
  | '@' :: cs =>
    let whole := cs.takeWhile fun c => c != '.'
    let part := cs.drop (whole.length + 1)
    (Text.intOf? whole).map fun n =>
      ⟨n, Text.natOfDigits ((part ++ List.replicate 9 '0').take 9)⟩
  | cs =>
    let isBlank (c : Char) : Bool := c == ' ' || c == '\t'
    -- A letter between the date and the time of day counts as a blank.
    let spaced := cs.zipIdx.map fun (c, i) =>
      if c == 'T' && ((cs[i + 1]?).any Char.isDigit) then ' ' else c
    let spaced := if spaced.getLast? = some 'Z' && 1 < spaced.length then spaced.dropLast ++ [' ', 'Z'] else spaced
    let words := (Text.splitOnChar isBlank (String.ofList spaced)).filter (· != "")
    if words.isEmpty then some ⟨now.seconds / 86400 * 86400, 0⟩ else momentOf now now words

/-- Prints a point in time. -/
def date (words : List String) : Work Unit := do
  let g := grammar "d:I::r:Ruf:s:"
    [("date", 'd'), ("iso-8601", 'I'), ("reference", 'r'), ("rfc-email", 'R'), ("utc", 'u'),
     ("universal", 'u')]
  let g := { g with names := ("rfc-3339", '\x01', .word) :: g.names }
  let t ← readOptions g words
  let now ← act currentMoment
  let m ← match t.last? ['d', 'r'] with
    | some 'd' =>
      let w := (t.word? 'd').getD ""
      match readMoment now w with
      | some m => pure m
      | none => die ("invalid date " ++ quoted w)
    | some _ =>
      let w := (t.word? 'r').getD ""
      match ← act (Act.look w) with
      | .ok i =>
        pure (Moment.ofFileTime i.modified)
      | .error e => die (Text.quotedIfNeeded w ++ ": " ++ e.words)
    | none => pure now
  let spec : String → String
    | "hours" => "%Y-%m-%dT%H%:z"
    | "minutes" => "%Y-%m-%dT%H:%M%:z"
    | "seconds" => "%Y-%m-%dT%H:%M:%S%:z"
    | "ns" => "%Y-%m-%dT%H:%M:%S,%N%:z"
    | _ => "%Y-%m-%d"
  let standard := match t.last? ['I', 'R', '\x01'] with
    | some 'I' => spec ((t.word? 'I').getD "date")
    | some 'R' => "%a, %d %b %Y %H:%M:%S %z"
    | some _ => (spec ((t.word? '\x01').getD "date")).replace "T" " "
    | none => "%a %b %e %H:%M:%S %Z %Y"
  match t.operands with
  | [] => putLine (m.filled standard)
  | [w] =>
    match w.toList with
    | '+' :: format => putLine (m.filled (String.ofList format))
    | _ => die ("invalid date " ++ quoted w)
  | _ :: extra :: _ => extraOperand extra

end LintLedger.Utility
