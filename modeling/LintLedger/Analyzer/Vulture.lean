import LintLedger.Analyzer.Basic
import LintLedger.Settings
import LintLedger.Text.Case

/-!
# Vulture

Dead code in Python sources, reported as text lines such as
`pkg/mod.py:12: unused function 'helper' (60% confidence)`.

## Main Definitions

* `Vulture.Entry`, `Vulture.entryOfLine?` -- a report line taken apart
* `Vulture.kindOf?` -- what kind of dead code a message names
* `Vulture.analyzer` -- the analyzer
-/

namespace LintLedger.Vulture

open LintLedger.Text

/-- The command line. -/
def command (settings : VultureSettings) (target : String) : List String :=
  ["vulture", "--min-confidence", toString settings.minConfidence, target]

/-- A report line taken apart. -/
structure Entry where
  file : String
  line : Int
  message : String
  confidence? : Option Int
deriving DecidableEq, Repr

/-- Digits and a colon in front of a list of characters: the digits and what follows. -/
def lineMark? (cs : List Char) : Option (List Char × List Char) :=
  match cs.dropWhile isDecimalDigit with
  | ':' :: rest =>
    let digits := cs.takeWhile isDecimalDigit
    if digits.isEmpty then none else some (digits, rest)
  | _ => none

/-- The shortest nonempty file name that is followed by a colon, digits and a colon, with the
digits and what follows; `name` holds the characters passed so far, last first. -/
def splitFile? (name : List Char) : List Char → Option (List Char × List Char × List Char)
  | [] => none
  | c :: rest =>
    let mark := if c = ':' ∧ ¬ name.isEmpty then lineMark? rest else none
    match mark with
    | some (digits, more) => some (name.reverse, digits, more)
    | none => splitFile? (c :: name) rest

/-- The digits of a confidence remark that the characters consist of, blanks in front of it
aside: an opening parenthesis, digits, a percent sign, blanks, the word and the closing
parenthesis. -/
def confidenceRemark? (cs : List Char) : Option (List Char) :=
  match cs.dropWhile isBlank with
  | '(' :: rest =>
    let digits := rest.takeWhile isDecimalDigit
    match rest.dropWhile isDecimalDigit with
    | '%' :: more =>
      let word := more.dropWhile isBlank
      if !digits.isEmpty && word.length < more.length
          && trimChars word == "confidence)".toList then some digits
      else none
    | _ => none
  | _ => none

/-- The message in front of a confidence remark, and the digits of the remark if there is
one. -/
def splitRemark : List Char → List Char × Option (List Char)
  | [] => ([], none)
  | c :: rest =>
    match confidenceRemark? (c :: rest) with
    | some digits => ([], some digits)
    | none =>
      let (message, digits?) := splitRemark rest
      (c :: message, digits?)

/-- The entry on a report line; other lines have none. -/
def entryOfLine? (line : String) : Option Entry :=
  (splitFile? [] (trimChars line.toList)).bind fun (file, digits, rest) =>
    (int64Of? (String.ofList digits)).map fun number =>
      let (message, remark?) := splitRemark (rest.dropWhile isBlank)
      { file := String.ofList file
        line := number
        message := String.ofList (trimChars message)
        confidence? := remark?.bind fun ds => int64Of? (String.ofList ds) }

/-- The words in front of the first quote, in small letters with hyphens between them. -/
def kindOf? (message : String) : Option String :=
  let head := message.toList.takeWhile fun c => c != '\'' && c != '"'
  let kind := words (lower (String.ofList head))
  if kind.isEmpty then none else some ("-".intercalate kind)

/-- Whether an entry is certain enough; an entry without confidence is. -/
def isCertain (settings : VultureSettings) (e : Entry) : Bool :=
  match e.confidence? with
  | some c => decide (Int.ofNat settings.minConfidence ≤ c)
  | none => true

/-- The finding of an entry. -/
def row (ctx : PathContext) (root : String) (e : Entry) : Finding :=
  (Finding.blank .vulture (ctx.filePath e.file) root).lines (some e.line) (some e.line)
    |>.text "message" (some e.message)
    |>.int "confidence" e.confidence?
    |>.text "kind" (kindOf? e.message)

/-- The findings of a run. -/
def findings (settings : VultureSettings) (run : RunRecord) (ctx : PathContext) : List Finding :=
  let entries := (Text.lines run.stdout).filterMap entryOfLine?
  let root := ctx.root (entries.map (·.file))
  (entries.filter (isCertain settings)).map (row ctx root)

/-- The analyzer; it ends with three when it found something. -/
def analyzer (settings : VultureSettings) : Analyzer :=
  { Analyzer.plain .vulture (command settings) (findings settings) with
    accepts := fun code => code == 0 || code == 3 }

end LintLedger.Vulture
