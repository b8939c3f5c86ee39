import LintLedger.Shell.Format
import LintLedger.Shell.Test
import LintLedger.Utility.Basic

/-!
# Programs that print what they are given

## Main Definitions

* `echo`, `printf`, `yes` -- words
* `printenv` -- the environment
* `basename`, `dirname` -- the parts of paths
* `sleep` -- nothing, after a while
* `test` -- nothing, but an answer
-/

namespace LintLedger.Utility

open LintLedger.Machine

/-! ## Words -/

/-- The hexadecimal digits at the begin of a text, at most so many, as a number. -/
def hexDigits (value : Nat) : Nat → List Char → Nat × List Char
  | 0, cs => (value, cs)
  | _, [] => (value, [])
  | n + 1, c :: rest =>
    match Text.digitIn? 16 c with
    | some d => hexDigits (16 * value + d) n rest
    | none => (value, c :: rest)

/-- A text with its escapes replaced, and whether one of them ends all output. -/
def unescape : Nat → List Char → List Char × Bool
  | 0, _ => ([], false)
  | _, [] => ([], false)
  | fuel + 1, '\\' :: c :: rest =>
    let goOn (x : List Char) (rest : List Char) : List Char × Bool :=
      let (more, ended) := unescape fuel rest
      (x ++ more, ended)
    match c with
    | 'c' => ([], true)
    | '0' =>
      let (value, rest) := Shell.octalDigits 0 3 rest
      goOn [Shell.octalChar value] rest
    | 'x' =>
      if (rest.head?.bind (Text.digitIn? 16)).isSome then
        let (value, rest) := hexDigits 0 2 rest
        goOn [Shell.octalChar value] rest
      else goOn ['\\', 'x'] rest
    | c =>
      match Shell.letterEscape? c with
      | some x => goOn [x] rest
      | none =>
        if (Text.digitIn? 8 c).isSome then
          let (value, rest) := Shell.octalDigits 0 3 (c :: rest)
          goOn [Shell.octalChar value] rest
        else goOn ['\\', c] rest
  | fuel + 1, c :: rest =>
    let (more, ended) := unescape fuel rest
    (c :: more, ended)

/-- Prints words; options are only taken as long as all their letters are known. -/
def echo (words : List String) : Work Unit := do
  let isOption (w : String) : Bool :=
    match w.toList with
    | '-' :: c :: rest => (c :: rest).all fun c => "neE".toList.contains c
    | _ => false
  let options := (words.takeWhile isOption).flatMap fun w => w.toList.drop 1
  let words := words.drop (words.takeWhile isOption).length
  let line := (" ".intercalate words).toList
  let newline := if options.contains 'n' then "" else "\n"
  if (options.filter (· != 'n')).getLast? = some 'e' then
    let (text, ended) := unescape (line.length + 1) line
    put (String.ofList text ++ if ended then "" else newline)
  else put (String.ofList line ++ newline)

/-- Fills a format. -/
def printf (words : List String) : Work Unit := do
  let words := if words.head? = some "--" then words.tail else words
  match words with
  | [] => misuse "missing operand"
  | form :: args =>
    let f := Shell.format form args
    f.pieces.forM fun
      | .text s => put s
      | .warning w => do
        let colon := w.toList.reverse.dropWhile (· != ':')
        let arg := String.ofList (colon.drop 1).reverse
        let what := String.ofList (w.toList.drop colon.length)
        let said :=
          if what = " expected numeric value" then ": expected a numeric value"
          else if what = " not completely converted" then ": value not completely converted"
          else ":" ++ what
        warn (Text.alwaysQuoted arg ++ said)
    match f.fault? with
    | some fault =>
      let isEnd := fault = "missing format character"
      die (if isEnd then "%: invalid conversion specification"
        else fault.replace "directive" "conversion specification")
    | none => pure ()

/-- Prints a text again and again. -/
def repeatWithin (text : String) : Nat → Work Unit
  | 0 => pure ()
  | turns + 1 => do
    match ← act (Act.write 1 text) with
    | .ok () => repeatWithin text turns
    | .error e => die ("standard output: " ++ e.words)

/-- Prints its words for ever. -/
def yes (words : List String) : Work Unit := do
  let t ← readOptions { names := [("help", 'h', .nothing), ("version", 'v', .nothing)], stops := true } words
  let line := (if t.operands.isEmpty then "y" else " ".intercalate t.operands) ++ "\n"
  let copies := max 1 (bufferSize / line.length)
  repeatWithin (String.join (List.replicate copies line)) Act.manyTurns

/-- Prints variables. -/
def printenv (environment : List (String × String)) (words : List String) : Work Unit := do
  let t ← readOptions { grammar "0" [("null", '0')] with stops := true } words
  let ending := if t.has '0' then "\x00" else "\n"
  if t.operands.isEmpty then
    environment.forM fun (name, value) => put (name ++ "=" ++ value ++ ending)
  else
    t.operands.forM fun name =>
      match environment.find? fun v => v.1 == name with
      | some (_, value) => put (value ++ ending)
      | none => modify fun d => { d with status := 1 }

/-! ## Paths -/

/-- The last name on a path. -/
def lastName (path : String) : String :=
  let bare := Text.dropTail (· == '/') path.toList
  if bare.isEmpty then (if path = "" then "" else "/")
  else String.ofList ((bare.reverse.takeWhile (· != '/')).reverse)

/-- A name without an ending, unless there is nothing else. -/
def withoutEnding (ending name : String) : String :=
  let cs := name.toList
  let n := cs.length - ending.length
  if ending != "" && n != 0 && cs.drop n == ending.toList && name != "/" then
    String.ofList (cs.take n)
  else name

/-- Prints the last names on paths. -/
def basename (words : List String) : Work Unit := do
  let g := grammar "as:z" [("multiple", 'a'), ("suffix", 's'), ("zero", 'z')]
  let t ← readOptions { g with stops := true } words
  let stop := if t.has 'z' then "\x00" else "\n"
  if t.operands.isEmpty then misuse "missing operand"
  else if t.has 'a' || t.has 's' then
    t.operands.forM fun p => put (withoutEnding ((t.word? 's').getD "") (lastName p) ++ stop)
  else
    match t.operands with
    | _ :: _ :: extra :: _ => extraOperand extra
    | path :: more => put (withoutEnding (more.headD "") (lastName path) ++ stop)
    | [] => pure ()

/-- The path of what holds what a path means. -/
def holder (path : String) : String :=
  let bare := Text.dropTail (· == '/') path.toList
  let isAbsolute := path.toList.head? = some '/'
  if bare.isEmpty then (if isAbsolute then "/" else ".")
  else
    let dir := bare.reverse.dropWhile (· != '/')
    if dir.isEmpty then "."
    else
      let dir := dir.dropWhile (· == '/')
      if dir.isEmpty then "/" else String.ofList dir.reverse

/-- Prints paths without their last names. -/
def dirname (words : List String) : Work Unit := do
  let t ← readOptions { grammar "z" [("zero", 'z')] with stops := true } words
  if t.operands.isEmpty then misuse "missing operand"
  else t.operands.forM fun p => put (holder p ++ if t.has 'z' then "\x00" else "\n")

/-- Prints the path of the working directory. -/
def pwd (environment : List (String × String)) (words : List String) : Work Unit := do
  let t ← readOptions (grammar "LP" [("logical", 'L'), ("physical", 'P')]) words
  let real := (← act (Act.text .place)).toOption.getD ""
  if !t.operands.isEmpty then complain "ignoring non-option arguments"
  let named? := if t.last? ['L', 'P'] = some 'L' then
      (environment.find? fun v => v.1 == "PWD").map (·.2) else none
  match named? with
  | some path =>
    let here := (← act (Act.look path)).toOption.map (·.id)
    let there := (← act (Act.look ".")).toOption.map (·.id)
    putLine (if here = there && path.toList.head? = some '/' then path else real)
  | none => putLine real

/-! ## Time -/

/-- More nanoseconds than anybody waits. -/
def endless : Nat := Nat.pow 10 30

/-- The nanoseconds that a text means. -/
def nanoseconds? (text : String) : Option Nat :=
  match Decimal.readQuantity text.toList with
  | none => none
  | some r =>
    let unit? : Option Nat := match r.rest with
      | [] => some 1
      | ['s'] => some 1
      | ['m'] => some 60
      | ['h'] => some 3600
      | ['d'] => some 86400
      | _ => none
    match r.value, unit? with
    | .finite negative num den, some unit =>
      if negative && num != 0 then none
      else some ((num * unit * 1000000000 + den - 1) / den)
    | .infinite false, some _ => some endless
    | _, _ => none

/-- Waits for the sum of the times given. -/
def sleep (words : List String) : Work Unit := do
  let t ← readOptions {} words
  if t.operands.isEmpty then misuse "missing operand"
  else
    let bad := t.operands.filter fun w => (nanoseconds? w).isNone
    if bad.isEmpty then
      let _ ← act (Act.ask (.sleep ((t.operands.filterMap nanoseconds?).foldr (· + ·) 0)))
    else
      bad.forM fun w => complain ("invalid time interval " ++ Text.alwaysQuoted w)
      hint
      leave 1

/-! ## Conditions -/

/-- Asks a condition. -/
def test (words : List String) : Work Unit := do
  let name := (← get).name
  let isBracket := lastName name = "["
  let words ← if isBracket then
      (if words.getLast? = some "]" then pure words.dropLast else die "missing ']'")
    else pure words
  match ← act (Shell.condition words).run with
  | .ok b => leave (if b then 0 else 1)
  | .error message => die message

/-- Does nothing, and answers with a status. -/
def answer (status : Nat) : Work Unit := leave status

end LintLedger.Utility
