import LintLedger.Machine.Program
import LintLedger.Text.Quoted

/-!
# Programs of the system

What the programs of the system have in common: how they print and complain, how their options
are read, and how they read files line by line.

## Main Definitions

* `Desk`, `Work` -- what a program keeps while it works, and its activities
* `put`, `complain`, `asks`, `die` -- what a program says
* `Grammar`, `readOptions` -- options as programs take them
* `Source`, `nextLine` -- a file that is read line by line
* `Work.program` -- an activity as a program
-/

namespace LintLedger.Utility

open LintLedger.Machine

/-- What a program keeps while it works. -/
structure Desk where
  /-- The name under which the program runs. -/
  name : String
  /-- What was printed and is not written yet, the last text first. -/
  unwritten : List String
  /-- How many bytes that is. -/
  size : Nat
  /-- Why something could not be written. -/
  fault? : Option FileError
  status : Nat
  /-- The status of a program that fails. -/
  failing : Nat
  /-- Whether the name stands in front of what tells how to learn more. -/
  isHintNamed : Bool := false
  /-- What was read of the answers to questions and not used, and whether there are no more. -/
  answers : List Char × Bool := ([], false)

/-- An activity of a program. -/
abbrev Work (α : Type) := StateT Desk Act α

/-- An activity that has nothing to do with what the program keeps. -/
def act {α : Type} (m : Act α) : Work α := StateT.lift m

/-- How many bytes are kept before they are written. -/
def bufferSize : Nat := 4096

/-- Writes what was printed. -/
def flush : Work Unit := do
  let d ← get
  if d.unwritten.isEmpty then pure ()
  else
    set { d with unwritten := [], size := 0 }
    match ← act (Act.write 1 (String.join d.unwritten.reverse)) with
    | .ok () => pure ()
    | .error e => modify fun d => { d with fault? := some (d.fault?.getD e) }

/-- Prints. -/
def put (text : String) : Work Unit := do
  modify fun d =>
    { d with unwritten := text :: d.unwritten, size := d.size + text.length }
  if bufferSize ≤ (← get).size then flush

/-- Prints a line. -/
def putLine (text : String) : Work Unit := put (text ++ "\n")

/-- Says something on standard error. -/
def say (text : String) : Work Unit := do
  let _ ← act (Act.write 2 text)

/-- The next line of answers, in at most so many turns. -/
def answerWithin : Nat → Work (List Char)
  | 0 => pure []
  | turns + 1 => do
    let (chars, isOver) := (← get).answers
    let line := chars.takeWhile (· != '\n')
    if line.length < chars.length || isOver then
      modify fun d => { d with answers := (chars.drop (line.length + 1), isOver) }
      return line
    else
      let text := (← act (Act.read 0 Act.chunk)).toOption.getD ""
      modify fun d => { d with answers := (chars ++ text.toList, text = "") }
      answerWithin turns

/-- Asks a question; the value is whether the answer on standard input says yes. -/
def asks (question : String) : Work Bool := do
  flush
  say ((← get).name ++ ": " ++ question ++ "? ")
  let answer ← answerWithin Act.manyTurns
  return answer.head? = some 'y' || answer.head? = some 'Y'

/-- Says something with the name of the program in front of it, before what was printed is
written. -/
def complainAhead (message : String) : Work Unit := do
  say ((← get).name ++ ": " ++ message ++ "\n")

/-- Says something with the name of the program in front of it, after what was printed. -/
def complain (message : String) : Work Unit := do
  flush
  complainAhead message

/-- The program fails in the end. -/
def fails : Work Unit := modify fun d => { d with status := d.failing }

/-- Says that something is wrong; the program fails in the end. -/
def warn (message : String) : Work Unit := do
  complain message
  fails

/-- Ends the program. -/
def leave {α : Type} (status : Nat) : Work α := do
  flush
  let d ← get
  match d.fault? with
  | none => act (Act.exit status)
  | some e =>
    complain ("write error: " ++ e.words)
    act (Act.exit (← get).failing)

/-- Says that something is wrong and ends the program. -/
def die {α : Type} (message : String) : Work α := do
  complain message
  leave (← get).failing

/-- What is said of a program that was not used as it should be. -/
def hint : Work Unit := do
  let d ← get
  let name := d.name
  say ((if d.isHintNamed then name ++ ": " else "") ++ "Try '" ++ name ++ " --help' for more information.\n")

/-- Says that something is wrong, and how to learn more, and ends the program. -/
def misuse {α : Type} (message : String) : Work α := do
  complain message
  hint
  leave (← get).failing

/-- Says that there is too much. -/
def extraOperand {α : Type} (word : String) : Work α :=
  misuse ("extra operand " ++ Text.alwaysQuoted word)

/-- Says what is wrong with a file. -/
def warnFile (path : String) (e : FileError) : Work Unit :=
  warn (Text.quotedIfNeeded path ++ ": " ++ e.words)

/-- A program with its words; one that fails has that status. -/
def Work.program (failing : Nat) (words : List String)
    (body : List String → Work Unit) : Program :=
  Act.program do
    let desk : Desk :=
      { name := words.headD ""
        unwritten := []
        size := 0
        fault? := none
        status := 0
        failing := failing }
    let whole : Work Nat := do
      body words.tail
      leave (← get).status
    let (status, _) ← whole.run desk
    return status

/-! ## Options -/

/-- Whether an option takes a word. -/
inductive Taking where
  | nothing
  | word
  /-- A word that belongs to the same word as the option, if any. -/
  | perhaps
deriving DecidableEq, Repr

/-- An option that was given, by its letter. -/
structure Given where
  key : Char
  word? : Option String

/-- The options that a program takes: by their letters, and by longer names with the letter
they stand for. -/
structure Grammar where
  letters : List (Char × Taking) := []
  names : List (String × Char × Taking) := []
  /-- Whether the first word that is no option ends the options. -/
  stops : Bool := false
  /-- What is said of a digit that is no option. -/
  digitFault? : Option String := none

/-- The letters of a text; a colon says that the letter before it takes a word. -/
def lettersOf : List Char → List (Char × Taking)
  | c :: ':' :: ':' :: rest => (c, .perhaps) :: lettersOf rest
  | c :: ':' :: rest => (c, .word) :: lettersOf rest
  | c :: rest => (c, .nothing) :: lettersOf rest
  | [] => []

/-- Options that are letters and names for some of them. -/
def grammar (letters : String) (names : List (String × Char)) : Grammar :=
  let all := lettersOf letters.toList
  { letters := all
    names := names.map fun (name, key) =>
      (name, key, ((all.find? fun l => l.1 == key).map (·.2)).getD .nothing) }

/-- The words of a program taken apart. -/
structure Taken where
  options : List Given
  operands : List String

namespace Taken

/-- Whether an option was given. -/
def has (t : Taken) (key : Char) : Bool := t.options.any fun o => o.key == key

/-- The word of the last option of a letter. -/
def word? (t : Taken) (key : Char) : Option String :=
  (t.options.filter fun o => o.key == key).getLast?.bind (·.word?)

/-- The last of some options that exclude each other. -/
def last? (t : Taken) (keys : List Char) : Option Char :=
  ((t.options.filter fun o => keys.contains o.key).getLast?).map (·.key)

end Taken

/-- The letters of one word of options; the value is what was given and the words after it. -/
def takeLetters (g : Grammar) :
    List Char → List String → Except String (List Given × List String)
  | [], words => .ok ([], words)
  | c :: rest, words =>
    match g.letters.find? fun l => l.1 == c with
    | none =>
      match g.digitFault? with
      | some fault =>
        .error (if c.isDigit then fault ++ " -- " ++ String.singleton c
          else "invalid option -- '" ++ String.singleton c ++ "'")
      | none => .error ("invalid option -- '" ++ String.singleton c ++ "'")
    | some (_, .nothing) =>
      (takeLetters g rest words).map fun (more, words) => (⟨c, none⟩ :: more, words)
    | some (_, .perhaps) =>
      .ok ([⟨c, if rest.isEmpty then none else some (String.ofList rest)⟩], words)
    | some (_, .word) =>
      if !rest.isEmpty then .ok ([⟨c, some (String.ofList rest)⟩], words)
      else
        match words with
        | w :: words => .ok ([⟨c, some w⟩], words)
        | [] => .error ("option requires an argument -- '" ++ String.singleton c ++ "'")

/-- One option by its name; the value is what was given and the words after it. -/
def takeName (g : Grammar) (text : List Char) (words : List String) :
    Except String (Given × List String) :=
  let name := text.takeWhile (· != '=')
  let value? := match text.drop name.length with
    | _ :: value => some (String.ofList value)
    | [] => none
  let exact := g.names.filter fun n => n.1.toList == name
  let fitting := if exact.isEmpty then g.names.filter fun n => name.isPrefixOf n.1.toList
    else exact
  let keys := (fitting.map fun n => n.2.1).eraseDups
  match fitting, keys with
  | [], _ => .error ("unrecognized option '--" ++ String.ofList text ++ "'")
  | (full, key, taking) :: _, [_] =>
    match taking, value? with
    | .nothing, some _ =>
      .error ("option '--" ++ full ++ "' doesn't allow an argument")
    | .word, none =>
      match words with
      | w :: words => .ok (⟨key, some w⟩, words)
      | [] => .error ("option '--" ++ full ++ "' requires an argument")
    | _, value? => .ok (⟨key, value?⟩, words)
  | all, _ =>
    let shown := String.join (all.map fun n => " '--" ++ n.1 ++ "'")
    .error ("option '--" ++ String.ofList text ++ "' is ambiguous; possibilities:" ++ shown)

/-- Takes words apart. -/
def takeWords (g : Grammar) : Nat → List String → Except String Taken
  | 0, words => .ok ⟨[], words⟩
  | _, [] => .ok ⟨[], []⟩
  | turns + 1, w :: words =>
    match w.toList with
    | ['-', '-'] => .ok ⟨[], words⟩
    | '-' :: '-' :: text => do
      let (given, words) ← takeName g text words
      let t ← takeWords g turns words
      return ⟨given :: t.options, t.operands⟩
    | '-' :: c :: rest => do
      let (given, words) ← takeLetters g (c :: rest) words
      let t ← takeWords g turns words
      return ⟨given ++ t.options, t.operands⟩
    | _ =>
      if g.stops then .ok ⟨[], w :: words⟩
      else do
        let t ← takeWords g turns words
        return ⟨t.options, w :: t.operands⟩

/-- The words that are options, with the words that belong to them. -/
def optionWords (g : Grammar) : Nat → List String → List String
  | 0, _ => []
  | _, [] => []
  | turns + 1, w :: words =>
    let rest? : Option (List String) := match w.toList with
      | ['-', '-'] => some []
      | '-' :: '-' :: text => (takeName g text words).toOption.map (·.2)
      | '-' :: c :: rest => (takeLetters g (c :: rest) words).toOption.map (·.2)
      | _ => none
    match rest? with
    | none => optionWords g turns words
    | some rest =>
      let here := if w = "--" then [w] else w :: words.take (words.length - rest.length)
      here ++ optionWords g turns rest

/-- Takes the words of a program apart. -/
def readOptions (g : Grammar) (words : List String) : Work Taken := do
  match takeWords g (words.length + 1) words with
  | .ok t => return t
  | .error message => misuse message

/-! ## Files line by line -/

/-- A file that is read line by line. -/
structure Source where
  d : Nat
  /-- What was read and not used. -/
  rest : List Char
  isOver : Bool
  /-- Why no more could be read. -/
  fault? : Option FileError

/-- A source on a descriptor. -/
def Source.of (d : Nat) : Source := ⟨d, [], false, none⟩

/-- A line. -/
structure TextLine where
  chars : List Char
  /-- Whether it has an end. -/
  isEnded : Bool
deriving DecidableEq, Repr

/-- A line as a text, with its end if it has one. -/
def TextLine.text (l : TextLine) : String :=
  String.ofList l.chars ++ if l.isEnded then "\n" else ""

/-- The next line, which ends with a character, in at most so many turns; `before` is what of
it was read, the last part first. -/
def nextLineWithin (stop : Char) : Nat → List (List Char) → Source →
    Act (Option TextLine × Source)
  | 0, _, s => pure (none, s)
  | turns + 1, before, s => do
    let here := s.rest.takeWhile (· != stop)
    match s.rest.drop here.length with
    | _ :: rest => return (some ⟨(here :: before).reverse.flatten, true⟩, { s with rest := rest })
    | [] =>
      let before := if here.isEmpty then before else here :: before
      if s.isOver then
        let line? := if before.isEmpty then none else some ⟨before.reverse.flatten, false⟩
        return (line?, { s with rest := [] })
      else
        match ← Act.read s.d Act.chunk with
        | .error e =>
          nextLineWithin stop turns before { s with rest := [], isOver := true, fault? := some e }
        | .ok "" => nextLineWithin stop turns before { s with rest := [], isOver := true }
        | .ok text => nextLineWithin stop turns before { s with rest := text.toList }

/-- The next line. -/
def nextLine (s : Source) : Act (Option TextLine × Source) :=
  nextLineWithin '\n' Act.manyTurns [] s

/-- The lines of a text. -/
def linesOf (stop : Char) (text : String) : List TextLine :=
  let parts := Text.splitOnChar (· == stop) text
  let ended := parts.dropLast.map fun p => TextLine.mk p.toList true
  match parts.getLast? with
  | some last => if last = "" then ended else ended ++ [⟨last.toList, false⟩]
  | none => ended

/-- Opens a file for reading; a dash means standard input. -/
def openInput (path : String) : Act (Except FileError Nat) :=
  if path = "-" then pure (.ok 0) else Act.openFile path .input

/-- Closes what was opened for reading. -/
def closeInput (d : Nat) : Act Unit := if d = 0 then pure () else Act.close d

/-- All that is in a file. -/
def readInput (path : String) : Act (Except FileError String) := do
  match ← openInput path with
  | .error e => return .error e
  | .ok d =>
    let text ← Act.readAll d
    closeInput d
    return text

/-! ## Numbers -/

/-- A number of decimal digits. -/
def decimal? (text : String) : Option Nat := Text.natOf? text.toList

/-- What a unit after a number multiplies it by, if the unit begins with one of some letters. -/
def multiplier? (letters : List Char) (unit : List Char) : Option Nat :=
  let power? (c : Char) : Option Nat :=
    ("KMGTPEZYRQ".toList.findIdx? (· == c.toUpper)).map (· + 1)
  match unit with
  | [] => some 1
  | c :: rest =>
    if !letters.contains c then none
    else
      match c, rest, power? c with
      | 'b', [], _ => some 512
      | 'c', [], _ => some 1
      | 'w', [], _ => some 2
      | _, [], some n => some (Nat.pow 1024 n)
      | _, ['B'], some n => some (Nat.pow 1000 n)
      | _, ['i', 'B'], some n => some (Nat.pow 1024 n)
      | _, _, _ => none

/-- A number of decimal digits with a unit after it, which begins with one of some letters; a unit
by itself counts once. -/
def amount? (letters text : String) : Option Nat :=
  let digits := text.toList.takeWhile Char.isDigit
  let number := if digits.isEmpty then 1 else Text.natOfDigits digits
  if text = "" then none
  else (multiplier? letters.toList (text.toList.drop digits.length)).map (number * ·)

end LintLedger.Utility
