import LintLedger.Regex.Reader
import LintLedger.Text.Integer

/-!
# Scripts of a stream editor

A script is a row of commands, each a letter with what belongs to it, and each with at most two
addresses that say for which lines it is.

## Main Definitions

* `Address`, `Command`, `Step` -- scripts
* `readScript` -- reads a script
-/

namespace LintLedger.Utility.Editor

/-- A regular expression of a script; none means the one that was used last. -/
structure EditPattern where
  regex? : Option Regex
  foldsCase : Bool := false
  hasLines : Bool := false

/-- Which lines are meant. -/
inductive Address where
  | line (n : Nat)
  | last
  | pattern (p : EditPattern)
  /-- A line and every so many after it. -/
  | every (first distance : Nat)
  /-- So many lines after another address. -/
  | plus (n : Nat)
  /-- Up to a line whose number is a multiple. -/
  | multiple (n : Nat)

/-- What becomes of letters in a replacement from a place on. -/
inductive Casing where
  | upper
  | lower
  | upperFirst
  | lowerFirst
  | asIs
deriving DecidableEq, Repr

/-- A part of a replacement. -/
inductive ReplacementPart where
  | text (s : List Char)
  /-- What a group has fitted; number zero stands for all that was fitted. -/
  | group (n : Nat)
  | casing (c : Casing)

/-- A replacement for parts of lines. -/
structure Substitution where
  pattern : EditPattern
  parts : List ReplacementPart
  isGlobal : Bool := false
  /-- The first of the parts that are replaced. -/
  number : Nat := 1
  prints : Bool := false
  path? : Option String := none

/-- What is done for a line. -/
inductive Command where
  | noop
  /-- The begin of a block, with the number of the step after it. -/
  | begin (after : Nat)
  | lineNumber
  | append (text : List Char)
  | insert (text : List Char)
  | change (text : List Char)
  /-- Goes on elsewhere; without a label, at the end. -/
  | branch (label : String)
  | branchIf (label : String)
  | branchUnless (label : String)
  | delete
  | deleteFirst
  | fileName
  | getHold
  | addHold
  | hold
  | holdMore
  | list (width? : Option Nat)
  | next
  | addNext
  | print
  | printFirst
  | quit (status : Nat)
  | leave (status : Nat)
  | readFile (path : String)
  | readLine (path : String)
  | substitute (s : Substitution)
  | write (path : String)
  | writeFirst (path : String)
  | exchange
  | translate (pairs : List (Char × Char))
  | zap

/-- A command with its addresses. -/
structure Step where
  first? : Option Address := none
  last? : Option Address := none
  /-- Whether it is for all other lines. -/
  isNegated : Bool := false
  command : Command

/-- Where the reader of a script is. -/
structure EditReader where
  chars : Array Char
  place : Nat
  isExtended : Bool
  steps : Array Step
  /-- The blocks that have begun and not ended. -/
  blocks : List Nat
  labels : List (String × Nat)

/-- An activity of the reader; an error is a message and how many characters were read. -/
abbrev EditRead := StateT EditReader (Except (String × Nat))

/-- Gives up. -/
def refuse {α : Type} (message : String) : EditRead α := do throw (message, (← get).place)

/-- The next character. -/
def takeChar : EditRead (Option Char) := do
  let r ← get
  match r.chars[r.place]? with
  | some c =>
    set { r with place := r.place + 1 }
    return some c
  | none => return none

/-- The next character, which stays. -/
def peekChar : EditRead (Option Char) := do
  let r ← get
  return r.chars[r.place]?

/-- Characters as long as they are of some kind, in at most so many turns. -/
def takeCharsWithin (isFine : Char → Bool) : Nat → EditRead (List Char)
  | 0 => pure []
  | turns + 1 => do
    match ← peekChar with
    | some c =>
      if isFine c then
        let _ ← takeChar
        return c :: (← takeCharsWithin isFine turns)
      else return []
    | none => return []

/-- Characters as long as they are of some kind. -/
def takeChars (isFine : Char → Bool) : EditRead (List Char) := do
  takeCharsWithin isFine ((← get).chars.size + 1)

/-- Whether a character is blank and no end of a line. -/
def isInnerBlank (c : Char) : Bool :=
  c == ' ' || c == '\t' || c == '\x0b' || c == '\x0c' || c == '\r'

/-- Whether a character is blank. -/
def isAnyBlank (c : Char) : Bool := c == '\n' || isInnerBlank c

/-- Passes over blanks. -/
def skipBlanks : EditRead Unit := do let _ ← takeChars isInnerBlank

/-- A number; there are digits. -/
def takeNumber : EditRead Nat := do return Text.natOfDigits (← takeChars Char.isDigit)

/-! ## Patterns and replacements -/

/-- A text up to a delimiter, in at most so many turns; `inSet` tells that it is in a set of
characters, where the delimiter stands for itself. -/
def delimitedWithin (delimiter : Char) (isPattern : Bool) :
    Nat → Bool → List Char → EditRead (Option (List Char))
  | 0, _, _ => pure none
  | turns + 1, inSet, done => do
    match ← takeChar with
    | none => return none
    | some '\n' =>
      modify fun r => { r with place := r.place - 1 }
      return none
    | some c =>
      if c == delimiter && !inSet then return some done.reverse
      else if c == '\\' then
        match ← takeChar with
        | none => return none
        | some e =>
          let kept : List Char :=
            if e == '\n' || (e == 'n' && isPattern) then ['\n']
            else if e == delimiter && !inSet then (if !isPattern && e == '&' then ['\\', e] else [e])
            else ['\\', e]
          -- In a set a backslash is a member like others.
          if inSet && kept.length = 2 then
            modify fun r => { r with place := r.place - 1 }
            delimitedWithin delimiter isPattern turns inSet ('\\' :: done)
          else delimitedWithin delimiter isPattern turns inSet (kept.reverse ++ done)
      else if !isPattern then delimitedWithin delimiter isPattern turns inSet (c :: done)
      else if !inSet && c == '[' then
        -- A bracket right after the begin of a set is one of its members.
        let negated ← takeIf '^' (c :: done)
        let start ← takeIf ']' negated
        delimitedWithin delimiter isPattern turns true start
      else if inSet && c == ']' then delimitedWithin delimiter isPattern turns false (c :: done)
      else if inSet && c == '[' then
        match ← peekChar with
        | some mark =>
          if mark == ':' || mark == '.' || mark == '=' then
            let _ ← takeChar
            let done ← takeNamed mark turns (mark :: c :: done) true
            delimitedWithin delimiter isPattern turns true done
          else delimitedWithin delimiter isPattern turns true (c :: done)
        | none => return none
      else delimitedWithin delimiter isPattern turns inSet (c :: done)
where
  /-- Takes a character, if it comes next, to others, the last one first. -/
  takeIf (c : Char) (done : List Char) : EditRead (List Char) := do
    if (← peekChar) == some c then
      let _ ← takeChar
      return c :: done
    else return done
  /-- Takes the name of a class with its end to others, the last one first. -/
  takeNamed (mark : Char) : Nat → List Char → Bool → EditRead (List Char)
    | 0, done, _ => pure done
    | turns + 1, done, isFirst => do
      match ← peekChar with
      | none => return done
      | some '\n' => return done
      | some c =>
        let _ ← takeChar
        if c == ']' && !isFirst && done.head? = some mark then return c :: done
        else takeNamed mark turns (c :: done) false

/-- A text up to a delimiter. -/
def takeDelimited (delimiter : Char) (isPattern : Bool) : EditRead (Option (List Char)) := do
  delimitedWithin delimiter isPattern ((← get).chars.size + 1) false []

/-- The number that some digits write, and how many they are. -/
def digitsAt (base limit : Nat) (cs : List Char) : Nat × Nat :=
  let digits := (cs.take limit).takeWhile fun c => (Text.digitIn? base c).isSome
  (digits.foldl (fun n c => base * n + (Text.digitIn? base c).getD 0) 0, digits.length)

/-- A text in which escape sequences for single characters are replaced; those that would then
have a meaning, which are `special`, keep a backslash. -/
def plainEscapes (special : List Char) : Nat → List Char → List Char
  | 0, cs => cs
  | _, [] => []
  | fuel + 1, '\\' :: c :: rest =>
    let numbered (base limit : Nat) : List Char :=
      let (n, length) := digitsAt base limit rest
      if length = 0 then '\\' :: c :: plainEscapes special fuel rest
      else
        let x := Char.ofNat (n % 256)
        (if special.contains x then ['\\', x] else [x]) ++
          plainEscapes special fuel (rest.drop length)
    match c with
    | 'a' => '\x07' :: plainEscapes special fuel rest
    | 'f' => '\x0c' :: plainEscapes special fuel rest
    | 'r' => '\r' :: plainEscapes special fuel rest
    | 't' => '\t' :: plainEscapes special fuel rest
    | 'v' => '\x0b' :: plainEscapes special fuel rest
    | 'd' => numbered 10 3
    | 'o' => numbered 8 3
    | 'x' => numbered 16 2
    | 'c' =>
      match rest with
      | k :: rest => Char.ofNat (k.toUpper.toNat ^^^ 64) :: plainEscapes special fuel rest
      | [] => ['\\', 'c']
    | c => '\\' :: c :: plainEscapes special fuel rest
  | fuel + 1, c :: rest => c :: plainEscapes special fuel rest

/-- The parts of a replacement. -/
def replacementParts : Nat → List Char → List ReplacementPart
  | 0, _ => []
  | _, [] => []
  | fuel + 1, '\\' :: c :: rest =>
    let part : ReplacementPart := match c with
      | 'L' => .casing .lower
      | 'U' => .casing .upper
      | 'l' => .casing .lowerFirst
      | 'u' => .casing .upperFirst
      | 'E' => .casing .asIs
      | 'n' => .text ['\n']
      | c => if c.isDigit then .group (Text.digitValue c) else .text [c]
    part :: replacementParts fuel rest
  | fuel + 1, '&' :: rest => .group 0 :: replacementParts fuel rest
  | fuel + 1, c :: rest => .text [c] :: replacementParts fuel rest

/-- The dialect of regular expressions in scripts. -/
def editDialect (isExtended : Bool) : Regex.Dialect :=
  { isExtended := isExtended
    loneSign := if isExtended then .refused else .literal
    loneInterval := .refused
    refusesClose := true
    refusesBrace := true }

/-- A text as a pattern, and how many groups it has. -/
def toPattern (text : List Char) (foldsCase hasLines : Bool) : EditRead (EditPattern × Nat) := do
  if text.isEmpty then
    if foldsCase || hasLines then refuse "cannot specify modifiers on empty regexp"
    else return ({ regex? := none }, 9)
  else
    let plain := plainEscapes "*.[]^$\\/".toList (text.length + 1) text
    match Regex.read (editDialect (← get).isExtended) plain with
    | .ok r => return ({ regex? := some r.regex, foldsCase := foldsCase, hasLines := hasLines }, r.groups)
    | .error e => refuse e.words

/-! ## Addresses -/

/-- The letters after the pattern of an address, in at most so many turns. -/
def patternLetters : Nat → Bool → Bool → EditRead (Bool × Bool)
  | 0, foldsCase, hasLines => pure (foldsCase, hasLines)
  | turns + 1, foldsCase, hasLines => do
    match ← peekChar with
    | some 'I' =>
      let _ ← takeChar
      patternLetters turns true hasLines
    | some 'M' =>
      let _ ← takeChar
      patternLetters turns foldsCase true
    | _ => return (foldsCase, hasLines)

/-- An address, if there is one. -/
def readAddress : EditRead (Option Address) := do
  match ← peekChar with
  | none => return none
  | some c =>
    if c == '/' || c == '\\' then
      let _ ← takeChar
      let delimiter? ← if c == '\\' then takeChar else pure (some '/')
      match delimiter? with
      | none => refuse "unexpected \x60,'"
      | some delimiter =>
        match ← takeDelimited delimiter true with
        | none => refuse "unterminated address regex"
        | some text =>
          let (foldsCase, hasLines) ← patternLetters 8 false false
          let (p, _) ← toPattern text foldsCase hasLines
          return some (.pattern p)
    else if c.isDigit then
      let n ← takeNumber
      skipBlanks
      if (← peekChar) == some '~' then
        let _ ← takeChar
        skipBlanks
        let distance ← if ((← peekChar).map Char.isDigit).getD false then takeNumber else pure 0
        return some (if distance = 0 then .line n else .every n distance)
      else return some (.line n)
    else if c == '+' || c == '~' then
      let _ ← takeChar
      skipBlanks
      if ((← peekChar).map Char.isDigit).getD false then
        let n ← takeNumber
        return some (if c == '+' then .plus n else .multiple n)
      else
        let _ ← takeChar
        refuse "expected newer version of sed"
    else if c == '$' then
      let _ ← takeChar
      return some .last
    else return none

/-- The addresses of a command. -/
def readAddresses : EditRead (Option Address × Option Address) := do
  match ← readAddress with
  | none => return (none, none)
  | some first =>
    match first with
    | .plus _ => refuse "invalid usage of +N or ~N as first address"
    | .multiple _ => refuse "invalid usage of +N or ~N as first address"
    | _ => pure ()
    skipBlanks
    let isZero : Bool := match first with
      | .line 0 => true
      | _ => false
    if (← peekChar) == some ',' then
      let _ ← takeChar
      skipBlanks
      match ← readAddress with
      | none =>
        let _ ← takeChar
        refuse "unexpected \x60,'"
      | some second =>
        let isPattern : Bool := match second with
          | .pattern _ => true
          | _ => false
        if isZero && !isPattern then
          let _ ← takeChar
          refuse "invalid usage of line address 0"
        else return (some first, some second)
    else if isZero then
      let _ ← takeChar
      refuse "invalid usage of line address 0"
    else return (some first, none)

/-! ## Commands -/

/-- Passes over the end of a command. -/
def endCommand : EditRead Unit := do
  skipBlanks
  match ← peekChar with
  | none => pure ()
  | some c =>
    if c == '\x7d' || c == '#' then pure ()
    else
      let _ ← takeChar
      if c != '\n' && c != ';' then refuse "extra characters after command"

/-- A label. -/
def readLabel : EditRead String := do
  skipBlanks
  return String.ofList (← takeChars fun c => !isAnyBlank c && c != ';' && c != '\x7d')

/-- The name of a file: the rest of the line. -/
def readFileName : EditRead String := do
  skipBlanks
  let name ← takeChars (· != '\n')
  if name.isEmpty then refuse "missing filename in r/R/w/W commands"
  else
    let _ ← takeChar
    return String.ofList name

/-- A text up to the end of its line, in at most so many turns; a backslash keeps the end of a
line within the text. -/
def textWithin : Nat → List Char → EditRead (List Char)
  | 0, done => pure done.reverse
  | turns + 1, done => do
    match ← takeChar with
    | none => return done.reverse
    | some '\n' => return done.reverse
    | some '\\' =>
      match ← takeChar with
      | none => return done.reverse
      | some c => textWithin turns (c :: '\\' :: done)
    | some c => textWithin turns (c :: done)

/-- A text without the backslashes that stand in front of characters. -/
def withoutBackslashes : List Char → List Char
  | '\\' :: 'n' :: rest => '\n' :: withoutBackslashes rest
  | '\\' :: c :: rest => c :: withoutBackslashes rest
  | c :: rest => c :: withoutBackslashes rest
  | [] => []

/-- The text of a command, with the end of its last line. -/
def readText : EditRead (List Char) := do
  skipBlanks
  let turns := (← get).chars.size + 1
  let finish (start : List Char) : EditRead (List Char) := do
    let text ← textWithin turns start.reverse
    return withoutBackslashes (plainEscapes ['\\'] (text.length + 1) text) ++ ['\n']
  match ← takeChar with
  | none => refuse "expected \\ after \x60a', \x60c' or \x60i'"
  | some '\n' => return []
  | some '\\' =>
    match ← takeChar with
    | none => return []
    | some '\n' => finish []
    | some '\\' =>
      modify fun r => { r with place := r.place - 1 }
      finish []
    | some c => finish [c]
  | some c => finish [c]

/-- A number, if there is one. -/
def readNumber? : EditRead (Option Nat) := do
  skipBlanks
  if ((← peekChar).map Char.isDigit).getD false then return some (← takeNumber)
  else return none

/-- The letters after a replacement, in at most so many turns; `number?` is the first of the
parts that are replaced. -/
def substitutionLetters : Nat → (foldsCase hasLines : Bool) → Option Nat → Substitution →
    EditRead (Bool × Bool × Substitution)
  | 0, foldsCase, hasLines, _, s => pure (foldsCase, hasLines, s)
  | turns + 1, foldsCase, hasLines, number?, s => do
    match ← peekChar with
    | none => return (foldsCase, hasLines, s)
    | some c =>
      if c == '\x7d' || c == '#' then return (foldsCase, hasLines, s)
      else if c.isDigit then
        if number?.isSome then
          let _ ← takeChar
          refuse "multiple number options to \x60s' command"
        else
          let n ← takeNumber
          if n = 0 then refuse "number option to \x60s' command may not be zero"
          else substitutionLetters turns foldsCase hasLines (some n) { s with number := n }
      else
        let _ ← takeChar
        if c == '\n' || c == ';' then return (foldsCase, hasLines, s)
        else if c == 'i' || c == 'I' then substitutionLetters turns true hasLines number? s
        else if c == 'm' || c == 'M' then substitutionLetters turns foldsCase true number? s
        else if c == 'g' then
          if s.isGlobal then refuse "multiple \x60g' options to \x60s' command"
          else substitutionLetters turns foldsCase hasLines number? { s with isGlobal := true }
        else if c == 'p' then
          if s.prints then refuse "multiple \x60p' options to \x60s' command"
          else substitutionLetters turns foldsCase hasLines number? { s with prints := true }
        else if c == 'w' then
          let path ← readFileName
          return (foldsCase, hasLines, { s with path? := some path })
        else if isInnerBlank c then substitutionLetters turns foldsCase hasLines number? s
        else refuse "unknown option to \x60s'"

/-- A replacement for parts of lines. -/
def readSubstitution : EditRead Command := do
  let unfinished := "unterminated \x60s' command"
  match ← takeChar with
  | none => refuse unfinished
  | some delimiter =>
    match ← takeDelimited delimiter true with
    | none => refuse unfinished
    | some text =>
      match ← takeDelimited delimiter false with
      | none => refuse unfinished
      | some replacement =>
        let plain := plainEscapes ['&', '\\'] (replacement.length + 1) replacement
        let parts := replacementParts (plain.length + 1) plain
        let turns := (← get).chars.size + 1
        let (foldsCase, hasLines, s) ← substitutionLetters turns false false none
          { pattern := { regex? := none }, parts := parts }
        let (p, groups) ← toPattern text foldsCase hasLines
        let tooFar? := parts.find? fun
          | .group n => groups < n
          | _ => false
        match tooFar? with
        | some (.group n) =>
          refuse ("invalid reference \\" ++ toString n ++ " on \x60s' command's RHS")
        | _ => return .substitute { s with pattern := p }

/-- The characters between two delimiters, those after a backslash taken as they are. -/
def plainChars : List Char → List Char
  | '\\' :: 'n' :: rest => '\n' :: plainChars rest
  | '\\' :: c :: rest => c :: plainChars rest
  | c :: rest => c :: plainChars rest
  | [] => []

/-- A replacement of single characters. -/
def readTranslation : EditRead Command := do
  let unfinished := "unterminated \x60y' command"
  match ← takeChar with
  | none => refuse unfinished
  | some delimiter =>
    match ← takeDelimited delimiter false with
    | none => refuse unfinished
    | some source =>
      match ← takeDelimited delimiter false with
      | none => refuse unfinished
      | some goal =>
        let chars (text : List Char) : List Char :=
          plainChars (plainEscapes ['\\'] (text.length + 1) text)
        let source := chars source
        let goal := chars goal
        if source.length != goal.length then
          refuse "strings for \x60y' command are different lengths"
        else
          endCommand
          return .translate (source.zip goal)

/-- Refuses a command that takes at most one address. -/
def needsOneAddress (last? : Option Address) : EditRead Unit := do
  if last?.isSome then refuse "command only uses one address"

/-- The command of a letter, with its addresses; those that need no more than the letter are
over with it. -/
def readCommand (c : Char) (first? last? : Option Address) : EditRead Command := do
  let plain (k : Command) : EditRead Command := do
    endCommand
    return k
  let labelled (k : String → Command) : EditRead Command := do
    let label ← readLabel
    endCommand
    return k label
  match c with
  | '\x7b' => return .begin 0
  | ':' =>
    if first?.isSome then refuse ": doesn't want any addresses"
    else
      let label ← readLabel
      if label = "" then refuse "\":\" lacks a label"
      else
        modify fun r => { r with labels := (label, r.steps.size) :: r.labels }
        if (← peekChar) == some ';' then
          let _ ← takeChar
        return .noop
  | '=' => plain .lineNumber
  | 'a' => return .append (← readText)
  | 'i' => return .insert (← readText)
  | 'c' => return .change (← readText)
  | 'b' => labelled .branch
  | 't' => labelled .branchIf
  | 'T' => labelled .branchUnless
  | 'd' => plain .delete
  | 'D' => plain .deleteFirst
  | 'F' => plain .fileName
  | 'g' => plain .getHold
  | 'G' => plain .addHold
  | 'h' => plain .hold
  | 'H' => plain .holdMore
  | 'l' =>
    let width? ← readNumber?
    plain (.list width?)
  | 'n' => plain .next
  | 'N' => plain .addNext
  | 'p' => plain .print
  | 'P' => plain .printFirst
  | 'q' =>
    needsOneAddress last?
    let status? ← readNumber?
    plain (.quit (status?.getD 0))
  | 'Q' =>
    needsOneAddress last?
    let status? ← readNumber?
    plain (.leave (status?.getD 0))
  | 'r' => return .readFile (← readFileName)
  | 'R' => return .readLine (← readFileName)
  | 's' => readSubstitution
  | 'w' => return .write (← readFileName)
  | 'W' => return .writeFirst (← readFileName)
  | 'x' => plain .exchange
  | 'y' => readTranslation
  | 'z' => plain .zap
  | 'v' =>
    let label ← readLabel
    let major := (Text.natOf? (label.toList.takeWhile Char.isDigit)).getD 0
    if 4 < major then refuse "expected newer version of sed"
    else plain .noop
  | c => refuse ("unknown command: \x60" ++ String.singleton c ++ "'")

/-- Reads the steps of a script, in at most so many turns. -/
def readStepsWithin : Nat → EditRead Unit
  | 0 => pure ()
  | turns + 1 => do
    let _ ← takeChars fun c => isAnyBlank c || c == ';'
    if (← peekChar).isNone then return ()
    else
      let (first?, last?) ← readAddresses
      skipBlanks
      let isNegated ← if (← peekChar) == some '!' then do
          let _ ← takeChar
          skipBlanks
          if (← peekChar) == some '!' then
            let _ ← takeChar
            refuse "multiple \x60!'s"
          else pure true
        else pure false
      let add (k : Command) : EditRead Unit :=
        modify fun r => { r with steps := r.steps.push ⟨first?, last?, isNegated, k⟩ }
      match ← takeChar with
      | none => refuse "missing command"
      | some '#' =>
        if first?.isSome then refuse "comments don't accept any addresses"
        else
          let _ ← takeChars (· != '\n')
          readStepsWithin turns
      | some '\x7d' =>
        match (← get).blocks with
        | [] => refuse "unexpected \x60\x7d'"
        | block :: others =>
          if first?.isSome then refuse "\x7d doesn't want any addresses"
          else
            modify fun r =>
              { r with
                blocks := others
                steps := r.steps.modify block fun x => { x with command := .begin r.steps.size } }
            endCommand
            readStepsWithin turns
      | some '\x7b' =>
        modify fun r => { r with blocks := r.steps.size :: r.blocks }
        add (.begin 0)
        readStepsWithin turns
      | some c =>
        let k ← readCommand c first? last?
        add k
        readStepsWithin turns

/-- The labels that steps go to. -/
def wantedLabels (steps : List Step) : List String :=
  steps.filterMap fun x =>
    match x.command with
    | .branch label => some label
    | .branchIf label => some label
    | .branchUnless label => some label
    | _ => none

/-- The steps of a script and its labels; an error is a message and how many characters were
read, if that counts. -/
def readScript (isExtended : Bool) (text : List Char) :
    Except (String × Option Nat) (Array Step × List (String × Nat)) :=
  match (readStepsWithin (text.length + 2)).run ⟨text.toArray, 0, isExtended, #[], [], []⟩ with
  | .error (message, place) => .error (message, some place)
  | .ok ((), r) =>
    if !r.blocks.isEmpty then .error ("unmatched \x60\x7b'", some 0)
    else
      let missing? := (wantedLabels r.steps.toList).find? fun label =>
        label != "" && !(r.labels.any fun l => l.1 == label)
      match missing? with
      | some label => .error ("can't find label for jump to \x60" ++ label ++ "'", none)
      | none => .ok (r.steps, r.labels)

end LintLedger.Utility.Editor
