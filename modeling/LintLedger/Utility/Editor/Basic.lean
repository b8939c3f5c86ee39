import LintLedger.Utility.Editor.Script
import LintLedger.Utility.Paths

/-!
# Editing streams

Lines are read one after the other, and a script is carried out for each of them.

## Main Definitions

* `Editing` -- what is kept from line to line
* `Substitution.apply` -- a line with parts of it replaced
* `sed` -- edits streams
-/

namespace LintLedger.Utility.Editor

open LintLedger.Machine

/-- Whether the lines between two addresses are being passed. -/
inductive RangeState where
  | outside
  /-- Up to the line of that number, if it is known. -/
  | inside (last? : Option Nat)
deriving DecidableEq, Repr

/-- What is put out at the end of a turn. -/
inductive Queued where
  | text (s : List Char)
  | file (path : String)
  /-- The next line of a file. -/
  | line (path : String)

/-- What is kept from line to line. -/
structure Editing where
  steps : Array Step
  labels : List (String × Nat)
  /-- Whether lines are only put out when the script says so. -/
  isQuiet : Bool
  /-- Whether each file has a last line of its own. -/
  isSeparate : Bool
  /-- The ending of the copies that are kept of files, if files are changed in place. -/
  inPlace? : Option String
  stop : Char
  width : Nat
  ranges : Array RangeState
  pattern : List Char
  /-- Whether the line has an end. -/
  isEnded : Bool
  held : List Char
  isHeldEnded : Bool
  line : Nat
  source? : Option Source
  path : String
  /-- The files that come after the one that is being read. -/
  waiting : List String
  /-- The new content of the file that is changed in place, the last text first. -/
  content : List String
  queue : List Queued
  wasReplaced : Bool
  last? : Option EditPattern
  readers : List (String × Source)
  writers : List (String × Nat)
  /-- The descriptors to which the last line went without its end. -/
  unended : List Nat

/-- An activity of the editor. -/
abbrev Edit := StateT Editing Work

/-! ## Output -/

/-- The end of a line. -/
def lineEnd : Edit String := do return String.singleton (← get).stop

/-- Puts out a text where lines go. -/
def emitText (text : String) : Edit Unit := do
  let x ← get
  match x.inPlace? with
  | some _ => set { x with content := text :: x.content }
  | none => put text

/-- Writes to a descriptor; the first one is where lines go. -/
def writeTo (d : Nat) (text : String) : Edit Unit := do
  if d = 1 then emitText text
  else
    let _ ← act (Act.write d text)

/-- Puts out the end of the last line, if it went without. -/
def endLine (d : Nat) : Edit Unit := do
  let x ← get
  if x.unended.contains d then
    set { x with unended := x.unended.filter (· != d) }
    writeTo d (← lineEnd)

/-- Puts out a text after whole lines. -/
def emit (d : Nat) (text : String) : Edit Unit := do
  endLine d
  writeTo d text

/-- Puts out a line, with an end if it has one. -/
def emitLine (d : Nat) (line : List Char) : Edit Unit := do
  let x ← get
  if x.isEnded then emit d (String.ofList line ++ (← lineEnd))
  else
    emit d (String.ofList line)
    modify fun x => { x with unended := d :: x.unended }

/-- Where lines for a file go. -/
def writerOf (path : String) : Edit Nat := do
  if path = "/dev/stdout" then return 1
  else if path = "/dev/stderr" then return 2
  else return (((← get).writers.find? fun w => w.1 == path).map (·.2)).getD 2

/-! ## Input -/

/-- A source that has something left, unless it is over. -/
def filled (s : Source) : Act Source := do
  if !s.rest.isEmpty || s.isOver then return s
  else
    match ← Act.read s.d Act.chunk with
    | .error e => return { s with isOver := true, fault? := some e }
    | .ok "" => return { s with isOver := true }
    | .ok text => return { s with rest := text.toList }

/-- Ends the file that was being read. -/
def leaveFile : Edit Unit := do
  let x ← get
  match x.source? with
  | none => pure ()
  | some s =>
    act (closeInput s.d)
    match s.fault? with
    | some e =>
      complainAhead ("read error on " ++ x.path ++ ": " ++ e.words)
      leave 4
    | none => pure ()
    match x.inPlace? with
    | some ending =>
      if ending != "" then
        let name := if ending.toList.contains '*' then ending.replace "*" x.path
          else x.path ++ ending
        let _ ← act (Act.doing (.rename x.path name))
      match ← act (Act.openFile x.path .output) with
      | .ok d =>
        let _ ← act (Act.write d (String.join x.content.reverse))
        act (Act.close d)
      | .error e => complainAhead ("couldn't open file " ++ x.path ++ ": " ++ e.words)
    | none => pure ()
    modify fun x =>
      { x with source? := none, content := [], unended := if x.inPlace?.isSome then [] else x.unended }

/-- Opens the next file. -/
def enterFile (path : String) : Edit Unit := do
  let failed (status : Nat) (message : String) : Edit Unit := do
    complainAhead message
    modifyThe Desk fun d => { d with status := status }
  let x ← get
  let info ← if path = "-" then act (Act.info (.describe 0)) else act (Act.look path)
  match info with
  | .error e => failed 2 ("can't read " ++ path ++ ": " ++ e.words)
  | .ok i =>
    if i.kind = .dir && x.inPlace?.isSome then
      failed 4 ("couldn't edit " ++ path ++ ": not a regular file")
    else
      match ← act (openInput path) with
      | .error e => failed 2 ("can't read " ++ path ++ ": " ++ e.words)
      | .ok d =>
        set { x with source? := some (Source.of d), path := path }
        if x.isSeparate then modify fun x => { x with line := 0 }

/-- Goes on to the first file that has something left, in at most so many turns; the value is
whether there is one. -/
def advance : Nat → Edit Bool
  | 0 => pure false
  | turns + 1 => do
    let x ← get
    let source? ← match x.source? with
      | some s => do
        let s ← act (filled s)
        modify fun x => { x with source? := some s }
        pure (if s.rest.isEmpty then none else some s)
      | none => pure none
    match source? with
    | some _ => return true
    | none =>
      leaveFile
      match x.waiting with
      | [] => return false
      | path :: rest =>
        modify fun x => { x with waiting := rest }
        enterFile path
        advance turns

/-- More files than are named. -/
def fileTurns : Nat := 1000000

/-- Whether there is no line after this one. -/
def isLastLine : Edit Bool := do
  let x ← get
  match x.source? with
  | none => return x.isSeparate || !(← advance fileTurns)
  | some s =>
    let s ← act (filled s)
    set { x with source? := some s }
    if !s.rest.isEmpty then return false
    else if x.isSeparate then return true
    else return !(← advance fileTurns)

/-- Puts out what waits for the end of the turn. -/
def emptyQueue : Edit Unit := do
  let queue := (← get).queue.reverse
  modify fun x => { x with queue := [] }
  for q in queue do
    match q with
    | .text s => emit 1 (String.ofList s)
    | .file path =>
      match ← act (readInput path) with
      | .ok text => if text != "" then emit 1 text
      | .error _ => pure ()
    | .line path =>
      let known? := ((← get).readers.find? fun r => r.1 == path).map (·.2)
      let source ← match known? with
        | some s => pure s
        | none =>
          match ← act (openInput path) with
          | .ok d => pure (Source.of d)
          | .error _ => pure ⟨0, [], true, none⟩
      let (line?, source) ← act (nextLine source)
      modify fun x =>
        { x with readers := (path, source) :: x.readers.filter fun r => r.1 != path }
      match line? with
      | some l => emit 1 (String.ofList l.chars ++ (← lineEnd))
      | none => pure ()

/-- Reads the next line; the value is whether there is one. -/
def readNext (add : Bool) : Edit Bool := do
  emptyQueue
  if ← advance fileTurns then
    let x ← get
    match x.source? with
    | none => return false
    | some s =>
      let (line?, s) ← act (nextLineWithin x.stop Act.manyTurns [] s)
      match line? with
      | none => return false
      | some l =>
        set { x with
          source? := some s
          pattern := if add then x.pattern ++ x.stop :: l.chars else l.chars
          isEnded := l.isEnded
          line := x.line + 1
          wasReplaced := false }
        return true
  else return false

/-! ## Substitution -/

/-- Where letters of a replacement are changed: all of them, and the next one. -/
structure CasingState where
  all : Casing := .asIs
  next? : Option Casing := none

/-- A text with its letters changed. -/
def CasingState.apply (k : CasingState) (s : List Char) : List Char × CasingState :=
  let every (s : List Char) : List Char := match k.all with
    | .upper => s.map Char.toUpper
    | .lower => s.map Char.toLower
    | _ => s
  match s, k.next? with
  | c :: rest, some n =>
    ((if n = .upperFirst then c.toUpper else c.toLower) :: every rest, { k with next? := none })
  | s, _ => (every s, k)

/-- The parts of a replacement put together. -/
def expandParts (group : Nat → List Char) : CasingState → List ReplacementPart → List Char
  | _, [] => []
  | k, .text s :: rest =>
    let (s, k) := k.apply s
    s ++ expandParts group k rest
  | k, .group n :: rest =>
    let (s, k) := k.apply (group n)
    s ++ expandParts group k rest
  | k, .casing c :: rest =>
    let k : CasingState := match c with
      | .upperFirst => { k with next? := some c }
      | .lowerFirst => { k with next? := some c }
      | c => { all := c, next? := none }
    expandParts group k rest

/-- A line from a place on, with parts of it replaced, in at most so many turns: `count` parts
were found before, the last of which ends at `finish?`.  The value is what is put in place of the
line, the last part first, and whether anything was replaced. -/
def Substitution.applyWithin (x : Substitution) (r : Regex) (s : Regex.Subject) :
    Nat → (start count : Nat) → Option Nat → List (List Char) → Bool → List (List Char) × Bool
  | 0, _, _, _, done, changed => (done, changed)
  | turns + 1, start, count, finish?, done, changed =>
    let text (first last : Nat) : List Char := (s.chars.extract first last).toList
    let rest := text start s.chars.size
    match (if s.chars.size < start then none else r.find? s start) with
    | none => (rest :: done, changed)
    | some (first, p) =>
      let before := text start first
      let next := if p.finish = first then text first (first + 1) else []
      let onward := if p.finish = first then first + 1 else p.finish
      if p.finish = first && finish? = some first then
        x.applyWithin r s turns onward count none (next :: before :: done) changed
      else if count + 1 < x.number then
        x.applyWithin r s turns onward (count + 1) (some p.finish)
          (next :: text first p.finish :: before :: done) changed
      else
        let group (n : Nat) : List Char :=
          if n = 0 then text first p.finish
          else match p.group? n with
            | some (a, b) => text a b
            | none => []
        let done := expandParts group {} x.parts :: before :: done
        if x.isGlobal then
          x.applyWithin r s turns onward (count + 1) (some p.finish) (next :: done) true
        else (text p.finish s.chars.size :: done, true)

/-- A line with parts of it replaced, if there are any. -/
def Substitution.apply (x : Substitution) (p : EditPattern) (line : List Char) :
    Option (List Char) :=
  match p.regex? with
  | none => none
  | some r =>
    let s : Regex.Subject :=
      { chars := line.toArray, foldsCase := p.foldsCase, hasLines := p.hasLines }
    let (parts, changed) := x.applyWithin r s (s.chars.size + 2) 0 0 none [] false
    if changed then some parts.reverse.flatten else none

/-! ## Addresses -/

/-- The pattern that is meant, which is the last one from now on. -/
def meantPattern (p : EditPattern) : Edit EditPattern := do
  match p.regex? with
  | some _ =>
    modify fun x => { x with last? := some p }
    return p
  | none =>
    match (← get).last? with
    | some p => return p
    | none =>
      complainAhead "-e expression #1, char 0: no previous regular expression"
      leave 1

/-- Whether a pattern fits a part of the line. -/
def fitsPattern (p : EditPattern) : Edit Bool := do
  let p ← meantPattern p
  let s : Regex.Subject :=
    { chars := (← get).pattern.toArray, foldsCase := p.foldsCase, hasLines := p.hasLines }
  return (p.regex?.map fun r => r.occursIn s).getD false

/-- Whether an address means the line. -/
def isMeant (a : Address) : Edit Bool := do
  let line := (← get).line
  match a with
  | .line n => return line = n
  | .last => isLastLine
  | .pattern p => fitsPattern p
  | .every first distance => return first ≤ line && (line - first) % distance = 0
  | _ => return false

/-- Whether a step is for the line. -/
def isSelected (i : Nat) (x : Step) : Edit Bool := do
  let setRange (k : RangeState) : Edit Unit := modify fun x => { x with ranges := x.ranges.set! i k }
  match x.first?, x.last? with
  | none, _ => return true
  | some a, none => isMeant a
  | some a, some b =>
    let line := (← get).line
    match (← get).ranges[i]? with
    | some (.inside (some last)) =>
      if last ≤ line then setRange .outside
      return line ≤ last
    | some (.inside none) =>
      if ← isMeant b then setRange .outside
      return true
    | _ =>
      if ← isMeant a then
        let last? : Option Nat := match b with
          | .line n => some n
          | .plus n => some (line + n)
          | .multiple n => some (if n = 0 then line else (line + n - 1) / n * n)
          | _ => none
        match last? with
        | some last => if line < last then setRange (.inside (some last))
        | none => setRange (.inside none)
        return true
      else return false

/-! ## Commands -/

/-- How a turn ends. -/
inductive TurnEnd where
  /-- The line is put out. -/
  | done
  | deleted
  /-- The script begins again with what is left of the line. -/
  | again
  | quit (status : Nat)
  | left (status : Nat)
deriving DecidableEq, Repr

/-- A line in which nothing is hidden, in lines of at most so many characters. -/
def listed (width : Nat) (line : List Char) : String :=
  let shown (c : Char) : List Char :=
    if c == '\\' then ['\\', '\\']
    else if Text.isPrintable c then [c]
    else Text.escapedByte c
  let (parts, _) := line.foldl (fun (done, column) c =>
    let s := shown c
    if 0 < width && width - 1 < column + s.length then (s :: ['\\', '\n'] :: done, s.length)
    else (s :: done, column + s.length)) (([] : List (List Char)), 0)
  String.ofList parts.reverse.flatten ++ "$\n"

/-- A line up to the end of its first line, and what comes after that. -/
def firstLine (stop : Char) (line : List Char) : List Char × Option (List Char) :=
  let first := line.takeWhile (· != stop)
  (first, if first.length < line.length then some (line.drop (first.length + 1)) else none)

/-- Carries out steps from one on, in at most so many turns. -/
def runSteps : Nat → Nat → Edit TurnEnd
  | 0, _ => pure .done
  | turns + 1, i => do
    let x ← get
    match x.steps[i]? with
    | none => return .done
    | some step =>
      let goTo (label : String) : Nat :=
        if label = "" then x.steps.size
        else ((x.labels.find? fun l => l.1 == label).map (·.2)).getD x.steps.size
      if (← isSelected i step) == step.isNegated then
        match step.command with
        | .begin after => runSteps turns after
        | _ => runSteps turns (i + 1)
      else
        let x ← get
        let next := i + 1
        let goOn (m : Edit Unit) : Edit TurnEnd := do
          m
          runSteps turns next
        match step.command with
        | .noop => runSteps turns next
        | .begin _ => runSteps turns next
        | .lineNumber => goOn (emit 1 (toString x.line ++ "\n"))
        | .append s => goOn (set { x with queue := .text s :: x.queue })
        | .insert s => goOn (emit 1 (String.ofList s))
        | .change s =>
          let isInside : Bool := step.last?.isSome && !step.isNegated &&
            x.ranges[i]?.any (· != .outside)
          if !isInside then emit 1 (String.ofList s)
          return .deleted
        | .branch label => runSteps turns (goTo label)
        | .branchIf label =>
          if x.wasReplaced then
            set { x with wasReplaced := false }
            runSteps turns (goTo label)
          else runSteps turns next
        | .branchUnless label =>
          if x.wasReplaced then
            set { x with wasReplaced := false }
            runSteps turns next
          else runSteps turns (goTo label)
        | .delete => return .deleted
        | .deleteFirst =>
          match (firstLine x.stop x.pattern).2 with
          | some rest =>
            set { x with pattern := rest }
            return .again
          | none => return .deleted
        | .fileName => goOn (emit 1 (x.path ++ "\n"))
        | .getHold => goOn (set { x with pattern := x.held, isEnded := x.isHeldEnded })
        | .addHold =>
          goOn (set { x with pattern := x.pattern ++ x.stop :: x.held, isEnded := x.isHeldEnded })
        | .hold => goOn (set { x with held := x.pattern, isHeldEnded := x.isEnded })
        | .holdMore =>
          goOn (set { x with held := x.held ++ x.stop :: x.pattern, isHeldEnded := x.isEnded })
        | .list width? => goOn (emit 1 (listed (width?.getD x.width) x.pattern))
        | .next =>
          if ← isLastLine then return .done
          else
            if !x.isQuiet then emitLine 1 x.pattern
            if ← readNext false then runSteps turns next else return .done
        | .addNext =>
          if ← isLastLine then return .done
          else if ← readNext true then runSteps turns next
          else return .done
        | .print => goOn (emitLine 1 x.pattern)
        | .printFirst =>
          goOn (do emit 1 (String.ofList (firstLine x.stop x.pattern).1 ++ (← lineEnd)))
        | .quit status => return .quit status
        | .leave status => return .left status
        | .readFile path => goOn (set { x with queue := .file path :: x.queue })
        | .readLine path => goOn (set { x with queue := .line path :: x.queue })
        | .substitute s =>
          let p ← meantPattern s.pattern
          match s.apply p x.pattern with
          | none => runSteps turns next
          | some line =>
            modify fun x => { x with pattern := line, wasReplaced := true }
            if s.prints then emitLine 1 line
            match s.path? with
            | some path => emitLine (← writerOf path) line
            | none => pure ()
            runSteps turns next
        | .write path => goOn (do emitLine (← writerOf path) x.pattern)
        | .writeFirst path =>
          goOn (do
            emit (← writerOf path) (String.ofList (firstLine x.stop x.pattern).1 ++ (← lineEnd)))
        | .exchange =>
          goOn (set { x with
            pattern := x.held
            isEnded := x.isHeldEnded
            held := x.pattern
            isHeldEnded := x.isEnded })
        | .translate pairs =>
          let swap (c : Char) : Char := ((pairs.find? fun p => p.1 == c).map (·.2)).getD c
          goOn (set { x with pattern := x.pattern.map swap })
        | .zap => goOn (set { x with pattern := [] })

/-- Carries out the script for line after line, in at most so many turns; the value is the
status. -/
def runTurns : Nat → Bool → Edit Nat
  | 0, _ => do return (← getThe Desk).status
  | turns + 1, isAgain => do
    let hasLine ← if isAgain then pure true else readNext false
    if !hasLine then return (← getThe Desk).status
    else
      let print : Edit Unit := do
        let x ← get
        if !x.isQuiet then emitLine 1 x.pattern
      match ← runSteps Act.manyTurns 0 with
      | .done =>
        print
        emptyQueue
        runTurns turns false
      | .deleted =>
        emptyQueue
        runTurns turns false
      | .again =>
        emptyQueue
        runTurns turns true
      | .quit status =>
        print
        emptyQueue
        leaveFile
        return status
      | .left status =>
        leaveFile
        return status

/-! ## The program -/

/-- How the program is used. -/
def sedUsage : String :=
  "Usage: sed [OPTION]... \x7bscript-only-if-no-other-script\x7d [input-file]...\n"

/-- A part of a script: its text, and the file it comes from. -/
structure ScriptPart where
  text : List Char
  path? : Option String

/-- The parts of a script that options give. -/
def scriptParts : List Given → Work (List ScriptPart)
  | [] => pure []
  | ⟨'e', some w⟩ :: rest => do return ⟨w.toList, none⟩ :: (← scriptParts rest)
  | ⟨'f', some path⟩ :: rest => do
    match ← act (readInput path) with
    | .error e =>
      complainAhead ("couldn't open file " ++ path ++ ": " ++ e.words)
      leave 4
    | .ok text =>
      let cs := text.toList
      let cs := if cs.getLast? = some '\n' then cs.dropLast else cs
      return ⟨cs, some path⟩ :: (← scriptParts rest)
  | _ :: rest => scriptParts rest

/-- Where in the parts of a script a place is: `number` is the one of the first part, if it is
an expression. -/
def placeIn : Nat → Nat → List ScriptPart → String
  | _, _, [] => "-e expression #1, char 0"
  | number, place, p :: rest =>
    if place ≤ p.text.length || rest.isEmpty then
      match p.path? with
      | some path =>
        let lines := ((p.text.take (place - 1)).filter (· == '\n')).length
        "file " ++ path ++ " line " ++ toString (lines + 1)
      | none => "-e expression #" ++ toString number ++ ", char " ++ toString place
    else placeIn (if p.path?.isNone then number + 1 else number) (place - p.text.length - 1) rest

/-- Opens the files that a script writes to. -/
def openWriters (steps : Array Step) : Work (List (String × Nat)) := do
  let mut all : List (String × Nat) := []
  for x in steps do
    let path? : Option String := match x.command with
      | .write path => some path
      | .writeFirst path => some path
      | .substitute s => s.path?
      | _ => none
    match path? with
    | none => pure ()
    | some path =>
      if path != "/dev/stdout" && path != "/dev/stderr" && !(all.any fun w => w.1 == path) then
        match ← act (Act.openFile path .output) with
        | .ok d => all := (path, d) :: all
        | .error e =>
          complainAhead ("couldn't open file " ++ path ++ ": " ++ e.words)
          leave 4
  return all

/-- Edits streams. -/
def sed (words : List String) : Work Unit := do
  let g := grammar "ne:f:i::l:Ersuz"
    [("quiet", 'n'), ("silent", 'n'), ("expression", 'e'), ("file", 'f'), ("in-place", 'i'),
     ("line-length", 'l'), ("regexp-extended", 'E'), ("separate", 's'), ("unbuffered", 'u'),
     ("null-data", 'z'), ("zero-terminated", 'z')]
  let g := { g with names := ("posix", '\x01', .nothing) :: ("debug", '\x01', .nothing) ::
    ("sandbox", '\x01', .nothing) :: ("follow-symlinks", '\x01', .nothing) :: g.names }
  let t ← match takeWords g (words.length + 1) words with
    | .ok t => pure t
    | .error message =>
      complainAhead message
      say sedUsage
      leave 1
  let given ← scriptParts t.options
  let (parts, paths) ← match given, t.operands with
    | [], script :: rest => pure ([ScriptPart.mk script.toList none], rest)
    | [], [] => do
      say sedUsage
      leave 1
    | given, all => pure (given, all)
  let text := (parts.map (·.text)).intersperse ['\n'] |>.flatten
  let isHushed := text.take 3 == ['#', 'n', '\n'] || text == ['#', 'n']
  match readScript (t.has 'E' || t.has 'r') text with
  | .error (message, some place) =>
    let shown := if place = 0 then "-e expression #1, char 0" else placeIn 1 place parts
    die (shown ++ ": " ++ message)
  | .error (message, none) =>
    complainAhead message
    leave 4
  | .ok (steps, labels) =>
    if t.has 'i' && paths.isEmpty then
      complainAhead "no input files"
      leave 4
    let writers ← openWriters steps
    let isZeroed (x : Step) : RangeState := match x.first? with
      | some (.line 0) => .inside none
      | _ => .outside
    let x : Editing :=
      { steps := steps
        labels := labels
        isQuiet := t.has 'n' || isHushed
        isSeparate := t.has 's' || t.has 'i'
        inPlace? := if t.has 'i' then some ((t.word? 'i').getD "") else none
        stop := if t.has 'z' then '\x00' else '\n'
        width := ((t.word? 'l').bind decimal?).getD 70
        ranges := steps.map isZeroed
        pattern := []
        isEnded := true
        held := []
        isHeldEnded := true
        line := 0
        source? := none
        path := "-"
        waiting := if paths.isEmpty then ["-"] else paths
        content := []
        queue := []
        wasReplaced := false
        last? := none
        readers := []
        writers := writers
        unended := [] }
    let (status, _) ← (runTurns Act.manyTurns false).run x
    leave status

end LintLedger.Utility.Editor
