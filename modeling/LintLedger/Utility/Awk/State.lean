import LintLedger.Utility.Awk.Reader
import LintLedger.Utility.Awk.Table
import LintLedger.Utility.Launching

/-!
# The state of a script that runs

Variables and tables, the line with its fields, and the files and commands that lines come from
and go to.

## Main Definitions

* `State`, `Run` -- what is kept, and activities of a script
* `getPlace`, `setPlace`, `withTable` -- variables and tables
* `getField`, `setField`, `setLine` -- the line and its fields
* `nextLine?` -- the next line of all files
* `writeTo`, `readFrom`, `closeAll` -- files and commands
-/

namespace LintLedger.Utility.Awk

open LintLedger.Machine

/-- What is at a place. -/
inductive Slot where
  | value (v : Value)
  | table (id : Nat)

instance : Inhabited Slot := ⟨.value .unset⟩

/-- A file or a command that text goes to. -/
structure Writer where
  name : String
  d : Nat
  /-- The process of a command. -/
  process? : Option Nat
  /-- What is not written yet, the last text first. -/
  unwritten : List String
  size : Nat

/-- A file or a command that lines come from. -/
structure Reader where
  isCommand : Bool
  name : String
  source : Source
  process? : Option Nat

/-- What is kept while a script runs. -/
structure State where
  script : Script
  launch : Launch
  environment : Variables
  shared : Array Value
  tables : Array (Table Value)
  /-- The places of the function that is carried out. -/
  own : Array Slot
  line : String
  fields : Array Value
  /-- Whether the line was taken apart. -/
  isSplit : Bool
  source? : Option Source
  /-- The next operand. -/
  operand : Nat
  /-- Whether any operand was a file. -/
  hasFiles : Bool
  isOver : Bool
  writers : List Writer
  readers : List Reader
  /-- Whether the lines between two terms are being passed, by the number of the rule. -/
  ranges : Array Bool
  patterns : Std.HashMap String Regex
  seed : Float
  draws : UInt64
  status : Nat
  /-- How much was done. -/
  steps : Nat
  /-- How many arguments there are of functions that are carried out. -/
  depth : Nat

/-- Why a script does not go on with its next statement. -/
inductive Jump where
  | leaveLoop
  | nextTurn
  | nextLine
  | nextFile
  | exit
  | answer (v : Value)

/-- An activity of a script. -/
abbrev Run := ExceptT Jump (StateT State Work)

/-- How much is done before a little time passes. -/
def stepSize : Nat := 8

/-- Lets time pass. -/
def pass : Run Unit := do
  let n := (← get).steps
  modify fun s => { s with steps := n + 1 }
  if n % stepSize = 0 then
    let _ ← act (Act.ask .tick)

/-! ## Variables -/

/-- The value of a variable of the whole script, as it is. -/
def getShared (i : Nat) : Run Value := do return (← get).shared[i]?.getD .unset

/-- The text of a variable of the whole script. -/
def sharedText (i : Nat) : Run String := do
  let s ← get
  let form := match s.shared[textFormat]? with
    | some (.text t) => t
    | some (.input t) => t
    | _ => "%.6g"
  return (s.shared[i]?.getD .unset).toText form

/-- A value as a text. -/
def textOf (v : Value) : Run String := do
  match v with
  | .text t => return t
  | .input t => return t
  | .unset => return ""
  | v => return v.toText (← sharedText textFormat)

/-- Gives a variable of the whole script a value. -/
def setShared (i : Nat) (v : Value) : Run Unit :=
  modify fun s => { s with shared := s.shared.set! i v }

/-- Changes a table; the value is what that gives. -/
def withTable {α : Type} (id : Nat) (f : Table Value → α × Table Value) : Run α :=
  modifyGet fun s =>
    let t := s.tables[id]?.getD .empty
    let tables := s.tables.set! id .empty
    let (a, t) := f t
    (a, { s with tables := tables.set! id t })

/-- The number of the table at a place, which is there from now on. -/
def tableAt (p : Place) : Run Nat := do
  match p with
  | .shared i => return i
  | .own i =>
    let s ← get
    match s.own[i]? with
    | some (.table id) => return id
    | _ =>
      set { s with tables := s.tables.push .empty, own := s.own.set! i (.table s.tables.size) }
      return s.tables.size

/-- A key of some values. -/
def keyOf (vs : List Value) : Run Key := do
  match vs with
  | [.number x] =>
    match wordOf? x with
    | some i => return .number i
    | none => return .text (← textOf (.number x))
  | vs =>
    let texts ← vs.mapM textOf
    return .text ((← sharedText keyMark).intercalate texts)

/-! ## Failures -/

/-- Writes what was put into a writer. -/
def flushWriter (w : Writer) : Run Writer := do
  if w.unwritten.isEmpty then return w
  else
    let _ ← act (Act.write w.d (String.join w.unwritten.reverse))
    return { w with unwritten := [], size := 0 }

/-- Writes all that was printed. -/
def flushAll : Run Unit := do
  flush
  let writers ← (← get).writers.mapM flushWriter
  modify fun s => { s with writers := writers }

/-- The number for how a process ended. -/
def endingNumber : Ending → Nat
  | .exited n => n
  | .killed n => 256 + n

/-- Waits for the process of a command, if there is one; the value is how it ended. -/
def awaitProcess (process? : Option Nat) : Run Nat := do
  match process? with
  | none => return 0
  | some p =>
    match ← act (Act.wait (some p) .deaf) with
    | .ok (some (_, e)) => return endingNumber e
    | _ => return 0

/-- Closes a writer; the value is how its command ended. -/
def closeWriter (w : Writer) : Run Nat := do
  let w ← flushWriter w
  if 2 < w.d then act (Act.close w.d)
  awaitProcess w.process?

/-- Ends the script. -/
def finish {α : Type} (status : Nat) : Run α := do
  for w in (← get).writers do
    let _ ← closeWriter w
  leave status

/-- Ends the script because of something that is wrong. -/
def failRunning {α : Type} (words : String) : Run α := do
  complainAhead ("run time error: " ++ words)
  say ("\tFILENAME=\"" ++ (← sharedText fileName) ++ "\" FNR=" ++ (← sharedText fileLineCount) ++
    " NR=" ++ (← sharedText lineCount) ++ "\n")
  finish 2

/-- The regular expression that a text is. -/
def patternOf (text : String) : Run Regex := do
  match (← get).patterns[text]? with
  | some r => return r
  | none =>
    match Regex.read dialect text.toList with
    | .ok x =>
      modify fun s => { s with patterns := s.patterns.insert text x.regex }
      return x.regex
    | .error e => failRunning (regexFault text.toList e)

/-- A text as patterns look at it. -/
def subject (text : String) : Regex.Subject := { chars := text.toList.toArray }

/-! ## Fields -/

/-- What separates fields, or ends lines. -/
inductive Separator where
  | blanks
  | char (c : Char)
  | nothing
  | pattern (r : Regex)

/-- What a text separates. -/
def separatorOf (text : String) : Run Separator := do
  match text.toList with
  | [' '] => return .blanks
  | [c] => return .char c
  | [] => return .nothing
  | _ => return .pattern (← patternOf text)

/-- Whether a character separates fields if blanks do. -/
def isFieldBlank (c : Char) : Bool := c == ' ' || c == '\t' || c == '\n'

/-- The parts of a text between blanks. -/
def splitBlanks : Nat → List Char → List String
  | 0, _ => []
  | fuel + 1, cs =>
    let cs := cs.dropWhile isFieldBlank
    if cs.isEmpty then []
    else
      let field := cs.takeWhile fun c => !isFieldBlank c
      String.ofList field :: splitBlanks fuel (cs.drop field.length)

/-- The parts of a text from a place on between what a pattern fits. -/
def splitPattern (r : Regex) (s : Regex.Subject) : Nat → (start next : Nat) → List String
  | 0, _, _ => []
  | fuel + 1, start, next =>
    let rest := String.ofList (s.chars.extract start s.chars.size).toList
    match (if s.chars.size < next then none else r.find? s next) with
    | none => [rest]
    | some (first, p) =>
      if p.finish = first then
        if s.chars.size ≤ first then [rest] else splitPattern r s fuel start (first + 1)
      else
        String.ofList (s.chars.extract start first).toList :: splitPattern r s fuel p.finish p.finish

/-- The fields of a text. -/
def fieldsOf (mark : Separator) (text : String) : List String :=
  if text = "" then []
  else
    match mark with
    | .blanks => splitBlanks (text.length + 1) text.toList
    | .char c => Text.splitOnChar (· == c) text
    | .nothing => text.toList.map String.singleton
    | .pattern r =>
      let s := subject text
      splitPattern r s (s.chars.size + 1) 0 0

/-- Takes the line apart. -/
def splitLine : Run Unit := do
  if !(← get).isSplit then
    let mark ← separatorOf (← sharedText fieldMark)
    let fields := (fieldsOf mark (← get).line).toArray.map Value.input
    modify fun s =>
      { s with
        fields := fields
        isSplit := true
        shared := s.shared.set! fieldCount (.ofNat fields.size) }

/-- Puts the line together from its fields. -/
def joinFields : Run Unit := do
  let texts ← (← get).fields.toList.mapM textOf
  let mark ← sharedText printedFieldMark
  modify fun s => { s with line := mark.intercalate texts }

/-- Sets the line. -/
def setLine (line : String) : Run Unit :=
  modify fun s => { s with line := line, fields := #[], isSplit := false }

/-- Makes the number of fields another one. -/
def setFieldCount (n : Nat) : Run Unit := do
  splitLine
  modify fun s =>
    let fields := if n ≤ s.fields.size then s.fields.extract 0 n
      else s.fields ++ Array.replicate (n - s.fields.size) (Value.text "")
    { s with fields := fields, shared := s.shared.set! fieldCount (.ofNat n) }

/-- The value of a field; the field with number zero is the line. -/
def getField (n : Nat) : Run Value := do
  if n = 0 then return .input (← get).line
  else
    splitLine
    return (← get).fields[n - 1]?.getD (.text "")

/-- Gives a field a value. -/
def setField (n : Nat) (v : Value) : Run Unit := do
  if n = 0 then setLine (← textOf v)
  else
    splitLine
    if (← get).fields.size < n then setFieldCount n
    modify fun s => { s with fields := s.fields.set! (n - 1) v }
    joinFields

/-- The value at a place. -/
def getPlace (p : Place) : Run Value := do
  match p with
  | .shared i =>
    if i = fieldCount then splitLine
    getShared i
  | .own i =>
    match (← get).own[i]? with
    | some (.value v) => return v
    | _ => return .unset

/-- Gives a variable a value. -/
def setPlace (p : Place) (v : Value) : Run Unit := do
  match p with
  | .shared i =>
    if i = fieldCount then
      setFieldCount (nearestWord v.toNumber).toNat
      joinFields
    else
      if i = fieldMark then splitLine
      setShared i v
  | .own i => modify fun s => { s with own := s.own.set! i (.value v) }

/-! ## Commands -/

/-- Begins a shell that carries out a command, after something else in its process. -/
def beginShell (name command : String) (before : Act Unit) : Run Nat := do
  let s ← get
  let others := (s.writers.filter fun w => 2 < w.d).map (·.d) ++
    (s.readers.filter fun r => 2 < r.source.d).map (·.source.d)
  act (Act.fork (Act.program do
    before
    others.forM Act.close
    match ← s.launch "/bin/sh" [name, "-c", command] s.environment with
    | .ok p =>
      let _ ← Act.ask .restart
      Act.become p
    | .error _ => return 127))

/-- Carries out a command; the value is how it ended. -/
def runCommand (command : String) : Run Nat := do
  flushAll
  let p ← beginShell "sh" command (pure ())
  awaitProcess (some p)

/-- Begins a command that reads or prints through a pipe; the value is the end of the pipe and
the process. -/
def beginPiped (command : String) (reads : Bool) : Run (Nat × Nat) := do
  flushAll
  match ← act Act.pipe with
  | .error e => failRunning ("cannot open pipe: " ++ e.words)
  | .ok (r, w) =>
    let (theirs, ours) := if reads then (r, w) else (w, r)
    let p ← beginShell "/bin/sh" command do
      let _ ← Act.doing (.copy theirs (if reads then 0 else 1))
      Act.close r
      Act.close w
    act (Act.close theirs)
    return (ours, p)

/-! ## Output -/

/-- The descriptor that a path stands for. -/
def standardOutlet? (o : Outlet) (name : String) : Option Nat :=
  if o = .command then none
  else if name = "/dev/stdout" then some 1
  else if name = "/dev/stderr" then some 2
  else none

/-- Opens what text goes to. -/
def openWriter (o : Outlet) (name : String) : Run Writer := do
  match o with
  | .command =>
    let (d, p) ← beginPiped name true
    return ⟨name, d, some p, [], 0⟩
  | o =>
    match ← act (Act.openFile name (if o = .file then .output else .addition)) with
    | .ok d => return ⟨name, d, none, [], 0⟩
    | .error e =>
      complainAhead ("cannot open \"" ++ name ++ "\" for output (" ++ e.words ++ ")")
      finish 2

/-- Writes a text to a file or a command. -/
def writeTo (o : Outlet) (name text : String) : Run Unit := do
  match standardOutlet? o name with
  | some 1 => put text
  | some _ => say text
  | none =>
    if !((← get).writers.any fun w => w.name == name) then
      let w ← openWriter o name
      modify fun s => { s with writers := w :: s.writers }
    let add (w : Writer) : Run Writer := do
      if w.name == name then
        let w := { w with unwritten := text :: w.unwritten, size := w.size + text.length }
        if bufferSize ≤ w.size then flushWriter w else return w
      else return w
    let writers ← (← get).writers.mapM add
    modify fun s => { s with writers := writers }

/-- Prints a text. -/
def printTo (goal? : Option (Outlet × String)) (text : String) : Run Unit := do
  match goal? with
  | none => put text
  | some (o, name) => writeTo o name text

/-! ## Input -/

/-- The source with all that is left of it. -/
def filledUp (s : Source) : Act Source := do
  if s.isOver then return s
  else
    match ← Act.readAll s.d with
    | .ok text => return { s with rest := s.rest ++ text.toList, isOver := true }
    | .error e => return { s with isOver := true, fault? := some e }

/-- The characters before the first of two newlines, and what comes after them. -/
def paragraphOf : List Char → List Char → List Char × List Char
  | done, '\n' :: '\n' :: rest => (done.reverse, rest)
  | done, c :: rest => paragraphOf (c :: done) rest
  | done, [] => (done.reverse, [])

/-- The next line of a source. -/
def lineFrom (mark : Separator) (s : Source) : Act (Option String × Source) := do
  match mark with
  | .blanks =>
    let (l?, s) ← nextLineWithin ' ' Act.manyTurns [] s
    return (l?.map fun l => String.ofList l.chars, s)
  | .char c =>
    let (l?, s) ← nextLineWithin c Act.manyTurns [] s
    return (l?.map fun l => String.ofList l.chars, s)
  | .nothing =>
    let s ← filledUp s
    let cs := s.rest.dropWhile (· == '\n')
    if cs.isEmpty then return (none, { s with rest := [] })
    else
      let (here, rest) := paragraphOf [] cs
      let here := if rest.isEmpty && here.getLast? = some '\n' then here.dropLast else here
      return (some (String.ofList here), { s with rest := rest.dropWhile (· == '\n') })
  | .pattern r =>
    let s ← filledUp s
    if s.rest.isEmpty then return (none, s)
    else
      let x : Regex.Subject := { chars := s.rest.toArray }
      match r.find? x 0 with
      | some (first, p) =>
        if p.finish = first then
          return (some (String.ofList s.rest), { s with rest := [] })
        else
          return (some (String.ofList (s.rest.take first)), { s with rest := s.rest.drop p.finish })
      | none => return (some (String.ofList s.rest), { s with rest := [] })

/-- What ends lines. -/
def lineSeparator : Run Separator := do separatorOf (← sharedText lineMark)

/-- Whether a word gives a variable a value: the name, and the text. -/
def settingIn? (word : String) : Option (String × String) :=
  let name := word.toList.takeWhile isNamePart
  match word.toList.drop name.length, name.head? with
  | '=' :: value, some c =>
    if startsName c then
      some (String.ofList name, String.ofList (unescaped (value.length + 1) value))
    else none
  | _, _ => none

/-- Gives a variable of that name a value. -/
def assignNamed (name value : String) : Run Unit := do
  match (← get).script.names.findIdx? (· == name) with
  | some i => setPlace (.shared i) (.input value)
  | none => pure ()

/-- Opens the file of the next operand, in at most so many turns; the value is whether there is
one. -/
def nextFile? : Nat → Run Bool
  | 0 => return false
  | turns + 1 => do
    let s ← get
    let count := (nearestWord (s.shared[wordCount]?.getD .unset).toNumber).toNat
    let begin (path : String) (d : Nat) : Run Bool := do
      setShared fileName (.text path)
      setShared fileLineCount (.number 0.0)
      modify fun s => { s with source? := some (Source.of d), hasFiles := true }
      return true
    if s.operand < count then
      set { s with operand := s.operand + 1 }
      let word ← match (s.tables[wordTable]?).bind fun t => t.find? (.text (toString s.operand)) with
        | some v => textOf v
        | none => pure ""
      if word = "" then nextFile? turns
      else
        match settingIn? word with
        | some (name, value) =>
          assignNamed name value
          nextFile? turns
        | none =>
          if word = "-" then begin "-" 0
          else
            match ← act (Act.openFile word .input) with
            | .ok d => begin word d
            | .error e =>
              complainAhead ("cannot open \"" ++ word ++ "\" (" ++ e.words ++ ")")
              finish 2
    else if s.hasFiles then return false
    else begin "-" 0

/-- The next line of all files, in at most so many turns. -/
def nextLineOf : Nat → Run (Option String)
  | 0 => return none
  | turns + 1 => do
    let s ← get
    if s.isOver then return none
    else
      match s.source? with
      | none =>
        if ← nextFile? Act.manyTurns then nextLineOf turns
        else
          modify fun s => { s with isOver := true }
          return none
      | some source =>
        let (line?, source) ← act (lineFrom (← lineSeparator) source)
        match source.fault? with
        | some e =>
          complainAhead ("read error (" ++ e.words ++ ")")
          finish 2
        | none => pure ()
        match line? with
        | some line =>
          modify fun s => { s with source? := some source }
          return some line
        | none =>
          act (closeInput source.d)
          modify fun s => { s with source? := none }
          nextLineOf turns

/-- The next line of all files, which is counted. -/
def nextLine? : Run (Option String) := do
  match ← nextLineOf Act.manyTurns with
  | none => return none
  | some line =>
    let count (i : Nat) : Run Unit := do
      setShared i (.number ((← getShared i).toNumber + 1.0))
    count lineCount
    count fileLineCount
    return some line

/-- Goes on to the next file. -/
def leaveFile : Run Unit := do
  match (← get).source? with
  | some s =>
    act (closeInput s.d)
    modify fun s => { s with source? := none }
  | none => pure ()

/-- The next line of a file or a command; there is a failure if it cannot be opened. -/
def readFrom (isCommand : Bool) (name : String) : Run (Except FileError (Option String)) := do
  let isMeant (r : Reader) : Bool := r.isCommand == isCommand && r.name == name
  let reader? ← match (← get).readers.find? isMeant with
    | some r => pure (Except.ok r)
    | none =>
      if isCommand then do
        let (d, p) ← beginPiped name false
        pure (.ok ⟨true, name, Source.of d, some p⟩)
      else
        match ← act (openInput name) with
        | .ok d => pure (.ok ⟨false, name, Source.of d, none⟩)
        | .error e => pure (.error e)
  match reader? with
  | .error e => return .error e
  | .ok r =>
    let (line?, source) ← act (lineFrom (← lineSeparator) r.source)
    modify fun s =>
      { s with readers := { r with source := source } :: s.readers.filter fun x => !isMeant x }
    return .ok line?

/-- Closes what goes under a name; the value is how its command ended, if there was one. -/
def closeAll (name : String) : Run (Option Nat) := do
  let s ← get
  let writers := s.writers.filter fun w => w.name == name
  let readers := s.readers.filter fun r => r.name == name
  set { s with
    writers := s.writers.filter fun w => w.name != name
    readers := s.readers.filter fun r => r.name != name }
  if !writers.isEmpty then flush
  let closed ← writers.mapM closeWriter
  let ended ← readers.mapM fun r => do
    if r.source.d != 0 then act (Act.close r.source.d)
    awaitProcess r.process?
  return (closed ++ ended).getLast?

end LintLedger.Utility.Awk
