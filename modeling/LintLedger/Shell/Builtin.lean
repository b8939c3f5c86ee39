import LintLedger.Shell.Assignment
import LintLedger.Shell.Format
import LintLedger.Shell.Jobs
import LintLedger.Shell.Redirection
import LintLedger.Shell.Search
import LintLedger.Shell.Test

/-!
# Commands of the shell itself

The commands that a shell carries out itself and that need no other command.  Each answers with
its status.

## Main Definitions

* `changeDir`, `takeLine`, `nextOption`, `setTraps`, `sendSignal`, `limit` -- some of them
* `ownCommand?` -- what a command does with its words
-/

namespace LintLedger.Shell

open LintLedger.Machine

/-! ## Directories -/

/-- Tells the shell and its programs the directory. -/
def enterDir (before? : Option String) (dir : String) : Sh Unit := do
  match before? with
  | some before => assign "OLDPWD" before true false
  | none => pure ()
  modify fun s => { s with dir := dir }
  assign "PWD" dir true false

/-- The path of the directory without links. -/
def realDir : Sh String := do
  match ← act (Act.text .place) with
  | .ok path => return path
  | .error _ => return ""

/-- The path that a path means within a directory, by its names alone. -/
def plainPath (dir path : String) : String :=
  let isAbsolute := path.toList.head? = some '/'
  let isDouble := match path.toList with
    | '/' :: '/' :: c :: _ => c != '/'
    | ['/', '/'] => true
    | _ => false
  let split (p : String) : List String := (Text.splitOnChar (· == '/') p).filter (· ≠ "")
  let begun := if isAbsolute then [] else split dir
  let names := (split path).foldl (fun (names : List String) name =>
    if name = "." then names
    else if name = ".." then names.dropLast
    else names ++ [name]) begun
  let front := if isAbsolute && isDouble then "//"
    else if !isAbsolute && dir.toList.take 2 = ['/', '/'] then "//" else "/"
  front ++ "/".intercalate names

/-- Goes to a directory; the value is whether that could be done. -/
def goTo (physical : Bool) (path : String) : Sh Bool := do
  let before := (← get).dir
  let plain := plainPath before path
  let goal := if physical || before = "" then path else plain
  match ← act (Act.doing (.goTo goal)) with
  | .error _ => return false
  | .ok () =>
    let dir ← if physical || before = "" then realDir else pure plain
    enterDir (some before) dir
    return true

/-- Whether the last of some options that exclude each other asks for the path without links. -/
def isPhysical (letters : OptionLetters) : Bool :=
  (letters.getLast?.map fun l => l.1 == 'P').getD false

/-- Whether a path means a directory. -/
def isDirAt (path : String) : Act Bool := do
  match ← Act.look path with
  | .ok i => return i.kind = .dir
  | .error _ => return false

/-- The first of some paths that means a directory. -/
def firstDir? : List String → Act (Option String)
  | [] => pure none
  | path :: rest => do if ← isDirAt path then return some path else firstDir? rest

/-- Whether a path is taken as it is, and not looked for. -/
def isFixedPath (path : String) : Bool :=
  match path.toList with
  | '/' :: _ => true
  | ['.'] => true
  | '.' :: '/' :: _ => true
  | ['.', '.'] => true
  | '.' :: '.' :: '/' :: _ => true
  | _ => false

/-- Goes to a directory. -/
def changeDir (words : List String) : Sh Nat := do
  let (letters, words) ← readOptions "LP" words
  let s ← get
  let named := words.head?
  let goesBack := named = some "-"
  let goal := match named with
    | none => (s.vars.value? "HOME").getD ""
    | some "-" => (s.vars.value? "OLDPWD").getD ""
    | some w => w
  let go (path : String) (shows : Bool) : Sh Nat := do
    if ← goTo (isPhysical letters) path then
      if shows then print ((← get).dir ++ "\n")
      return 0
    else fail ("can't cd to " ++ goal)
  if isFixedPath goal then go goal goesBack
  else
    let goal' := if goal = "" then "." else goal
    let dirs := Text.splitOnChar (· == ':') ((s.vars.value? "CDPATH").getD "")
    let candidates := dirs.map fun dir => if dir = "" then goal' else dir ++ "/" ++ goal'
    match ← act (firstDir? candidates) with
    | some path => go path (goesBack || path != goal')
    | none => go goal' goesBack

/-- Prints the directory. -/
def tellDir (words : List String) : Sh Nat := do
  let (letters, _) ← readOptions "LP" words
  let dir ← if isPhysical letters then realDir else pure (← get).dir
  print (dir ++ "\n")
  return 0

/-! ## Input -/

/-- A line that is being read. -/
structure Reading where
  line : Expanded := .empty
  /-- Where the stretch begins that is being read. -/
  start : Nat := 0
  /-- Whether a backslash was read. -/
  isGuarded : Bool := false

/-- Reads a line, with a backslash guarding the character after it unless `isRaw`; the value is
the line and whether it has an end. -/
def takeLine (isRaw : Bool) : Nat → Reading → Act (Expanded × Bool)
  | 0, r => pure (r.line.divide r.start false, false)
  | turns + 1, r => do
    match ← Act.read 0 1 with
    | .error _ => return (r.line.divide r.start false, false)
    | .ok text =>
      match text.toList with
      | [] => return (r.line.divide r.start false, false)
      | c :: _ =>
        if c == '\x00' then takeLine isRaw turns r
        else if r.isGuarded then
          let line := r.line.divide r.start false
          let line := if c == '\n' then line else line.append [⟨c, .bare⟩]
          takeLine isRaw turns { line := line, start := line.size }
        else if !isRaw && c == '\\' then takeLine isRaw turns { r with isGuarded := true }
        else if c == '\n' then return (r.line.divide r.start false, true)
        else takeLine isRaw turns { r with line := r.line.append [⟨c, .bare⟩] }

/-- Gives variables the fields of a line. -/
def shareOut : List String → List (List Glyph) → Sh Unit
  | [], _ => pure ()
  | name :: rest, [] => do
    setVariable name ""
    shareOut rest []
  | name :: rest, field :: fields => do
    setVariable name (textOf field)
    shareOut rest fields

/-- Reads a line into variables, the last of which gets what is left. -/
def readVariables (words : List String) : Sh Nat := do
  let (letters, names) ← readOptions "p:r" words
  if names.isEmpty then fail "arg count"
  else
    let (line, hasEnd) ← act (takeLine (letters.any fun l => l.1 == 'r') waitingTurns {})
    let s ← get
    shareOut names (line.fields s.separators (some names.length))
    return if hasEnd then 0 else 1

/-! ## Options of scripts -/

/-- Takes the next option from words. -/
def nextOption (words : List String) : Sh Nat := do
  match words with
  | letters :: name :: more =>
    let s ← get
    let args := if more.isEmpty then s.parameters.words else more
    let p := if (args.length : Int) + 1 < s.parameters.optionIndex then
        { s.parameters with optionIndex := 1, optionPlace? := none } else s.parameters
    let index := p.optionIndex.toNat
    let word? (n : Nat) : Option (List Char) :=
      if n = 0 then none else (args[n - 1]?).map String.toList
    let finish (index : Nat) (place? : Option Nat) (c : Char) (isOver : Bool) : Sh Nat := do
      assign "OPTIND" (toString index) false true
      modify fun s => { s with parameters := { s.parameters with optionIndex := index } }
      setVariable name (String.singleton c)
      modify fun s => { s with parameters := { s.parameters with optionPlace? := place? } }
      return if isOver then 1 else 0
    let rest? : Option (List Char) := p.optionPlace?.bind fun place =>
      if index ≤ 1 then none else (word? (index - 1)).map (·.drop place)
    let isQuiet := letters.toList.head? = some ':'
    let take (c : Char) (rest : List Char) (index : Nat) : Sh Nat := do
      let place := letters.toList.dropWhile (· != c)
      let wordSize := ((word? (index - 1)).getD []).length
      let here? : Option Nat := some (wordSize - rest.length)
      match place with
      | [] =>
        if isQuiet then setVariable "OPTARG" (String.singleton c)
        else
          sayRaw ("Illegal option -" ++ String.singleton c ++ "\n")
          unsetVariable "OPTARG"
        finish index here? '?' false
      | _ :: ':' :: _ =>
        if !rest.isEmpty then
          setVariable "OPTARG" (String.ofList rest)
          finish index none c false
        else
          match word? index with
          | some value =>
            setVariable "OPTARG" (String.ofList value)
            finish (index + 1) none c false
          | none =>
            if isQuiet then
              setVariable "OPTARG" (String.singleton c)
              finish index none ':' false
            else
              sayRaw ("No arg for -" ++ String.singleton c ++ " option\n")
              unsetVariable "OPTARG"
              finish index none '?' false
      | _ =>
        setVariable "OPTARG" ""
        finish index here? c false
    match rest? with
    | some (c :: rest) => take c rest index
    | _ =>
      match word? index with
      | some ['-', '-'] => finish (index + 1) none '?' true
      | some ('-' :: c :: rest) => take c rest (index + 1)
      | _ => finish index none '?' true
  | _ => fail "Usage: getopts optstring var [arg...]"

/-! ## Signals -/

/-- Tells the machine what is to happen when a signal comes. -/
def handle (signal : Nat) (command? : Option String) : Act Unit := do
  let d : Disposition := match command? with
    | none => .standard
    | some "" => .ignored
    | some _ => .caught
  let _ ← Act.ask (.handle signal d)

/-- Keeps a command for signals, or forgets those that are kept. -/
def setTrapFor (command? : Option String) : List String → Sh Nat
  | [] => pure 0
  | word :: rest => do
    match signalNumber? 0 word with
    | none =>
      sayRaw ("trap: " ++ word ++ ": bad trap\n")
      return 1
    | some signal =>
      -- A signal that was ignored before the shell began stays so.
      let isIgnored := (← act (Act.disposition signal)) = .ignored
      let isFixed := isIgnored && ((← get).trap? signal).isNone
      modify fun s =>
        let others := s.traps.filter fun t => t.1 != signal
        { s with traps := match command? with
          | some c => (signal, c) :: others
          | none => others }
      if signal != 0 && !isFixed then act (handle signal command?)
      setTrapFor command? rest

/-- Keeps commands for signals, or lists those that are kept. -/
def setTraps (words : List String) : Sh Nat := do
  let (_, words) ← readOptions "" words
  match words with
  | [] =>
    let traps := (← get).traps.mergeSort fun a b => decide (a.1 ≤ b.1)
    traps.forM fun (signal, command) =>
      print ("trap -- " ++ singleQuoted command ++ " " ++ signalName signal ++ "\n")
    return 0
  | [word] => setTrapFor none [word]
  | command :: signals =>
    if (Text.natOf? command.toList).any (· ≤ lastSignal) then setTrapFor none words
    else setTrapFor (if command = "-" then none else some command) signals

/-- How to use the command that sends signals. -/
def signalUsage : String :=
  "Usage: kill [-s sigspec | -signum | -sigspec] [pid | job]... or\nkill -l [exitstatus]"

/-- The process that a word means, a group of processes being negative. -/
def processOf (word : String) : Sh Int := do
  match word.toList with
  | '%' :: _ =>
    let number ← namedJob (some word)
    let j? ← job? number
    return (j?.bind fun j => j.processes.head?).elim 0 fun p => -(p.id : Int)
  | '-' :: rest => return -((← numberOf (String.ofList rest)) : Int)
  | _ => return ((← numberOf word) : Int)

/-- Sends a signal to processes. -/
def sendAll (signal : Nat) : List String → Nat → Sh Nat
  | [], status => pure status
  | word :: rest, status => do
    let process ← processOf word
    match ← act (Act.doing (.kill process signal)) with
    | .ok () => sendAll signal rest status
    | .error e =>
      warn (e.words ++ "\n")
      sendAll signal rest 1

/-- Sends a signal, or tells the names of signals. -/
def sendSignal (words : List String) : Sh Nat := do
  let usage {α : Type} : Sh α := fail signalUsage
  match words with
  | [] => usage
  | first :: rest =>
    let (signal?, isList, words) ← match first.toList with
      | '-' :: name =>
        match signalNumber? 1 (String.ofList name) with
        | some n => pure (some n, false, rest)
        | none => do
          let (letters, words) ← readOptions "ls:" words
          let mut signal? : Option Nat := none
          for (c, name) in letters do
            if c == 's' then
              match signalNumber? 1 name with
              | some n => signal? := some n
              | none => fail ("invalid signal number or name: " ++ name)
          pure (signal?, letters.any fun l => l.1 == 'l', words)
      | _ => pure (none, false, words)
    if isList then
      if signal?.isSome then usage
      else
        match words with
        | [] =>
          print "0\n"
          (List.range lastSignal).forM fun n => print (signalName (n + 1) ++ "\n")
          return 0
        | word :: _ =>
          let n ← numberOf word
          let n := if 128 < n then n - 128 else n
          if 0 < n && n ≤ lastSignal then
            print (signalName n ++ "\n")
            return 0
          else fail ("invalid signal number or exit status: " ++ word)
    else if words.isEmpty then usage
    else sendAll (signal?.getD 15) words 0

/-! ## Limits -/

/-- The limits: name, unit and letter. -/
def resources : List (String × Nat × Char) :=
  [("time(seconds)", 1, 't'), ("file(blocks)", 512, 'f'), ("data(kbytes)", 1024, 'd'),
   ("stack(kbytes)", 1024, 's'), ("coredump(blocks)", 512, 'c'), ("memory(kbytes)", 1024, 'm'),
   ("locked memory(kbytes)", 1024, 'l'), ("process", 1, 'p'), ("nofiles", 1, 'n'),
   ("vmemory(kbytes)", 1024, 'v'), ("locks", 1, 'w'), ("rtprio", 1, 'r')]

/-- The limit in force on a resource, and the limit of that. -/
def limitsOf (resource : Char) : Act (Option Nat × Option Nat) := do
  match ← Act.ask (.limit resource) with
  | .limits soft hard => return (soft, hard)
  | _ => return (none, none)

/-- A limit as it is printed. -/
def limitText (unit : Nat) (value? : Option Nat) : String :=
  match value? with
  | some n => toString (n / unit) ++ "\n"
  | none => "unlimited\n"

/-- Whether a limit lies beyond another. -/
def isBeyond (a? b? : Option Nat) : Bool :=
  match a?, b? with
  | _, none => false
  | none, some _ => true
  | some a, some b => b < a

/-- Prints or sets a limit. -/
def limit (words : List String) : Sh Nat := do
  let (letters, words) ← readOptions "HSatfdscmlpnvwr" words
  let kind := ((letters.filter fun l => l.1 == 'H' || l.1 == 'S').getLast?).map (·.1)
  let showsHard := kind = some 'H'
  let isAll := letters.any fun l => l.1 == 'a'
  let resource := (((letters.map (·.1)).filter fun c => c != 'H' && c != 'S' && c != 'a').getLast?).getD 'f'
  let unit := ((resources.find? fun r => r.2.2 == resource).map (·.2.1)).getD 1
  match words with
  | [] =>
    if isAll then
      resources.forM fun (name, unit, letter) => do
        let (soft, hard) ← act (limitsOf letter)
        let padded := name ++ "".pushn ' ' (20 - name.length) ++ " "
        print (padded ++ limitText unit (if showsHard then hard else soft))
      return 0
    else
      let (soft, hard) ← act (limitsOf resource)
      print (limitText unit (if showsHard then hard else soft))
      return 0
  | word :: more =>
    if isAll || !more.isEmpty then fail "too many arguments"
    else
      let value? ← if word = "unlimited" then pure none
        else
          match word.toList.all Char.isDigit with
          | true => pure (some (Text.natOfDigits word.toList * unit))
          | false => fail "bad number"
      let (soft, hard) ← act (limitsOf resource)
      let hard' := if kind = some 'S' then hard else value?
      let soft' := if kind = some 'H' then soft else value?
      if isBeyond soft' hard' then fail "error setting limit (Invalid argument)"
      else if isBeyond hard' hard then
        fail "error setting limit (Operation not permitted)"
      else
        let _ ← act (Act.ask (.setLimit resource true hard'))
        let _ ← act (Act.ask (.setLimit resource false soft'))
        return 0

/-! ## Permissions of new files -/

/-- The octal number of a word. -/
def octal? (cs : List Char) : Option Nat :=
  if cs.all fun c => '0' ≤ c && c ≤ '7' then some (Text.digitsIn 8 0 cs).1 else none

/-- Permissions as they are after changes in words: for whom, a sign and which ones.  The value
is what is left of the words, and the permissions. -/
def changedMode (mode : Nat) : Nat → Nat → Nat → List Char → List Char × Nat
  | 0, _, new, cs => (cs, new)
  | turns + 1, whom, new, cs =>
    let who (c : Char) : Nat :=
      if c == 'a' then 0o111 else if c == 'u' then 0o100 else if c == 'g' then 0o010
      else if c == 'o' then 0o001 else 0
    let named := cs.takeWhile fun c => "augo".toList.contains c
    let cs := cs.drop named.length
    let whom := named.foldl (fun w c => w ||| who c) whom
    let whom := if whom = 0 then 0o111 else whom
    match cs with
    | [] => ([], new)
    | op :: rest =>
      if !"=+-".toList.contains op then (cs, new)
      else
        let which (c : Char) : Nat :=
          match c with
          | 'r' => 4
          | 'w' => 2
          | 'x' => 1
          | 'u' => mode / 64
          | 'g' => mode / 8
          | 'o' => mode
          | 'X' => if mode &&& 0o111 != 0 then 1 else 0
          | _ => 0
        let letters := rest.takeWhile fun c => "rwxugoXs".toList.contains c
        let rest := rest.drop letters.length
        let value := ((letters.foldl (fun v c => v ||| which c) 0) &&& 7) * whom
        let new :=
          if op == '-' then new &&& (0o777 ^^^ (value &&& 0o777))
          else if op == '=' then value ||| (new &&& (0o777 ^^^ (whom * 7 &&& 0o777)))
          else new ||| value
        match rest with
        | ',' :: rest => if rest.isEmpty then ([], new) else changedMode mode turns 0 new rest
        | c :: _ =>
          if "=+-".toList.contains c then changedMode mode turns whom new rest else (rest, new)
        | [] => ([], new)

/-- Permissions in letters. -/
def modeLetters (n : Nat) : String :=
  (if n &&& 4 != 0 then "r" else "") ++ (if n &&& 2 != 0 then "w" else "") ++
    (if n &&& 1 != 0 then "x" else "")

/-- Prints or sets the permissions that new files do not get. -/
def maskCommand (words : List String) : Sh Nat := do
  let (letters, words) ← readOptions "S" words
  let mask ← act (Act.numberOrZero (.mask none))
  let allowed := 0o777 ^^^ mask
  match words with
  | [] =>
    if letters.isEmpty then
      let digits := Nat.toDigits 8 mask
      print ("".pushn '0' (4 - digits.length) ++ String.ofList digits ++ "\n")
    else
      print ("u=" ++ modeLetters (allowed / 64) ++ ",g=" ++ modeLetters (allowed / 8) ++ ",o=" ++
        modeLetters allowed ++ "\n")
    return 0
  | word :: _ =>
    let new ← if (word.toList.head?.map Char.isDigit).getD false then
        match octal? word.toList with
        | some n => pure (n % 0o1000)
        | none => notNumber word
      else
        match changedMode allowed (word.length + 1) 0 allowed word.toList with
        | ([], new) => pure (0o777 ^^^ (new &&& 0o777))
        | _ => fail ("Illegal mode: " ++ word)
    let _ ← act (Act.ask (.mask (some new)))
    return 0

/-! ## Variables -/

/-- Prints variables in ascending order so that a script can read them. -/
def listVariables (front : String) (vs : Variables) : Sh Unit := do
  let sorted := vs.mergeSort fun a b => decide (a.name ≤ b.name)
  sorted.forM fun v =>
    print (front ++ v.name ++ (match v.value? with
      | some x => "=" ++ singleQuoted x
      | none => "") ++ "\n")

/-- Marks variables, and sets those that are given a value. -/
def markVariables (isExport : Bool) (words : List String) : Sh Nat := do
  let (letters, words) ← readOptions "p" words
  let s ← get
  if !letters.isEmpty || words.isEmpty then
    if isExport then listVariables "export " (s.vars.filter (·.isExported))
    else listVariables "readonly " (s.vars.filter (·.isReadOnly))
    return 0
  else
    words.forM fun word => do
      let name := nameOf word
      let vs := (← get).vars
      match valueAfter? word, vs.find? name with
      | none, some _ => pure ()
      | none, none =>
        checkName name
        modify fun s => { s with vars := s.vars.replace { name := name, value? := none } }
      | some value, _ => setVariable name value
      modify fun s => match s.vars.find? name with
        | some v =>
          let marked : Variable := { v with
            isExported := v.isExported || isExport
            isReadOnly := v.isReadOnly || !isExport }
          { s with vars := s.vars.replace marked }
        | none => s
    return 0

/-- Makes variables belong to the function that runs. -/
def localVariables (words : List String) : Sh Nat := do
  if (← get).locals.isEmpty then fail "not in a function"
  else
    words.forM fun word => makeLocal word false
    return 0

/-- Takes away variables or functions. -/
def unsetAll (words : List String) : Sh Nat := do
  let (letters, words) ← readOptions "vf" words
  let isFunction := (letters.getLast?.map fun l => l.1 == 'f').getD false
  words.forM fun word =>
    if isFunction then
      modify fun s => { s with functions := s.functions.filter fun f => f.1 != word }
    else unsetVariable word
  return 0

/-- Makes the words given the parameters. -/
def setParameters (words : List String) : Sh Unit :=
  modify fun s => { s with parameters := { words := words } }

/-- Sets options and parameters, or lists the variables. -/
def setCommand (words : List String) : Sh Nat := do
  if words.isEmpty then
    listVariables "" ((← get).vars.filter (·.value?.isSome))
    return 0
  else
    let o ← readShellOptions false (words.length + 1) false words
    if !o.rest.isEmpty || o.replaces then setParameters o.rest
    return 0

/-- Takes parameters away at the begin. -/
def shift (words : List String) : Sh Nat := do
  let n ← match words with
    | [] => pure 1
    | w :: _ => numberOf w
  let all := (← get).parameters.words
  if all.length < n then fail "can't shift that many"
  else
    setParameters (all.drop n)
    return 0

/-! ## Aliases -/

/-- An alias so that a script can read it. -/
def aliasLine (a : String × String) : String := a.1 ++ "=" ++ singleQuoted a.2 ++ "\n"

/-- The aliases with one more. -/
def withAlias (name value : String) (all : List (String × String)) : List (String × String) :=
  if all.any fun a => a.1 == name then
    all.map fun a => if a.1 == name then (name, value) else a
  else all ++ [(name, value)]

/-- Makes or tells aliases. -/
def aliasCommand (words : List String) : Sh Nat := do
  if words.isEmpty then
    let all := (← get).aliases
    let sorted := all.mergeSort fun a b => decide (Variables.group a.1 ≤ Variables.group b.1)
    sorted.forM fun a => print (aliasLine a)
    return 0
  else
    let mut status := 0
    for word in words do
      let all := (← get).aliases
      match word.toList with
      | [] => pure ()
      | c :: rest =>
        if rest.contains '=' then
          let name := String.ofList (c :: rest.takeWhile (· != '='))
          let value := String.ofList ((rest.dropWhile (· != '=')).drop 1)
          modify fun s => { s with aliases := withAlias name value s.aliases }
        else
          match all.find? fun a => a.1 == word with
          | some a => print (aliasLine a)
          | none =>
            sayRaw ("alias: " ++ word ++ " not found\n")
            status := 1
    return status

/-- Takes aliases away. -/
def unaliasCommand (words : List String) : Sh Nat := do
  let (letters, words) ← readOptions "a" words
  if !letters.isEmpty then
    modify fun s => { s with aliases := [] }
    return 0
  else
    let mut status := 0
    for word in words do
      if (← get).aliases.any fun a => a.1 == word then
        modify fun s => { s with aliases := s.aliases.filter fun a => a.1 != word }
      else
        sayRaw ("unalias: " ++ word ++ " not found\n")
        status := 1
    return status

/-! ## Programs and jobs -/

/-- Searches programs, or tells where they were found. -/
def hashCommand (words : List String) : Sh Nat := do
  let (letters, words) ← readOptions "rv" words
  if letters.any fun l => l.1 == 'r' then
    modify fun s => { s with found := [] }
    return 0
  else if words.isEmpty then
    listFound
    return 0
  else
    let mut status := 0
    for word in words do
      modify fun s => { s with found := s.found.filter fun f => f.1 != word }
      match ← search { tells := true } none word with
      | .unknown => status := 1
      | _ => pure ()
    return status

/-- Tells what names mean. -/
def tellAll (words : List String) : Sh Nat := do
  let mut status := 0
  for word in words do
    status := status ||| (← tell true none word)
  return status

/-- Tells what a name means. -/
def commandCommand (words : List String) : Sh Nat := do
  let (letters, words) ← readOptions "pvV" words
  let has (c : Char) : Bool := letters.any fun l => l.1 == c
  match words with
  | word :: _ =>
    if has 'v' || has 'V' then
      tell (has 'V') (if has 'p' then some Variables.standardPath else none) word
    else return 0
  | [] => return 0

/-- The status of a wait that a signal broke off. -/
def interruptedStatus : Sh Nat := do
  let caught ← act Act.caught
  match caught with
  | [] => return 128
  | signal :: _ =>
    -- The signal is still to be answered by its command.
    let me ← act (Act.numberOrZero .self)
    caught.forM fun s => do let _ ← act (Act.ask (.kill me s))
    return 128 + signal

/-- Waits for the processes or jobs of some words. -/
def waitForWords : List String → Nat → Sh Nat
  | [], status => pure status
  | word :: rest, _ => do
    let number? ← match word.toList with
      | '%' :: _ => do pure (some (← namedJob (some word)))
      | _ => do
        let id ← numberOf word
        let jobs := (← get).jobs
        pure ((jobs.find? fun j => (j.processes.getLast?.map (·.id)) == some id).map (·.number))
    match number? with
    | none => waitForWords rest 127
    | some number =>
      if ← waitWithin number .alert waitingTurns then
        changeJob number fun j => { j with isWaited := true }
        let j? ← job? number
        waitForWords rest ((j?.map Job.status).getD 0)
      else interruptedStatus

/-- Waits for processes. -/
def waitCommand (words : List String) : Sh Nat := do
  let (_, words) ← readOptions "" words
  match words with
  | [] => if ← waitForAll waitingTurns then return 0 else interruptedStatus
  | words => waitForWords words 0

/-- Tells the jobs. -/
def jobsCommand (words : List String) : Sh Nat := do
  let (letters, words) ← readOptions "lp" words
  let last? := letters.getLast?.map (·.1)
  match words with
  | [] =>
    listJobs (last? = some 'l') (last? = some 'p')
    return 0
  | words =>
    words.forM fun word => do
      let number ← namedJob (some word)
      match ← job? number with
      | some j =>
        if last? = some 'p' then
          print ((j.processes.head?.map fun p => toString p.id ++ "\n").getD "")
        else print (jobLines (← get).jobs j (last? = some 'l'))
      | none => pure ()
    return 0

/-- Would bring a job to the front. -/
def controlCommand (words : List String) : Sh Nat := do
  let (_, words) ← readOptions "" words
  controlledJob words.head?

/-- Leaves loops or turns of loops. -/
def leaveLoops (kind : Skip) (words : List String) : Sh Nat := do
  let n ← match words with
    | [] => pure 1
    | w :: _ => do
      let n ← numberOf w
      if n = 0 then notNumber w else pure n
  let n := min n (← get).loops
  if 0 < n then modify fun s => { s with skip := kind, skipCount := n }
  return 0

/-- Ends the shell. -/
def exitCommand (words : List String) : Sh Nat := do
  match words with
  | [] => pure ()
  | w :: _ =>
    let n ← numberOf w
    modify fun s => { s with savedStatus? := some n }
  throw .exit

/-- Leaves a function or a file. -/
def returnCommand (words : List String) : Sh Nat := do
  match words with
  | [] =>
    modify fun s => { s with skip := .bareBody }
    return (← get).status
  | w :: _ =>
    let n ← numberOf w
    modify fun s => { s with skip := .body }
    return n

/-! ## Text and conditions -/

/-- Fills a format. -/
def formatCommand (words : List String) : Sh Nat := do
  let (_, words) ← readOptions "" words
  match words with
  | [] => fail "usage: printf format [arg ...]"
  | form :: args =>
    let f := format form args
    f.warnings.forM warn
    print f.output
    match f.fault? with
    | some fault => fail fault
    | none => return if f.warnings.isEmpty then 0 else 1

/-- Asks a condition. -/
def testCommand (name : String) (words : List String) : Sh Nat := do
  let ask (words : List String) : Sh Nat := do
    match ← act (condition words).run with
    | .ok b => return if b then 0 else 1
    | .error message => fail message
  if name = "[" then
    if words.getLast? = some "]" then ask words.dropLast else fail "missing ]"
  else ask words

/-- What a command of the shell itself does with its words, if it needs no other command. -/
def ownCommand (name : String) (words : List String) : Sh Nat :=
  match name with
  | "echo" => do
    print (echoed words)
    return 0
  | "printf" => formatCommand words
  | "test" => testCommand name words
  | "[" => testCommand name words
  | "false" => pure 1
  | "cd" => changeDir words
  | "chdir" => changeDir words
  | "pwd" => tellDir words
  | "read" => readVariables words
  | "getopts" => nextOption words
  | "trap" => setTraps words
  | "kill" => sendSignal words
  | "ulimit" => limit words
  | "umask" => maskCommand words
  | "export" => markVariables true words
  | "readonly" => markVariables false words
  | "local" => localVariables words
  | "unset" => unsetAll words
  | "set" => setCommand words
  | "shift" => shift words
  | "alias" => aliasCommand words
  | "unalias" => unaliasCommand words
  | "hash" => hashCommand words
  | "type" => tellAll words
  | "command" => commandCommand words
  | "wait" => waitCommand words
  | "jobs" => jobsCommand words
  | "fg" => controlCommand words
  | "bg" => controlCommand words
  | "break" => leaveLoops .loop words
  | "continue" => leaveLoops .turn words
  | "exit" => exitCommand words
  | "return" => returnCommand words
  | "times" => do
    print "0m0.000000s 0m0.000000s\n0m0.000000s 0m0.000000s\n"
    return 0
  | _ => pure 0

end LintLedger.Shell
