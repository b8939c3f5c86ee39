import LintLedger.Shell.Builtin

/-!
# Carrying out commands

A command is carried out in the shell itself, or in a copy of the shell that runs beside it.
The end of a shell is carried out too: what it was told to do at its end comes before it.

## Main Definitions

* `Manner` -- how a command is carried out
* `carryOut` -- carries out a command
* `runText`, `runFile` -- carries out the lines of a text, and of a file
* `endShell` -- the end of a shell
* `shellProgram` -- a shell as a program

## Design Notes

How programs are begun is a parameter of everything here.  What a copy of the shell does is
carried out by the same functions, so that each of them has a bound on how deep it goes, which
is greater than any script needs.
-/

namespace LintLedger.Shell

open LintLedger.Machine

/-- How a command is carried out. -/
structure Manner where
  /-- Somebody looks at its status, so that its failure does not end the shell. -/
  isTested : Bool := false
  /-- The shell has nothing to do after it. -/
  isLast : Bool := false

/-- The manner of a part of a command. -/
def Manner.inner (m : Manner) : Manner := { isTested := m.isTested }

/-- A command somebody looks at the status of. -/
def Manner.tested : Manner := { isTested := true }

/-! ## Shells as processes -/

/-- An activity of a shell as a program; its value is the status. -/
def shellProgram (s : State) (m : Sh Nat) : Program :=
  Act.program do
    let (r, s) ← m.run.run s
    return match r with
      | .ok status => status
      | .error _ => s.status

/-- What a copy of a shell does not take over. -/
def resetCopy : Sh Unit := do
  let s ← get
  let dropped := s.traps.filter fun t => t.2 != ""
  set { s with
    traps := s.traps.filter fun t => t.2 == ""
    jobs := []
    redirected := [] }
  dropped.forM fun t =>
    if t.1 = 0 then pure () else act (handle t.1 none)

/-- What a copy of a shell does that runs in the background: it is not interrupted, and nothing
is on its standard input. -/
def goToBackground (isFirst : Bool) : Sh Unit := do
  for signal in [2, 3] do
    let _ ← act (Act.ask (.handle signal .ignored))
  if isFirst then
    act (Act.close 0)
    let _ ← act (Act.openFile "/dev/null" .input)

/-- Makes a descriptor lead where another leads, which is closed. -/
def moveDescriptor (d goal : Nat) : Sh Unit := do
  if d != goal then
    let _ ← act (Act.doing (.copy d goal))
    act (Act.close d)

/-- What is put in order when a shell ends: the status that counts, and the descriptors. -/
def settleEnd (why : Flow) : Sh Unit := do
  let s ← get
  let counts := why = .exit || s.skip = .bareBody
  let status := match s.savedStatus? with
    | some n => if counts then n else s.status
    | none => s.status
  set { s with
    status := status, savedStatus? := none, skip := .nothing, loops := 0, isTracing := false }
  undoRedirections 0

/-! ## Loops -/

/-- What is passed over at the end of a turn of a loop; a loop that is left has been left. -/
def leaveTurn : Sh Skip := do
  let s ← get
  match s.skip with
  | .turn | .loop =>
    if s.skipCount ≤ 1 then
      set { s with skip := .nothing, skipCount := 0 }
      return s.skip
    else
      set { s with skipCount := s.skipCount - 1 }
      return .loop
  | skip => return skip

/-- Whether a loop goes on after a turn. -/
def Skip.goesOn : Skip → Bool
  | .nothing => true
  | .turn => true
  | _ => false

/-- One more loop, or one less, is around. -/
def changeLoops (f : Nat → Nat) : Sh Unit := modify fun s => { s with loops := f s.loops }

/-! ## The words of a simple command -/

/-- The begin of a simple command: its words as far as they tell what it is. -/
structure Opening where
  /-- All words so far. -/
  shown : List String
  /-- The words without those that only say how the command is searched. -/
  words : List String
  /-- The words to come. -/
  rest : List Word
  /-- What the command is, if that can be told without a search for programs. -/
  meaning : Meaning := .unknown
  /-- Whether a failure of the command ends the shell, and assignments stay. -/
  isSpecial : Bool := false
  /-- Whether functions of its name do not count. -/
  skipsFunctions : Bool := false
  /-- The search path, if it is not the one of the shell. -/
  path? : Option String := none

/-- The words up to the first that expands to anything. -/
def firstWords (capture : Capture) : List Word → Sh (List String × List Word)
  | [] => pure ([], [])
  | w :: rest => do
    match ← expandFields capture w with
    | [] => firstWords capture rest
    | words => return (words, rest)

/-- What a name means as long as no program is searched. -/
def ownMeaning (skipsFunctions : Bool) (name : String) : Sh Meaning := do
  if name.toList.contains '/' then return .unknown
  else
    let s ← get
    let functions := if skipsFunctions then [] else s.functions
    match functions.find? fun f => f.1 == name, ownCommands.find? fun c => c.1 == name with
    | some (_, line, body), _ => return .function line body
    | none, some (_, kind) => return .own kind
    | none, none => return .unknown

/-- Whether a word is one of options that only choose the search path. -/
def choosesPath (word : String) : Bool :=
  match word.toList with
  | '-' :: c :: rest => (c :: rest).all (· == 'p')
  | _ => false

/-- Passes over the options behind a word that says how the command is searched; `behind` is
what comes after it.  There is no command if the options ask for something else. -/
def passOptions (capture : Capture) : Nat → List String → Opening → Sh (Opening × Bool)
  | 0, _, o => pure (o, false)
  | turns + 1, behind, o => do
    let (o, behind) ← do
      if behind.isEmpty then
        let (words, rest) ← firstWords capture o.rest
        pure ({ o with shown := o.shown ++ words, rest := rest }, words)
      else pure (o, behind)
    match behind with
    | [] => return (o, false)
    | word :: more =>
      if word = "--" then
        let (words, rest) ← if more.isEmpty then firstWords capture o.rest else pure ([], o.rest)
        let o := { o with shown := o.shown ++ words, rest := rest }
        let words := more ++ words
        return ({ o with words := words }, !words.isEmpty)
      else if choosesPath word then
        passOptions capture turns more { o with path? := some Variables.standardPath }
      else if word.toList.head? = some '-' && word != "-" then return (o, false)
      else return ({ o with words := word :: more }, true)

/-- Finds out what a simple command is, in at most so many turns. -/
def openCommand (capture : Capture) : Nat → Bool → Opening → Sh Opening
  | 0, _, o => pure o
  | turns + 1, isFirst, o => do
    let name := o.words.headD ""
    let meaning ← ownMeaning o.skipsFunctions name
    let o := { o with meaning := meaning }
    match meaning with
    | .own kind =>
      let o := if isFirst then { o with isSpecial := kind.isSpecial } else o
      if name != "command" then return o
      else
        let (next, isCommand) ← passOptions capture waitingTurns o.words.tail o
        if isCommand then openCommand capture turns false { next with skipsFunctions := true }
        else return { next with words := o.words ++ next.shown.drop o.shown.length }
    | _ => return o

/-- Expands the words to come; those that are assignments are no fields if the command takes
assignments. -/
def expandArguments (capture : Capture) (takesAssignments : Bool) :
    List Word → Sh (List String)
  | [] => pure []
  | w :: rest => do
    let first ← if takesAssignments && isAssignment w then do
        pure [← expandWord capture { colonTilde := true } w]
      else expandFields capture w
    let others ← expandArguments capture takesAssignments rest
    return first ++ others

/-- Whether a meaning is a command that takes assignments. -/
def Meaning.takesAssignments : Meaning → Bool
  | .own kind => kind.takesAssignments
  | _ => false

/-- Whether a meaning is a command of the shell itself. -/
def Meaning.isOwn : Meaning → Bool
  | .own _ => true
  | _ => false

/-- Carries out the assignments in front of a command; the value is what they are, written
out. -/
def assignAll (capture : Capture) (isLocal isExported : Bool) : List Word → Sh (List String)
  | [] => pure []
  | w :: rest => do
    let text ← expandWord capture { colonTilde := true } w
    if isLocal then makeLocal text true else assignText text isExported
    let others ← assignAll capture isLocal isExported rest
    return text :: others

/-- Shows a command. -/
def trace (capture : Capture) (d : Nat) (words : List String) : Sh Unit := do
  modify fun s => { s with isTracing := true }
  let mark := ((← get).vars.value? "PS4").getD ""
  let front ← match wordOfText? mark with
    | none => pure mark
    | some w =>
      match ← attempt (expandWord capture { quoted := true } w) with
      | .ok text => pure text
      | .error _ => pure mark
  modify fun s => { s with isTracing := false }
  let _ ← act (Act.write d (front ++ " ".intercalate words ++ "\n"))

/-- Whether a text fits any of some words that are patterns. -/
def fitsAny (capture : Capture) (text : String) : List Word → Sh Bool
  | [] => pure false
  | w :: rest => do if ← fitsWord capture text w then return true else fitsAny capture text rest

/-- How many functions may run within each other. -/
def callLimit : Nat := 1000

/-- Notes where the program of a word is found that a copy of the shell will need. -/
def searchEarly (c : Command) : Sh Unit := do
  match c with
  | .simple _ _ (w :: _) _ =>
    match literalText? w with
    | some name => if isName name then let _ ← search {} none name
    | none => pure ()
  | _ => pure ()

/-- A process that runs a program for the shell. -/
def startProgram (launch : Launch) (job : Nat) (searchPath : String) (index? : Option Nat)
    (words : List String) : Sh Unit := do
  let s ← get
  let child : Sh Nat := replaceBy launch searchPath index? words
  let id ← act (Act.fork (shellProgram s child))
  addProcess job id

/-- The path of a script that is carried out by the shell itself. -/
def scriptPath (name : String) : Sh String := do
  if name.toList.contains '/' then return name
  else
    let rec firstFile? : List String → Act (Option String)
      | [] => pure none
      | path :: rest => do
        match ← Act.look path with
        | .ok i => if i.kind = .file then return some path else firstFile? rest
        | .error _ => firstFile? rest
    match ← act (firstFile? (candidatesOn (← get).searchPath name)) with
    | some path => return path
    | none => fail (name ++ ": not found")

/-- How much of a script is read at once. -/
def scriptChunk : Nat := 8192

/-- A place in a script from which more can be read. -/
structure Script where
  reader : Reader
  /-- The descriptor from which the rest of the script comes. -/
  source? : Option Nat

/-- A line of a script, more of it being read if it takes more. -/
def nextLine : Nat → Script → Sh (Line × Script)
  | 0, x => pure (.finished, x)
  | turns + 1, x => do
    let s ← get
    match readLine.run { x.reader with aliases := s.aliases } with
    | .ok (line, reader) =>
      if s.has "verbose" && x.source?.isSome then
        let read := x.reader.rest.take (x.reader.rest.length - reader.rest.length)
        sayRaw (String.ofList read)
      return (line, { x with reader := reader })
    | .error (.malformed line message) =>
      modify fun s => { s with line := line }
      fail message
    | .error .unfinished =>
      let text ← match x.source? with
        | none => pure ""
        | some d => do
          match ← act (Act.read d scriptChunk) with
          | .ok text => pure text
          | .error _ => pure ""
      let reader := { x.reader with rest := x.reader.rest ++ text.toList, isLast := text = "" }
      nextLine turns { x with reader := reader }

mutual

/-- Runs a command in a copy of the shell and gives what it prints. -/
def captured (launch : Launch) : Nat → Option Command → Sh String
  | 0, _ => pure ""
  | _, none => pure ""
  | fuel + 1, some c => do
    match ← act Act.pipe with
    | .error _ => fail "Pipe call failed"
    | .ok (r, w) =>
      let job ← makeJob
      let redirected : Sh Unit := do
        act (Act.close r)
        moveDescriptor w 1
      startCopy launch fuel job false redirected { isLast := true } c
      act (Act.close w)
      let text ← act (Act.readAll r)
      act (Act.close r)
      let status ← waitFor job
      modify fun s => { s with outputStatus := status }
      return text.toOption.getD ""

/-- Starts a copy of the shell that carries out a command after something else. -/
def startCopy (launch : Launch) : Nat → Nat → Bool → Sh Unit → Manner → Command → Sh Unit
  | 0, _, _, _, _, _ => pure ()
  | fuel + 1, job, inBackground, before, m, c => do
    let s ← get
    let isFirst := ((← job? job).map fun j => j.processes.isEmpty).getD true
    let body : Sh Unit := do
      resetCopy
      if inBackground then goToBackground isFirst
      before
      let _ ← carryOut launch fuel m c
    let child : Sh Nat := do
      let r ← attempt body
      endShell launch fuel r
    let id ← act (Act.fork (shellProgram s child))
    addProcess job id
    if inBackground then
      modify fun s => { s with lastProcess? := some id }
      putFirst job

/-- The end of a shell that has left everything else in some way: what it was told to do at its
end is done.  The value is its status. -/
def endShell (launch : Launch) : Nat → Except Flow Unit → Sh Nat
  | 0, _ => pure 0
  | fuel + 1, r => do
    let why : Flow := match r with
      | .ok () => .over
      | .error e => e
    settleEnd why
    modify fun s => { s with savedStatus? := some s.status }
    match (← get).trap? 0 with
    | none => settleEnd .exit
    | some command =>
      modify fun s => { s with traps := s.traps.filter fun t => t.1 != 0, skip := .nothing }
      match ← attempt (runText launch fuel {} command) with
      | .ok _ => settleEnd .exit
      | .error e => settleEnd e
    return (← get).status

/-- Answers the signals that have come by their commands. -/
def answerSignals (launch : Launch) : Nat → Sh Unit
  | 0 => pure ()
  | fuel + 1 => do
    let s ← get
    if !s.hasTraps || s.skip != .nothing then pure ()
    else
      match ← act Act.caught with
      | [] => pure ()
      | signals =>
        let before? := s.savedStatus?
        let status := before?.getD s.status
        modify fun s => { s with savedStatus? := some status }
        answerEach launch fuel status signals
        modify fun s => { s with savedStatus? := before? }

/-- Answers signals one after the other; those that come after one whose answer leaves what the
shell does are kept. -/
def answerEach (launch : Launch) : Nat → Nat → List Nat → Sh Unit
  | 0, _, _ => pure ()
  | _, _, [] => pure ()
  | fuel + 1, status, signal :: rest => do
    let s ← get
    if s.skip != .nothing then
      let me ← act (Act.numberOrZero .self)
      (signal :: rest).forM fun n => do let _ ← act (Act.ask (.kill me n))
    else
      match s.trap? signal with
      | none => answerEach launch fuel status rest
      | some command =>
        let _ ← runText launch fuel {} command
        if (← get).skip != .body then setStatus status
        answerEach launch fuel status rest

/-- Carries out the lines of a text. -/
def runText (launch : Launch) : Nat → Manner → String → Sh Nat
  | 0, _, _ => pure 0
  | fuel + 1, m, text =>
    runTextFrom launch fuel m ⟨Reader.ofText specialNames text true, none⟩ 0

/-- Carries out the rest of the lines of a text. -/
def runTextFrom (launch : Launch) : Nat → Manner → Script → Nat → Sh Nat
  | 0, _, _, status => pure status
  | fuel + 1, m, x, status => do
    match ← nextLine waitingTurns x with
    | (.finished, _) => return status
    | (.command c?, x) =>
      let m' := if x.reader.isAtEnd then m else m.inner
      let status ← match c? with
        | some c => carryOut launch fuel m' c
        | none => pure status
      if (← get).skip != .nothing then return status
      else runTextFrom launch fuel m x status

/-- Carries out the lines of a script that is read while it runs. -/
def runScript (launch : Launch) : Nat → Script → Nat → Sh Nat
  | 0, _, status => pure status
  | fuel + 1, x, status => do
    match ← nextLine waitingTurns x with
    | (.finished, _) => return status
    | (.command c?, x) =>
      let status ← match c? with
        | some c => carryOut launch fuel {} c
        | none => pure status
      let s ← get
      if s.skip = .nothing then runScript launch fuel x status
      else
        if s.skip = .body || s.skip = .bareBody then set { s with skip := .nothing }
        return status

/-- Carries out the lines of a file. -/
def runFile (launch : Launch) : Nat → String → Sh Nat
  | 0, _ => pure 0
  | fuel + 1, name => do
    let path ← scriptPath name
    let d ← openOrFail path .input
    modify fun s => { s with speaker? := some path }
    -- The file is read from a number that scripts do not use.
    let d ← match ← act (Act.number (.copyAbove d firstKept)) with
      | .ok copy => do
        act (Act.close d)
        pure copy
      | .error _ => pure d
    let status ← runScript launch fuel ⟨Reader.ofText specialNames "" false, some d⟩ 0
    act (Act.close d)
    return status

/-- Carries out a command; the value is the status. -/
def carryOut (launch : Launch) : Nat → Manner → Command → Sh Nat
  | 0, _, _ => pure 0
  | fuel + 1, m, c => do
    let _ ← act (Act.ask .tick)
    if (← get).has "noexec" then finish launch fuel m false (← get).status
    else
      answerSignals launch fuel
      match c with
      | .simple line assignments words rs =>
        finish launch fuel m true (← runSimple launch fuel m line assignments words rs)
      | .subshell line body rs =>
        finish launch fuel m true (← runSubshell launch fuel m line body rs)
      | .background line body rs =>
        finish launch fuel m true (← runInBackground launch fuel m line body rs)
      | .pipeline commands inBackground =>
        finish launch fuel m true (← runPipeline launch fuel m commands inBackground)
      | .redirected line body rs => do
        let (status, isBad) ← runRedirected launch fuel m line body rs
        finish launch fuel m isBad status
      | .not body => do
        let status ← carryOut launch fuel .tested body
        finish launch fuel m false (if status = 0 then 1 else 0)
      | .and first second => do
        let status ← carryOut launch fuel .tested first
        if status != 0 || (← get).skip != .nothing then finish launch fuel m false status
        else finish launch fuel m false (← carryOut launch fuel m second)
      | .or first second => do
        let status ← carryOut launch fuel .tested first
        if status = 0 || (← get).skip != .nothing then finish launch fuel m false status
        else finish launch fuel m false (← carryOut launch fuel m second)
      | .sequence first second => do
        let status ← carryOut launch fuel m.inner first
        if (← get).skip != .nothing then finish launch fuel m false status
        else finish launch fuel m false (← carryOut launch fuel m second)
      | .conditional test body otherwise => do
        let status ← carryOut launch fuel .tested test
        if (← get).skip != .nothing then finish launch fuel m false status
        else if status = 0 then finish launch fuel m false (← carryOut launch fuel m body)
        else
          match otherwise with
          | some c => finish launch fuel m false (← carryOut launch fuel m c)
          | none => finish launch fuel m false 0
      | .loop _ isUntil test body => do
        changeLoops (· + 1)
        let status ← runLoop launch fuel m.inner isUntil test body 0
        changeLoops (· - 1)
        finish launch fuel m false status
      | .each line name words body => do
        modify fun s => { s with line := line }
        let words ← expandAll (captured launch fuel) words
        changeLoops (· + 1)
        let status ← runEach launch fuel m.inner name words body 0
        changeLoops (· - 1)
        finish launch fuel m false status
      | .cases line word clauses => do
        modify fun s => { s with line := line }
        let text ← expandWord (captured launch fuel) { tilde := true } word
        finish launch fuel m false (← runCases launch fuel m text clauses)
      | .function line name body => do
        modify fun s =>
          { s with functions := (name, line, body) :: s.functions.filter fun f => f.1 != name }
        finish launch fuel m false 0

/-- What comes after a command: its status is that of the shell, and a failure that nobody
looks at may end the shell. -/
def finish (launch : Launch) : Nat → Manner → Bool → Nat → Sh Nat
  | 0, _, _, status => pure status
  | fuel + 1, m, mayFail, status => do
    setStatus status
    answerSignals launch fuel
    if mayFail && status != 0 && !m.isTested && (← get).has "errexit" then throw .over
    else if m.isLast then throw .over
    else return (← get).status

/-- Carries out a command whose descriptors lead elsewhere; the value tells too whether they
could not be made to. -/
def runRedirected (launch : Launch) :
    Nat → Manner → Nat → Command → List Redirection → Sh (Nat × Bool)
  | 0, _, _, _, _ => pure (0, false)
  | fuel + 1, m, line, body, rs => do
    modify fun s => { s with line := line }
    let all ← aims (captured launch fuel) rs
    beginRedirections rs
    let isGood ← redirectSafely (captured launch fuel) all
    let status ← if isGood then carryOut launch fuel m.inner body else pure 2
    if !rs.isEmpty then endRedirections false
    return (status, !isGood)

/-- Carries out a command in a copy of the shell. -/
def runSubshell (launch : Launch) :
    Nat → Manner → Nat → Command → List Redirection → Sh Nat
  | 0, _, _, _, _ => pure 0
  | fuel + 1, m, line, body, rs => do
    modify fun s => { s with line := line }
    let all ← aims (captured launch fuel) rs
    let redirected := redirect (captured launch fuel) false all
    if m.isLast && !(← get).hasTraps then
      -- The shell is needed no more, so that it is as good as a copy.
      resetCopy
      redirected
      carryOut launch fuel m body
    else
      let job ← makeJob
      startCopy launch fuel job false redirected { m with isLast := true } body
      waitFor job

/-- Starts a copy of the shell that carries out a command in the background. -/
def runInBackground (launch : Launch) :
    Nat → Manner → Nat → Command → List Redirection → Sh Nat
  | 0, _, _, _, _ => pure 0
  | fuel + 1, _, line, body, rs => do
    modify fun s => { s with line := line }
    let all ← aims (captured launch fuel) rs
    let job ← makeJob
    startCopy launch fuel job true (redirect (captured launch fuel) false all) { isLast := true } body
    return 0

/-- Carries out commands each of which reads what the one before prints. -/
def runPipeline (launch : Launch) : Nat → Manner → List Command → Bool → Sh Nat
  | 0, _, _, _ => pure 0
  | fuel + 1, m, commands, inBackground => do
    let job ← makeJob
    startPipeline launch fuel { m with isLast := true } job inBackground none commands
    if inBackground then return 0 else waitFor job

/-- Starts copies of the shell for commands each of which reads what the one before prints;
`source?` is from where the first reads. -/
def startPipeline (launch : Launch) :
    Nat → Manner → Nat → Bool → Option Nat → List Command → Sh Unit
  | 0, _, _, _, _, _ => pure ()
  | _, _, _, _, _, [] => pure ()
  | fuel + 1, m, job, inBackground, source?, c :: rest => do
    searchEarly c
    let closeSource : Sh Unit := match source? with
      | some d => act (Act.close d)
      | none => pure ()
    let pipe? ← if rest.isEmpty then pure none
      else
        match ← act Act.pipe with
        | .ok p => pure (some p)
        | .error _ => do
          closeSource
          fail "Pipe call failed"
    let before : Sh Unit := do
      match pipe? with
      | some (r, _) => act (Act.close r)
      | none => pure ()
      match source? with
      | some d => moveDescriptor d 0
      | none => pure ()
      match pipe? with
      | some (_, w) => if 1 < w then moveDescriptor w 1
      | none => pure ()
    startCopy launch fuel job inBackground before m c
    closeSource
    match pipe? with
    | some (r, w) => do
      act (Act.close w)
      startPipeline launch fuel m job inBackground (some r) rest
    | none => pure ()

/-- Carries out a loop. -/
def runLoop (launch : Launch) : Nat → Manner → Bool → Command → Command → Nat → Sh Nat
  | 0, _, _, _, _, status => pure status
  | fuel + 1, m, isUntil, test, body, status => do
    let i ← carryOut launch fuel .tested test
    let skip ← leaveTurn
    if skip != .nothing then
      let status := if skip = .body then i else status
      if skip.goesOn then runLoop launch fuel m isUntil test body status else return status
    else if (i == 0) == isUntil then return status
    else
      let status ← carryOut launch fuel m body
      if (← leaveTurn).goesOn then runLoop launch fuel m isUntil test body status
      else return status

/-- Carries out a command for each of some words. -/
def runEach (launch : Launch) : Nat → Manner → String → List String → Command → Nat → Sh Nat
  | 0, _, _, _, _, status => pure status
  | _, _, _, [], _, status => pure status
  | fuel + 1, m, name, word :: rest, body, _ => do
    setVariable name word
    let status ← carryOut launch fuel m body
    if (← leaveTurn).goesOn then runEach launch fuel m name rest body status else return status

/-- Carries out the first clause that a text fits. -/
def runCases (launch : Launch) : Nat → Manner → String → List Clause → Sh Nat
  | 0, _, _, _ => pure 0
  | _, _, _, [] => pure 0
  | fuel + 1, m, text, .mk patterns body? :: rest => do
    if (← get).skip != .nothing then return 0
    else if ← fitsAny (captured launch fuel) text patterns then
      match body?, (← get).skip with
      | some body, .nothing => carryOut launch fuel m body
      | _, _ => return 0
    else runCases launch fuel m text rest

/-- Carries out a simple command. -/
def runSimple (launch : Launch) :
    Nat → Manner → Nat → List Word → List Word → List Redirection → Sh Nat
  | 0, _, _, _, _, _ => pure 0
  | fuel + 1, m, line, assignments, words, rs => do
    let capture := captured launch fuel
    modify fun s => { s with line := line, outputStatus := 0 }
    let (first, rest) ← firstWords capture words
    let o : Opening := { shown := first, words := first, rest := rest, meaning := .own {} }
    let o ← if first.isEmpty then pure o else openCommand capture waitingTurns true o
    let others ← expandArguments capture o.meaning.takesAssignments o.rest
    let words := o.words ++ others
    let isExec := o.meaning.isOwn && words.head? = some "exec"
    let isLocal := !first.isEmpty && !o.isSpecial
    let s ← get
    if isLocal then set { s with locals := [] :: s.locals }
    let all ← aims capture rs
    beginRedirections rs
    let status ← if ← redirectSafely capture all then do
        let assigned ← assignAll capture isLocal (isExec && 1 < words.length) assignments
        if (← get).has "xtrace" && !(← get).isTracing then
          let d := match ← former? 2 with
            | some (.kept copy) => if rs.isEmpty then 2 else copy
            | _ => 2
          trace capture d (assigned ++ o.shown ++ others)
        runWords launch fuel m o words
      else do
        setStatus 2
        if o.isSpecial then throw .error
        pure 2
    if !rs.isEmpty then endRedirections isExec
    undoRedirections s.redirected.length
    restoreLocals s.locals.length
    return status

/-- Carries out the words of a simple command. -/
def runWords (launch : Launch) : Nat → Manner → Opening → List String → Sh Nat
  | 0, _, _, _ => pure 0
  | fuel + 1, m, o, words => do
    let meaning ← if o.meaning.isOwn then pure o.meaning
      else
        search { skipsFunctions := o.skipsFunctions, tells := true } o.path? (words.headD "")
    match meaning with
    | .unknown =>
      setStatus 127
      return 127
    | .own _ => runOwn launch fuel m o.isSpecial words
    | .function _ body => runFunction launch fuel m words.tail body
    | .program index? =>
      let s ← get
      let searchPath := o.path?.getD s.searchPath
      if m.isLast && !s.hasTraps then replaceBy launch searchPath index? words
      else
        let job ← makeJob
        startProgram launch job searchPath index? words
        waitFor job

/-- Carries out a command of the shell itself. -/
def runOwn (launch : Launch) : Nat → Manner → Bool → List String → Sh Nat
  | 0, _, _, _ => pure 0
  | fuel + 1, m, isSpecial, words => do
    let before := (← get).speaker?
    modify fun s => { s with speaker? := words.head? }
    let r ← attempt do
      let status ← match words with
        | [] => pure (← get).outputStatus
        | "eval" :: args =>
          if args.isEmpty then pure 0
          else runText launch fuel m.inner (" ".intercalate args)
        | "." :: args => do
          let (_, args) ← readOptions "" args
          match args with
          | [] => pure 0
          | name :: _ => runFile launch fuel name
        | "exec" :: args => do
          let (_, args) ← readOptions "" args
          if args.isEmpty then pure 0
          else replaceBy launch (← get).searchPath (some 0) args
        | name :: args => ownCommand name args
      let isWritten ← flush
      let name := (← get).speaker?.getD ""
      if !isWritten then warn (name ++ ": I/O error")
      let status := if isWritten then status else status ||| 1
      setStatus status
      return status
    modify fun s => { s with speaker? := before }
    match r with
    | .ok status => return status
    | .error .error => if isSpecial then throw .error else return (← get).status
    | .error e => throw e

/-- Carries out a function with the words given to it. -/
def runFunction (launch : Launch) : Nat → Manner → List String → Command → Sh Nat
  | 0, _, _, _ => pure 0
  | fuel + 1, m, words, body => do
    let s ← get
    if callLimit ≤ s.calls then
      fail ("Maximum function recursion depth (" ++ toString callLimit ++ ") reached")
    set { s with calls := s.calls + 1, parameters := { words := words }, loops := 0 }
    let r ← attempt (carryOut launch fuel m.inner body)
    modify fun now =>
      { now with
          calls := s.calls
          parameters := s.parameters
          loops := s.loops
          skip := if now.skip = .body || now.skip = .bareBody then .nothing else now.skip }
    let _ ← resume r
    return (← get).status

end

end LintLedger.Shell
