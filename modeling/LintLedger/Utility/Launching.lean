import LintLedger.Utility.Paths

/-!
# Programs that begin others

## Main Definitions

* `env` -- with another environment
* `xargs` -- with words that are read
* `timeout` -- for a limited time
* `nohup`, `nice`, `setsid`, `stdbuf` -- with other circumstances
* `which` -- not at all; it only tells which program would be begun
-/

namespace LintLedger.Utility

open LintLedger.Machine

/-- The variables of a process. -/
abbrev Variables := List (String × String)

/-- The value of a variable. -/
def valueOf? (environment : Variables) (name : String) : Option String :=
  (environment.find? fun v => v.1 == name).map (·.2)

/-- The directories in which programs are looked for. -/
def searchPathOf (environment : Variables) : String :=
  (valueOf? environment "PATH").getD "/bin:/usr/bin"

/-- Goes on as the program of a name; the value is why that could not be. -/
def takeOver (launch : Launch) (environment : Variables) (words : List String) :
    Act FileError := do
  match ← launchNamed launch (searchPathOf environment) words environment with
  | .ok p =>
    let _ ← Act.ask .restart
    Act.become p
  | .error e => return e

/-- The status of a program that could not begin another one. -/
def unableStatus (e : FileError) : Nat := if e = .missing then 127 else 126

/-- Options that end where the words of another program begin. -/
def stoppingGrammar (letters : String) (names : List (String × Char)) : Grammar :=
  { grammar letters names with stops := true }

/-! ## Another environment -/

/-- Variables with one of them set. -/
def setVariable (name value : String) (environment : Variables) : Variables :=
  if environment.any fun v => v.1 == name then
    environment.map fun v => if v.1 == name then (name, value) else v
  else environment ++ [(name, value)]

/-- Words of one text, taken apart at blanks that are not quoted. -/
def splitWords : Nat → Option Char → List Char → Option (List Char) → List String
  | 0, _, _, _ => []
  | _, _, [], word? => (word?.map fun w => String.ofList w.reverse).toList
  | fuel + 1, quote?, c :: rest, word? =>
    let word := word?.getD []
    match quote? with
    | some q =>
      if c == q then splitWords fuel none rest (some word)
      else splitWords fuel quote? rest (some (c :: word))
    | none =>
      if c == '\'' || c == '"' then splitWords fuel (some c) rest (some word)
      else if c == ' ' || c == '\t' || c == '\n' then
        match word? with
        | some w => String.ofList w.reverse :: splitWords fuel none rest none
        | none => splitWords fuel none rest none
      else if c == '\\' then
        match rest with
        | 'n' :: rest => splitWords fuel none rest (some ('\n' :: word))
        | 't' :: rest => splitWords fuel none rest (some ('\t' :: word))
        | '_' :: rest => splitWords fuel none rest (some (' ' :: word))
        | x :: rest => splitWords fuel none rest (some (x :: word))
        | [] => splitWords fuel none [] (some ('\\' :: word))
      else splitWords fuel none rest (some (c :: word))

/-- Words in which an option that holds others in one text is replaced by them. -/
def withSplitOption : List String → List String
  | "-S" :: text :: rest => splitWords (text.length + 1) none text.toList none ++ rest
  | "-vS" :: text :: rest => "-v" :: splitWords (text.length + 1) none text.toList none ++ rest
  | w :: rest =>
    match w.toList with
    | '-' :: 'S' :: text => splitWords (text.length + 1) none text none ++ rest
    | '-' :: _ => w :: withSplitOption rest
    | _ => w :: rest
  | [] => []

/-- Begins a program with another environment, or prints that. -/
def env (launch : Launch) (environment : Variables) (words : List String) : Work Unit := do
  let g := stoppingGrammar "iu:0C:v"
    [("ignore-environment", 'i'), ("unset", 'u'), ("null", '0'), ("chdir", 'C'), ("debug", 'v')]
  let t ← readOptions g (withSplitOption words)
  let (isBare, rest) : Bool × List String := match t.operands with
    | "-" :: rest => (true, rest)
    | rest => (false, rest)
  let mut vars := if isBare || t.has 'i' then [] else environment
  for o in t.options do
    match o.key, o.word? with
    | 'u', some name =>
      if name = "" || name.toList.contains '=' then
        die ("cannot unset " ++ quoted name ++ ": " ++ FileError.invalid.words)
      vars := vars.filter fun v => v.1 != name
    | _, _ => pure ()
  let settings := rest.takeWhile fun w => w.toList.contains '='
  for w in settings do
    let name := String.ofList (w.toList.takeWhile (· != '='))
    vars := setVariable name (String.ofList (w.toList.drop (name.length + 1))) vars
  match rest.drop settings.length with
  | [] =>
    if t.has 'C' then misuse "must specify command with --chdir (-C)"
    else
      let stop := if t.has '0' then "\x00" else "\n"
      vars.forM fun (name, value) => put (name ++ "=" ++ value ++ stop)
  | command =>
    if t.has '0' then misuse "cannot specify --null (-0) with command"
    else
      match t.word? 'C' with
      | none => pure ()
      | some dir =>
        match ← act (Act.doing (.goTo dir)) with
        | .ok () => pure ()
        | .error e => die ("cannot change directory to " ++ quoted dir ++ ": " ++ e.words)
      let e ← act (takeOver launch vars command)
      let name := command.headD ""
      complain (quoted name ++ ": " ++ e.words)
      if e = .missing && name.toList.contains ' ' then
        complain "use -[v]S to pass options in shebang lines"
      leave (unableStatus e)

/-! ## Other circumstances -/

/-- Begins a program on which the end of a session has no effect. -/
def nohup (launch : Launch) (environment : Variables) (words : List String) : Work Unit := do
  let t ← readOptions (stoppingGrammar "" []) words
  match t.operands with
  | [] => misuse "missing operand"
  | command =>
    let _ ← act (Act.ask (.handle 1 .ignored))
    let e ← act (takeOver launch environment command)
    complain ("failed to run command " ++ quoted (command.headD "") ++ ": " ++ e.words)
    leave (unableStatus e)

/-- Begins a program that others are to go before. -/
def nice (launch : Launch) (environment : Variables) (words : List String) : Work Unit := do
  let t ← readOptions (stoppingGrammar "n:" [("adjustment", 'n')]) words
  match t.word? 'n' with
  | some w => if (Text.intOf? w.toList).isNone then die ("invalid adjustment " ++ quoted w)
  | none => pure ()
  match t.operands with
  | [] =>
    if t.has 'n' then misuse "a command must be given with an adjustment"
    else putLine "0"
  | command =>
    let e ← act (takeOver launch environment command)
    complain (quoted (command.headD "") ++ ": " ++ e.words)
    leave (unableStatus e)

/-- Begins a program in a session of its own. -/
def setsid (launch : Launch) (environment : Variables) (words : List String) : Work Unit := do
  let t ← readOptions
    (stoppingGrammar "cfw" [("ctty", 'c'), ("fork", 'f'), ("wait", 'w')]) words
  match t.operands with
  | [] => misuse "no command specified"
  | command =>
    let me ← act (Act.numberOrZero .self)
    let group ← act (Act.numberOrZero .group)
    let run : Work Unit := do
      let _ ← act (Act.ask .lead)
      if t.has 'c' then
        die "failed to set the controlling terminal: Inappropriate ioctl for device"
      let e ← act (takeOver launch environment command)
      complain ("failed to execute " ++ command.headD "" ++ ": " ++ e.words)
      leave (unableStatus e)
    -- A process that leads a group cannot begin a session.
    if group = me || t.has 'f' then
      let child ← act (Act.fork (Work.program 1 ["setsid"] fun _ => run))
      if t.has 'w' then
        match ← act (Act.wait (some child) .deaf) with
        | .ok (some (_, .exited status)) => leave status
        | _ => leave 1
    else run

/-- Begins a program whose streams keep less, or more, before it is written. -/
def stdbuf (launch : Launch) (environment : Variables) (words : List String) : Work Unit := do
  let t ← readOptions
    (stoppingGrammar "i:o:e:" [("input", 'i'), ("output", 'o'), ("error", 'e')]) words
  for o in t.options do
    let word := o.word?.getD ""
    if word = "L" then
      if o.key == 'i' then misuse "line buffering stdin is meaningless"
    else if (amount? "kKMGTPEZYRQ" word).isNone then die ("invalid mode " ++ quoted word)
  match t.operands with
  | [] => misuse "missing operand"
  | command =>
    if t.options.isEmpty then misuse "you must specify a buffering mode option"
    else
      let e ← act (takeOver launch environment command)
      complain ("failed to run command " ++ quoted (command.headD "") ++ ": " ++ e.words)
      leave (unableStatus e)

/-! ## A limited time -/

/-- A process that is over after a while. -/
def timer (nanoseconds : Nat) : Act Nat := Act.fork (Act.program do
  for d in List.range 10 do Act.close d
  let _ ← Act.ask (.sleep nanoseconds)
  return 0)

/-- How long a program may run, and how it is stopped. -/
structure TimeLimit where
  /-- The name of the program. -/
  command : String
  signal : Nat
  /-- After how long a program that is still there is killed. -/
  patience? : Option Nat
  /-- Whether only the program is stopped, and not what it has begun. -/
  isAlone : Bool
  isTelling : Bool

/-- Stops a program. -/
def TimeLimit.stop (x : TimeLimit) (child signal : Nat) : Work Unit := do
  if x.isTelling then
    complain ("sending signal " ++ signalName signal ++ " to command " ++ quoted x.command)
  let send (target : Int) (signal : Nat) : Work Unit := do
    let _ ← act (Act.ask (.kill target signal))
  send child signal
  if !x.isAlone then
    let _ ← act (Act.ask (.handle signal .ignored))
    send 0 signal
    if signal != 9 && signal != 18 then
      send child 18
      send 0 18

/-- Waits for a program, of which time may be up, in at most so many turns; the value is how the
program ended and whether its time was up. -/
def TimeLimit.await (x : TimeLimit) (child : Nat) :
    Nat → Option Nat → Bool → Work (Ending × Bool)
  | 0, _, wasStopped => pure (.exited 1, wasStopped)
  | turns + 1, timer?, wasStopped => do
    match ← act (Act.wait none .deaf) with
    | .ok (some (p, e)) =>
      if p = child then
        match timer? with
        | some t =>
          let _ ← act (Act.ask (.kill t 9))
          let _ ← act (Act.wait (some t) .deaf)
        | none => pure ()
        return (e, wasStopped)
      else if some p = timer? then
        let next? ← if wasStopped then do
            x.stop child 9
            pure none
          else do
            x.stop child x.signal
            match x.patience? with
            | some n => do pure (some (← act (timer n)))
            | none => pure none
        x.await child turns next? true
      else x.await child turns timer? wasStopped
    | _ => return (.exited 1, wasStopped)

/-- Begins a program and stops it when its time is up. -/
def timeout (launch : Launch) (environment : Variables) (words : List String) : Work Unit := do
  let g := stoppingGrammar "k:s:v" [("kill-after", 'k'), ("signal", 's'), ("verbose", 'v')]
  let g := { g with names := ("preserve-status", '\x01', .nothing) ::
    ("foreground", '\x02', .nothing) :: g.names }
  let t ← readOptions g words
  let duration (w : String) : Work Nat := do
    match nanoseconds? w with
    | some n => return n
    | none => misuse ("invalid time interval " ++ quoted w)
  let patience? ← match t.word? 'k' with
    | some w => do pure (some (← duration w))
    | none => pure none
  let signal ← match t.word? 's' with
    | none => pure 15
    | some w =>
      let bare := if "SIG".toList.isPrefixOf w.toList then String.ofList (w.toList.drop 3) else w
      match signalNumber? 1 bare with
      | some n => pure n
      | none => misuse (quoted w ++ ": invalid signal")
  match t.operands with
  | limit :: name :: args =>
    let limit ← duration limit
    if !t.has '\x02' then
      let _ ← act (Act.ask .lead)
    let child ← act (Act.fork (Work.program 125 ["timeout"] fun _ => do
      let e ← act (takeOver launch environment (name :: args))
      complain ("failed to run command " ++ quoted name ++ ": " ++ e.words)
      leave (unableStatus e)))
    let timer? ← if limit = 0 then pure none else do pure (some (← act (timer limit)))
    let x : TimeLimit :=
      { command := name
        signal := signal
        patience? := patience?
        isAlone := t.has '\x02'
        isTelling := t.has 'v' }
    let (e, wasStopped) ← x.await child 100 timer? false
    match e with
    | .exited status => leave (if wasStopped && !t.has '\x01' then 124 else status)
    | .killed n =>
      if !wasStopped then
        let _ ← act (Act.ask (.handle n .standard))
        let me ← act (Act.numberOrZero .self)
        let _ ← act (Act.ask (.kill me n))
      leave (if wasStopped && n != 9 && !t.has '\x01' then 124 else 128 + n)
  | _ => do
    hint
    leave 125

/-! ## Words that are read -/

/-- A word that was read; a line may end after it. -/
structure ReadWord where
  text : String
  endsLine : Bool

/-- What is said of a quotation without an end. -/
def unmatchedQuote (quote : Char) : String :=
  "unmatched " ++ (if quote == '"' then "double" else "single") ++
    " quote; by default quotes are special to xargs unless you use the -0 option"

/-- Words at blanks; a word in quotes or after a backslash may hold blanks.  There is a message
if a quotation has no end on its line. -/
def quotedWords : Nat → Option Char → Option (List Char) → List Char →
    Except String (List ReadWord)
  | 0, _, _, _ => .ok []
  | _, some q, _, [] => .error (unmatchedQuote q)
  | _, none, word?, [] => .ok (word?.map fun w => ⟨String.ofList w.reverse, true⟩).toList
  | fuel + 1, some q, word?, c :: rest =>
    let word := word?.getD []
    if c == q then quotedWords fuel none (some word) rest
    else if c == '\n' then .error (unmatchedQuote q)
    else quotedWords fuel (some q) (some (c :: word)) rest
  | fuel + 1, none, word?, c :: rest =>
    let word := word?.getD []
    if c == '\'' || c == '"' then quotedWords fuel (some c) (some word) rest
    else if c == '\\' then
      match rest with
      | x :: rest => quotedWords fuel none (some (x :: word)) rest
      | [] => quotedWords fuel none (some word) []
    else if c == '\n' || c == ' ' || c == '\t' then
      match word? with
      | some w => do
        let more ← quotedWords fuel none none rest
        return ⟨String.ofList w.reverse, c == '\n'⟩ :: more
      | none => quotedWords fuel none none rest
    else quotedWords fuel none (some (c :: word)) rest

/-- The lines of a text without the blanks in front of them, quotes taken away. -/
def quotedLines (text : String) : Except String (List String) :=
  let lines := (linesOf '\n' text).map fun l =>
    l.chars.dropWhile fun c => c == ' ' || c == '\t'
  (lines.filter fun cs => !cs.isEmpty).mapM fun cs => unquoted (cs.length + 1) none cs
where
  /-- A text without its quotes. -/
  unquoted : Nat → Option Char → List Char → Except String String
    | 0, _, _ => .ok ""
    | _, some q, [] => .error (unmatchedQuote q)
    | _, none, [] => .ok ""
    | fuel + 1, quote?, c :: rest =>
      match quote? with
      | some q =>
        if c == q then unquoted fuel none rest
        else (unquoted fuel quote? rest).map (String.singleton c ++ ·)
      | none =>
        if c == '\'' || c == '"' then unquoted fuel (some c) rest
        else
          match c, rest with
          | '\\', x :: rest => (unquoted fuel none rest).map (String.singleton x ++ ·)
          | c, rest => (unquoted fuel none rest).map (String.singleton c ++ ·)

/-- Words in groups of at most so many. -/
def groupsOf (size : Nat) : Nat → List String → List (List String)
  | 0, _ => []
  | _, [] => []
  | fuel + 1, words => words.take size :: groupsOf size fuel (words.drop size)

/-- Words in groups that take at most so many bytes, with so many bytes for what comes before
them. -/
def groupsWithin (limit start : Nat) : Nat → List String → List String → List (List String)
  | _, group, [] => if group.isEmpty then [] else [group.reverse]
  | used, group, w :: rest =>
    let size := w.length + 1
    if limit < used + size && !group.isEmpty then
      group.reverse :: groupsWithin limit start (start + size) [w] rest
    else groupsWithin limit start (used + size) (w :: group) rest

/-- The words of so many lines, in groups; a word whose line goes on after a blank at its end
belongs to the line after it. -/
def groupsOfLines (size : Nat) : Nat → List String → List ReadWord → List (List String)
  | _, group, [] => if group.isEmpty then [] else [group.reverse]
  | lines, group, w :: rest =>
    let group := w.text :: group
    if w.endsLine then
      if size ≤ lines + 1 then group.reverse :: groupsOfLines size 0 [] rest
      else groupsOfLines size (lines + 1) group rest
    else groupsOfLines size lines group rest

/-- A text with each place where some other text stands in it replaced. -/
def replacedIn (mark value : List Char) : Nat → List Char → List Char
  | 0, cs => cs
  | _, [] => []
  | fuel + 1, c :: rest =>
    if !mark.isEmpty && mark.isPrefixOf (c :: rest) then
      value ++ replacedIn mark value fuel ((c :: rest).drop mark.length)
    else c :: replacedIn mark value fuel rest

/-- Begins a program with words, waits for it and takes note of how it ended. -/
def runWords (launch : Launch) (environment : Variables) (isTelling : Bool)
    (words : List String) : Work Unit := do
  flush
  if isTelling then
    say (" ".intercalate (words.map Text.quotedUnlessPlain) ++ "\n")
  let name := words.headD ""
  let child ← act (Act.fork (Work.program 1 ["xargs"] fun _ => do
    act (Act.close 0)
    let _ ← act (Act.openFile "/dev/null" .input)
    let e ← act (takeOver launch environment words)
    complain (name ++ ": " ++ e.words)
    leave (unableStatus e)))
  match ← act (Act.wait (some child) .deaf) with
  | .ok (some (_, .exited 0)) => pure ()
  | .ok (some (_, .exited 255)) =>
    complain (name ++ ": exited with status 255; aborting")
    leave 124
  | .ok (some (_, .exited 126)) => leave 126
  | .ok (some (_, .exited 127)) => leave 127
  | .ok (some (_, .exited _)) => modify fun d => { d with status := 123 }
  | .ok (some (_, .killed n)) =>
    complain (name ++ ": terminated by signal " ++ toString n)
    leave 125
  | _ => pure ()

/-- The character that a word means as a delimiter. -/
def delimiterOf? (word : String) : Option Char :=
  match word.toList with
  | [c] => some c
  | ['\\', 'n'] => some '\n'
  | ['\\', 't'] => some '\t'
  | ['\\', '0'] => some '\x00'
  | ['\\', '\\'] => some '\\'
  | _ => none

/-- Begins a program with words that are read. -/
def xargs (launch : Launch) (environment : Variables) (words : List String) : Work Unit := do
  let g := stoppingGrammar "0a:d:E:e::I:i::L:l::n:P:prs:tx"
    [("null", '0'), ("arg-file", 'a'), ("delimiter", 'd'), ("replace", 'i'), ("max-lines", 'l'),
     ("max-args", 'n'), ("max-procs", 'P'), ("no-run-if-empty", 'r'), ("max-chars", 's'),
     ("verbose", 't'), ("exit", 'x'), ("interactive", 'p')]
  let t ← readOptions g words
  let number (key : Char) (least : Nat) : Work (Option Nat) := do
    match t.word? key with
    | none => return none
    | some w =>
      match decimal? w with
      | none => misuse ("invalid number \"" ++ w ++ "\" for -" ++ String.singleton key ++ " option")
      | some n =>
        if n < least then
          misuse ("value " ++ w ++ " for -" ++ String.singleton key ++ " option should be >= " ++
            toString least)
        else return some n
  let size? ← number 'n' 1
  let lines? ← number 'L' 1
  let limit? ← number 's' 1
  let _ ← number 'P' 0
  let lines? := if lines?.isNone && t.has 'l' then some (((t.word? 'l').bind decimal?).getD 1)
    else lines?
  let command := if t.operands.isEmpty then ["echo"] else t.operands
  let path := (t.word? 'a').getD "-"
  let text ← match ← act (readInput path) with
    | .ok text => pure text
    | .error e => die ("Cannot open input file " ++ quoted path ++ ": " ++ e.words)
  let delimiter? ← match t.last? ['0', 'd'] with
    | some '0' => pure (some '\x00')
    | some _ =>
      match delimiterOf? ((t.word? 'd').getD "") with
      | some c => pure (some c)
      | none => die "Invalid input delimiter specification: the delimiter must be either a single character or an escape sequence starting with \\."
    | none => pure none
  let run (more : List String) : Work Unit :=
    runWords launch environment (t.has 't') (command ++ more)
  let mark? : Option String := match t.last? ['I', 'i'] with
    | some 'I' => t.word? 'I'
    | some _ => some ((t.word? 'i').getD "\x7b\x7d")
    | none => none
  let plainWords (c : Char) : List String :=
    (linesOf c text).map fun l => String.ofList l.chars
  match mark? with
  | some mark =>
    let lines ← match delimiter? with
      | some c => pure (plainWords c)
      | none =>
        match quotedLines text with
        | .ok lines => pure lines
        | .error message => die message
    for line in lines do
      let fill (w : String) : String :=
        String.ofList (replacedIn mark.toList line.toList (w.length + 1) w.toList)
      runWords launch environment (t.has 't') (command.map fill)
  | none =>
    let all ← match delimiter? with
      | some c => pure ((plainWords c).map fun w => ReadWord.mk w true)
      | none =>
        match quotedWords (text.length + 2) none none text.toList with
        | .ok all => pure all
        | .error message => die message
    let all := match (t.word? 'E').orElse fun _ => t.word? 'e' with
      | some stop => if stop = "" then all else all.takeWhile fun w => w.text != stop
      | none => all
    let texts := all.map (·.text)
    let start := (command.map fun w => w.length + 1).foldr (· + ·) 0
    let groups := match size?, lines? with
      | some size, _ => groupsOf size (texts.length + 1) texts
      | none, some size => groupsOfLines size 0 [] all
      | none, none => groupsWithin (limit?.getD 131072) start start [] texts
    if groups.isEmpty then
      if !t.has 'r' then run []
    else groups.forM run

/-! ## Where programs are -/

/-- Prints the paths of programs. -/
def which (environment : Variables) (words : List String) : Work Unit := do
  let t ← readOptions (stoppingGrammar "a" []) words
  if t.operands.isEmpty then leave 1
  for name in t.operands do
    let paths := if name.toList.contains '/' then [name]
      else candidatesOn (searchPathOf environment) name
    let mut found : List String := []
    for path in paths do
      match ← act (Act.look path) with
      | .ok i =>
        if i.kind = .file && i.mode &&& 0o111 != 0 then found := found ++ [path]
      | .error _ => pure ()
    if found.isEmpty then modify fun d => { d with status := 1 }
    (if t.has 'a' then found else found.take 1).forM putLine

end LintLedger.Utility
