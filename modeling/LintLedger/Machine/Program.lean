import LintLedger.Machine.Disk
import LintLedger.Text.Integer

/-!
# Programs

A running program is a row of requests to the machine it runs on: it asks, waits for the reply
and goes on with it, until it exits.  Nothing else of a program can be seen from outside, so a
program is no more than that.

Programs are put together from activities.  An activity hands a value to whatever comes after
it; one that never does so is the end of the program.

A signal is a number that one process sends to another.  Each has a name, a default effect and
words that describe a process which it ended.

A file that may be executed is either one of the programs of the system or a script whose first
line names its interpreter.

## Main Definitions

* `signalName`, `signalNumber?` -- the name of a number, and the number of a name
* `Effect`, `effectOf` -- what a signal does to a process that has made no choice
* `signalWords` -- what is said of a process that a signal ended
* `Request`, `Reply` -- what programs ask, and what they are told
* `Ending` -- how a process ends
* `Program` -- a running program
* `Act` -- an activity of a program
* `Launch` -- how the program in a file is begun
* `interpreter?` -- the interpreter that a script names
* `launchWith` -- launches programs, given what each program of the system does
-/

namespace LintLedger.Machine

/-! ## Signals -/

/-- The names of the first signals, from number zero, which none of them has. -/
def firstSignals : List String :=
  ["EXIT", "HUP", "INT", "QUIT", "ILL", "TRAP", "ABRT", "BUS", "FPE", "KILL", "USR1", "SEGV",
   "USR2", "PIPE", "ALRM", "TERM", "16", "CHLD", "CONT", "STOP", "TSTP", "TTIN", "TTOU", "URG",
   "XCPU", "XFSZ", "VTALRM", "PROF", "WINCH", "IO", "PWR", "SYS", "32", "33"]

/-- The greatest signal. -/
def lastSignal : Nat := 64

/-- The name of a signal. -/
def signalName (n : Nat) : String :=
  match firstSignals[n]? with
  | some name => name
  | none =>
    if n = 34 then "RTMIN"
    else if n < 50 then "RTMIN+" ++ toString (n - 34)
    else if n < 64 then "RTMAX-" ++ toString (64 - n)
    else "RTMAX"

/-- The number of a signal by its name, with no regard to the case of its letters, or by the
digits of its number. -/
def signalNumber? (least : Nat) (name : String) : Option Nat :=
  match Text.natOf? name.toList with
  | some n => if n ≤ lastSignal then some n else none
  | none =>
    let small := name.toList.map Char.toLower
    (List.range (lastSignal + 1)).find? fun n =>
      least ≤ n && (signalName n).toList.map Char.toLower == small

/-- What a signal does to a process. -/
inductive Effect where
  | ends
  | nothing
  | stops
  | goesOn
deriving DecidableEq, Repr

/-- What a signal does to a process that has made no choice. -/
def effectOf (n : Nat) : Effect :=
  if n = 17 || n = 23 || n = 28 then .nothing
  else if n = 18 then .goesOn
  else if 19 ≤ n && n ≤ 22 then .stops
  else .ends

/-- What is said of a process that a signal ended. -/
def signalWords (n : Nat) : String :=
  let words :=
    ["", "Hangup", "Interrupt", "Quit", "Illegal instruction", "Trace/breakpoint trap",
     "Aborted", "Bus error", "Floating point exception", "Killed", "User defined signal 1",
     "Segmentation fault", "User defined signal 2", "Broken pipe", "Alarm clock", "Terminated",
     "Stack fault", "Child exited", "Continued", "Stopped (signal)", "Stopped",
     "Stopped (tty input)", "Stopped (tty output)", "Urgent I/O condition",
     "CPU time limit exceeded", "File size limit exceeded", "Virtual timer expired",
     "Profiling timer expired", "Window changed", "I/O possible", "Power failure",
     "Bad system call"]
  match words[n]? with
  | some text => text
  | none =>
    if 34 ≤ n then "Real-time signal " ++ toString (n - 34) else "Unknown signal " ++ toString n

/-- The signals that no process can catch or ignore. -/
def isStubborn (n : Nat) : Bool := n = 9 || n = 19

/-- The signal of a write to a pipe that nobody reads. -/
def brokenPipe : Nat := 13

/-- The signal of a child that has ended. -/
def childEnded : Nat := 17

/-! ## Requests -/

/-- How a file is opened. -/
structure OpenMode where
  reads : Bool := false
  writes : Bool := false
  appends : Bool := false
  creates : Bool := false
  /-- The file must not be there yet. -/
  isNew : Bool := false
  empties : Bool := false
deriving DecidableEq, Repr

namespace OpenMode

/-- For reading. -/
def input : OpenMode := { reads := true }

/-- For writing a file from its beginning, which is made if it is missing. -/
def output : OpenMode := { writes := true, creates := true, empties := true }

/-- For writing at the end of a file, which is made if it is missing. -/
def addition : OpenMode := { writes := true, creates := true, appends := true }

/-- For reading and writing a file, which is made if it is missing. -/
def both : OpenMode := { reads := true, writes := true, creates := true }

end OpenMode

/-- What a process wants to happen when a signal comes. -/
inductive Disposition where
  | standard
  | ignored
  | caught
deriving DecidableEq, Repr

/-- How a process ended. -/
inductive Ending where
  | exited (status : Nat)
  | killed (signal : Nat)
deriving DecidableEq, Repr

/-- How long a process waits for a child. -/
inductive Patience where
  /-- Not at all. -/
  | none
  /-- Until a child ends. -/
  | deaf
  /-- Until a child ends or a signal is caught. -/
  | alert
deriving DecidableEq, Repr

/-- From where an offset is counted. -/
inductive Origin where
  | start
  | here
  | finish
deriving DecidableEq, Repr

/-- What processes ask of the machine.  Descriptors, processes and signals are numbers. -/
inductive Request where
  /-- Lets a little time pass. -/
  | tick
  | sleep (nanoseconds : Nat)
  | time
  | openFile (path : String) (mode : OpenMode) (permissions : Nat)
  /-- Waits until somebody has opened the other end of the pipe that a new descriptor leads to. -/
  | meet (d : Nat)
  | close (d : Nat)
  /-- Makes a descriptor lead where another leads. -/
  | copy (d : Nat) (target : Nat)
  /-- Makes the first free descriptor from a number on lead where another leads; the copy is
  closed when another program is started. -/
  | copyAbove (d : Nat) (least : Nat)
  | pipe
  | read (d : Nat) (size : Nat)
  | write (d : Nat) (text : String)
  | seek (d : Nat) (offset : Int) (origin : Origin)
  | describe (d : Nat)
  | look (path : String) (keepLast : Bool)
  | names (path : String)
  | makeDir (path : String) (permissions : Nat)
  | makePipe (path : String) (permissions : Nat)
  | removeDir (path : String)
  | remove (path : String)
  | rename (old new : String)
  | addName (old new : String)
  | makeLink (target path : String)
  | linkTarget (path : String)
  | setMode (path : String) (mode : Nat)
  | setTime (path : String) (time : Int)
  | resize (path : String) (size : Nat)
  /-- The program in a file. -/
  | load (path : String)
  | goTo (path : String)
  | place
  /-- Sets the permissions that new files do not get. -/
  | mask (permissions? : Option Nat)
  | self
  | parent
  | group
  /-- Begins a group of processes. -/
  | lead
  | wait (child? : Option Nat) (patience : Patience)
  /-- Sends a signal to a process, to its own group if the number is zero, or to the group of a
  number below zero. -/
  | kill (process : Int) (signal : Nat)
  | handle (signal : Nat) (d : Disposition)
  | disposition (signal : Nat)
  /-- The signals that were caught since this was last asked. -/
  | caught
  /-- Forgets what another program in the same process does not keep. -/
  | restart
  | limit (resource : Char)
  | setLimit (resource : Char) (hard : Bool) (value? : Option Nat)
deriving DecidableEq, Repr

/-- What a file holds as a program. -/
inductive Loaded where
  | script (text : String)
  | utility (name : String)

/-- What processes are told. -/
inductive Reply where
  | done
  | number (n : Nat)
  | pair (a b : Nat)
  | numbers (ns : List Nat)
  | text (s : String)
  | texts (ss : List String)
  | info (i : FileInfo)
  | loaded (p : Loaded)
  | ended (process : Nat) (e : Ending)
  | disposed (d : Disposition)
  | limits (soft hard : Option Nat)
  | failed (e : FileError)

/-- A running program. -/
inductive Program where
  | exit (status : Nat)
  | ask (request : Request) (next : Reply → Program)
  /-- Starts a process that runs another program with copies of all descriptors. -/
  | fork (child : Program) (next : Nat → Program)

/-- An activity of a program. -/
def Act (α : Type) : Type := (α → Program) → Program

instance : Monad Act where
  pure a := fun next => next a
  bind m f := fun next => m fun a => f a next

instance : LawfulMonad Act :=
  LawfulMonad.mk' Act (fun _ => rfl) (fun _ _ => rfl) (fun _ _ _ => rfl)

namespace Act

/-- A program that is one activity and exits with the status that it gives. -/
def program (m : Act Nat) : Program := m .exit

/-- Ends the program. -/
def exit {α : Type} (status : Nat) : Act α := fun _ => .exit status

/-- Goes on as another program. -/
def become {α : Type} (p : Program) : Act α := fun _ => p

/-- Starts a process, whose number is the value. -/
def fork (child : Program) : Act Nat := fun next => .fork child next

/-- Asks the machine. -/
def ask (r : Request) : Act Reply := fun next => .ask r next

/-- Asks for something that fails or is done. -/
def doing (r : Request) : Act (Except FileError Unit) := do
  match ← ask r with
  | .failed e => return .error e
  | _ => return .ok ()

/-- Asks for a number. -/
def number (r : Request) : Act (Except FileError Nat) := do
  match ← ask r with
  | .number n => return .ok n
  | .failed e => return .error e
  | _ => return .ok 0

/-- Asks for a number that is always there. -/
def numberOrZero (r : Request) : Act Nat := do
  match ← number r with
  | .ok n => return n
  | .error _ => return 0

/-- Asks for a text. -/
def text (r : Request) : Act (Except FileError String) := do
  match ← ask r with
  | .text s => return .ok s
  | .failed e => return .error e
  | _ => return .ok ""

/-- Asks about a file. -/
def info (r : Request) : Act (Except FileError FileInfo) := do
  match ← ask r with
  | .info i => return .ok i
  | .failed e => return .error e
  | _ => return .error .missing

/-- Asks for the names in a directory, in ascending order. -/
def names (path : String) : Act (Except FileError (List String)) := do
  match ← ask (.names path) with
  | .texts ss => return .ok ss
  | .failed e => return .error e
  | _ => return .ok []

/-- Opens a file; the value is its descriptor. -/
def openFile (path : String) (mode : OpenMode) : Act (Except FileError Nat) :=
  number (.openFile path mode 0o666)

/-- Closes a descriptor. -/
def close (d : Nat) : Act Unit := do
  let _ ← ask (.close d)

/-- Reads at most so many bytes; there are none at the end. -/
def read (d size : Nat) : Act (Except FileError String) := text (.read d size)

/-- Writes bytes. -/
def write (d : Nat) (s : String) : Act (Except FileError Unit) :=
  if s = "" then pure (.ok ()) else doing (.write d s)

/-- What is known of the file that a path means, links followed. -/
def look (path : String) : Act (Except FileError FileInfo) := info (.look path false)

/-- What is known of the file that a path means, a link at its end not followed. -/
def lookAtLink (path : String) : Act (Except FileError FileInfo) := info (.look path true)

/-- Makes a pipe; the value is the descriptors of its end for reading and its end for
writing. -/
def pipe : Act (Except FileError (Nat × Nat)) := do
  match ← ask .pipe with
  | .pair r w => return .ok (r, w)
  | .failed e => return .error e
  | _ => return .error .badDescriptor

/-- Waits for a child, or looks for one that has ended. -/
def wait (child? : Option Nat) (patience : Patience) :
    Act (Except FileError (Option (Nat × Ending))) := do
  match ← ask (.wait child? patience) with
  | .ended p e => return .ok (some (p, e))
  | .failed e => return .error e
  | _ => return .ok none

/-- The signals that were caught since this was last asked. -/
def caught : Act (List Nat) := do
  match ← ask .caught with
  | .numbers ns => return ns
  | _ => return []

/-- What is to happen when a signal comes. -/
def disposition (signal : Nat) : Act Disposition := do
  match ← ask (.disposition signal) with
  | .disposed d => return d
  | _ => return .standard

/-- The program in a file. -/
def load (path : String) : Act (Except FileError Loaded) := do
  match ← ask (.load path) with
  | .loaded p => return .ok p
  | .failed e => return .error e
  | _ => return .error .notExecutable

/-- How many bytes programs read at once. -/
def chunk : Nat := 65536

/-- Reads all that is left, in at most so many turns. -/
def readAllWithin : Nat → Nat → List String → Act (Except FileError String)
  | 0, _, done => pure (.ok (String.join done.reverse))
  | turns + 1, d, done => do
    match ← read d chunk with
    | .error .interrupted => readAllWithin turns d done
    | .error e => return .error e
    | .ok "" => return .ok (String.join done.reverse)
    | .ok s => readAllWithin turns d (s :: done)

/-- More turns than any reading takes. -/
def manyTurns : Nat := 1000000000000

/-- Reads all that is left. -/
def readAll (d : Nat) : Act (Except FileError String) := readAllWithin manyTurns d []

end Act

/-! ## Launching programs -/

/-- How the program in a file is begun with words and an environment; the first word is the
name under which it runs. -/
abbrev Launch :=
  (path : String) → (words : List String) → (environment : List (String × String)) →
    Act (Except FileError Program)

/-- What the programs of the system do, by their names, given how they begin others. -/
abbrev Utilities :=
  Launch → (name : String) → (words : List String) → (environment : List (String × String)) →
    Program

/-- How many characters of a first line count. -/
def firstLineSize : Nat := 255

/-- The interpreter that the first line of a script names, with the word after it, if there is
one. -/
def interpreter? (script : String) : Option (String × Option String) :=
  let isBlank (c : Char) : Bool := c == ' ' || c == '\t'
  match script.toList.take firstLineSize with
  | '#' :: '!' :: rest =>
    let line := (rest.takeWhile (· != '\n')).dropWhile isBlank
    let program := line.takeWhile fun c => !isBlank c
    let more := Text.dropTail isBlank ((line.drop program.length).dropWhile isBlank)
    if program.isEmpty then none
    else
      some (String.ofList program, if more.isEmpty then none else some (String.ofList more))
  | _ => none

/-- How many interpreters may be scripts themselves. -/
def interpreterLimit : Nat := 5

/-- Launches programs, in at most so many generations, each of at most `scripts` scripts that
are interpreters of each other. -/
def launchWithin (utilities : Utilities) : Nat → Nat → Launch
  | _, 0, _, _, _ => pure (.error .tooManyLinks)
  | 0, _, _, _, _ => pure (.error .tooManyLinks)
  | generations + 1, scripts + 1, path, words, environment => do
    match ← Act.load path with
    | .error e => return .error e
    | .ok (.utility name) =>
      let next : Launch := launchWithin utilities generations interpreterLimit
      return .ok (utilities next name words environment)
    | .ok (.script text) =>
      match interpreter? text with
      | none => return .error .notExecutable
      | some (program, more?) =>
        launchWithin utilities generations scripts program
          (program :: more?.toList ++ path :: words.tail) environment

/-- More generations of programs than there are. -/
def generationLimit : Nat := 1000000000000

/-- Launches programs. -/
def launchWith (utilities : Utilities) : Launch :=
  launchWithin utilities generationLimit interpreterLimit

/-! ## Programs looked for by name -/

/-- The paths under which a program of a name may be found. -/
def candidatesOn (searchPath name : String) : List String :=
  (Text.splitOnChar (· == ':') searchPath).map fun dir =>
    if dir = "" then name else dir ++ "/" ++ name

/-- Begins the first program that can be begun of some paths. -/
def launchFirst (launch : Launch) (words : List String) (environment : List (String × String)) :
    FileError → List String → Act (Except FileError Program)
  | e, [] => pure (.error e)
  | e, path :: rest => do
    match ← launch path words environment with
    | .ok p => return .ok p
    | .error .notExecutable =>
      -- A file that names no interpreter is a script of the standard shell.
      launch "/bin/sh" ("/bin/sh" :: path :: words.tail) environment
    | .error .missing => launchFirst launch words environment e rest
    | .error .notDirectory => launchFirst launch words environment e rest
    | .error e' => launchFirst launch words environment e' rest

/-- Begins the program of a name. -/
def launchNamed (launch : Launch) (searchPath : String) (words : List String)
    (environment : List (String × String)) : Act (Except FileError Program) :=
  let name := words.headD ""
  if name = "" then pure (.error .missing)
  else if name.toList.contains '/' then launchFirst launch words environment .missing [name]
  else launchFirst launch words environment .missing (candidatesOn searchPath name)

end LintLedger.Machine
