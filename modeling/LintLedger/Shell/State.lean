import LintLedger.Machine.Program
import LintLedger.Shell.Parser
import LintLedger.Shell.Syntax

/-!
# The state of a shell

A shell is a program with a state: its variables and functions, what it was told to do when a
signal comes, the processes it has started, and how it got to where it is.

A variable has a name, perhaps a value, and marks: whether programs get it, whether it can be
changed, and whether it stays when its value is taken away.

## Main Definitions

* `Variable`, `Variables` -- the variables
* `Variables.set`, `Variables.unset` -- a value given, and taken away
* `Variables.environment` -- what programs get
* `Flow`, `Skip` -- how a shell leaves what it does
* `Job` -- processes that a shell has started
* `State` -- all that a shell keeps
* `Sh` -- an activity of a shell
* `warn`, `fail`, `print` -- what a shell says
-/

namespace LintLedger.Shell

/-! ## Variables -/

/-- A variable. -/
structure Variable where
  name : String
  value? : Option String
  /-- Whether programs get it. -/
  isExported : Bool := false
  isReadOnly : Bool := false
  /-- Whether it stays, with its marks, when its value is taken away. -/
  stays : Bool := false
deriving DecidableEq, Repr

/-- The variables in the order in which they were made. -/
abbrev Variables := List Variable

namespace Variables

/-- The variable of a name. -/
def find? (vs : Variables) (name : String) : Option Variable :=
  List.find? (fun v => v.name == name) vs

/-- The value of a variable, if it has one. -/
def value? (vs : Variables) (name : String) : Option String := (vs.find? name).bind (·.value?)

/-- Whether a variable cannot be changed. -/
def isReadOnly (vs : Variables) (name : String) : Bool :=
  ((vs.find? name).map (·.isReadOnly)).getD false

/-- The variables with one replaced. -/
def replace (vs : Variables) (v : Variable) : Variables :=
  if (vs.find? v.name).isSome then vs.map fun w => if w.name = v.name then v else w
  else vs ++ [v]

/-- The variables without one. -/
def erase (vs : Variables) (name : String) : Variables := vs.filter fun v => v.name != name

/-- A value given to a variable; marks are only added. -/
def set (vs : Variables) (name value : String) (isExported stays : Bool) : Variables :=
  match vs.find? name with
  | some v =>
    vs.replace { v with
      value? := some value
      isExported := v.isExported || isExported
      stays := v.stays || stays }
  | none => vs ++ [{ name := name, value? := some value, isExported := isExported, stays := stays }]

/-- The value of a variable taken away; the variable goes too unless it stays. -/
def unset (vs : Variables) (name : String) : Variables :=
  match vs.find? name with
  | some v => if v.stays then vs.replace { v with value? := none } else vs.erase name
  | none => vs

/-- The group of a name; variables are listed group by group. -/
def group (name : String) : Nat :=
  let codes := name.toList.map Char.toNat
  ((codes.headD 0) * 16 + codes.foldr (· + ·) 0) % 39

/-- The variables group by group. -/
def grouped (vs : Variables) : Variables :=
  vs.mergeSort fun a b => decide (group a.name ≤ group b.name)

/-- The names and values that programs get. -/
def environment (vs : Variables) : List (String × String) :=
  (vs.grouped.filter (·.isExported)).filterMap fun v => v.value?.map fun x => (v.name, x)

/-- The search path that a shell has by itself. -/
def standardPath : String := "/usr/local/sbin:/usr/local/bin:/usr/sbin:/usr/bin:/sbin:/bin"

/-- The separators that a shell has by itself. -/
def standardSeparators : String := " \t\n"

/-- The variables that a shell has by itself. -/
def standing : Variables :=
  [{ name := "OPTIND", value? := some "1", stays := true },
   { name := "PS4", value? := some "+ ", stays := true },
   { name := "PS2", value? := some "> ", stays := true },
   { name := "PS1", value? := some "# ", stays := true },
   { name := "PATH", value? := some standardPath, stays := true },
   { name := "MAILPATH", value? := none, stays := true },
   { name := "MAIL", value? := none, stays := true },
   { name := "IFS", value? := some standardSeparators, stays := true }]

/-- The variables with which a shell begins that gets an environment. -/
def ofEnvironment (env : List (String × String)) : Variables :=
  let own := [("IFS", standardSeparators), ("OPTIND", "1")]
  let taken := env.foldl (fun (vs : Variables) (name, value) =>
    if isName name then vs.set name value true false else vs) standing
  own.foldl (fun (vs : Variables) (name, value) => vs.set name value false false) taken

end Variables

/-! ## States -/

open LintLedger.Machine

/-- How a shell leaves everything it does. -/
inductive Flow where
  /-- Something is wrong that ends the shell. -/
  | error
  | exit
  /-- There is nothing more to do. -/
  | over
deriving DecidableEq, Repr

/-- What the commands are that a shell passes over. -/
inductive Skip where
  | nothing
  /-- The rest of a turn of a loop. -/
  | turn
  /-- The rest of a loop. -/
  | loop
  /-- The rest of a function or of a file, which chose its status. -/
  | body
  /-- The rest of a function or of a file. -/
  | bareBody
deriving DecidableEq, Repr

/-- The words that a script or a function was given. -/
structure Parameters where
  words : List String
  /-- The number of the next word that is looked at for options. -/
  optionIndex : Int := 1
  /-- The place of the next option within the word before, if it is not at its end. -/
  optionPlace? : Option Nat := none

/-- A process of a job. -/
structure JobProcess where
  id : Nat
  ending? : Option Ending

/-- Processes that were started together. -/
structure Job where
  number : Nat
  processes : List JobProcess
  /-- Whether somebody has asked how it ended. -/
  isWaited : Bool := false

namespace Job

/-- Whether all processes of a job have ended. -/
def isDone (j : Job) : Bool := j.processes.all fun p => p.ending?.isSome

/-- How the last process of a job ended. -/
def ending? (j : Job) : Option Ending := j.processes.getLast?.bind (·.ending?)

end Job

/-- The status that an ending is. -/
def statusOf : Ending → Nat
  | .exited status => status
  | .killed signal => 128 + signal

/-- Where a descriptor led before it was changed. -/
inductive Former where
  | closed
  /-- Closed, and closed again by the change. -/
  | stayedClosed
  | kept (copy : Nat)
deriving DecidableEq, Repr

/-- What is put back when a function ends. -/
inductive Restored where
  /-- A variable as it was; one that was not there goes away. -/
  | variable (name : String) (before? : Option Variable)
  | options (names : List String)

/-- All that a shell keeps. -/
structure State where
  /-- The name under which the shell runs. -/
  name : String
  /-- The process of the shell that all others here come from. -/
  rootProcess : Nat
  vars : Variables
  functions : List (String × Nat × Command)
  aliases : List (String × String)
  /-- The options that are on. -/
  options : List String
  parameters : Parameters
  traps : List (Nat × String)
  /-- The jobs, the one that was started last first. -/
  jobs : List Job
  /-- The process that was last started in the background. -/
  lastProcess? : Option Nat
  /-- Where the programs of some names were found on the search path. -/
  found : List (String × Nat)
  /-- The directory as the shell names it. -/
  dir : String
  /-- The line that messages tell. -/
  line : Nat
  /-- The command that messages tell. -/
  speaker? : Option String
  status : Nat
  /-- The status of the last command whose output was put into a command. -/
  outputStatus : Nat
  /-- The status that counts, whatever happens before the shell ends. -/
  savedStatus? : Option Nat
  skip : Skip
  /-- How many loops are left by what is passed over. -/
  skipCount : Nat
  /-- How many loops are around. -/
  loops : Nat
  /-- How many functions are around. -/
  calls : Nat
  /-- What is put back, function by function. -/
  locals : List (List Restored)
  /-- The changes of descriptors that are undone later, the last one first. -/
  redirected : List (List (Nat × Former))
  /-- Whether a command is being shown. -/
  isTracing : Bool
  /-- What a command has printed that has not been written, the last text first. -/
  unwritten : List String

/-- An activity of a shell. -/
abbrev Sh (α : Type) := ExceptT Flow (StateT State Act) α

/-- An activity of a program as one of a shell. -/
def act {α : Type} (m : Act α) : Sh α := ExceptT.lift (StateT.lift m)

/-- Whether an option is on. -/
def State.has (s : State) (option : String) : Bool := s.options.contains option

/-- The command of a signal, if there is one. -/
def State.trap? (s : State) (signal : Nat) : Option String :=
  (s.traps.find? fun t => t.1 == signal).map (·.2)

/-- Whether any signal has a command. -/
def State.hasTraps (s : State) : Bool := s.traps.any fun t => t.2 != ""

/-! ## Saying -/

/-- Says something on standard error. -/
def sayRaw (text : String) : Sh Unit := do
  let _ ← act (Act.write 2 text)

/-- What comes before a message. -/
def State.front (s : State) : String :=
  s.name ++ ": " ++ toString s.line ++ ": " ++ match s.speaker? with
    | some c => c ++ ": "
    | none => ""

/-- Says something with a word on who says it. -/
def warn (message : String) : Sh Unit := do sayRaw ((← get).front ++ message ++ "\n")

/-- Prints something when the command is done. -/
def print (text : String) : Sh Unit :=
  modify fun s => { s with unwritten := text :: s.unwritten }

/-- Writes what was printed; the value is whether it could be. -/
def flush : Sh Bool := do
  let s ← get
  let text := String.join s.unwritten.reverse
  if s.unwritten.isEmpty then return true
  else
    set { s with unwritten := [] }
    match ← act (Act.write 1 text) with
    | .ok () => return true
    | .error _ => return false

/-- Ends the shell because something is wrong. -/
def fail {α : Type} (message : String) : Sh α := do
  modify fun s => { s with status := 2 }
  warn message
  let _ ← flush
  throw .error

/-- Ends the shell because something is no number. -/
def notNumber {α : Type} (text : String) : Sh α := fail ("Illegal number: " ++ text)

/-- Gives the shell another status. -/
def setStatus (n : Nat) : Sh Unit := modify fun s => { s with status := n }

/-- An activity, and how it was left if it was. -/
def attempt {α : Type} (m : Sh α) : Sh (Except Flow α) := fun s => do
  let (r, s') ← m s
  return (.ok r, s')

/-- Goes on as an activity went that was attempted. -/
def resume {α : Type} (r : Except Flow α) : Sh α :=
  match r with
  | .ok a => pure a
  | .error e => throw e

/-- What a system error is called when something of that kind is asked for. -/
def wordsOf (e : FileError) (missing : String) : String :=
  match e with
  | .missing => missing
  | .notDirectory => missing
  | e => e.words

end LintLedger.Shell
