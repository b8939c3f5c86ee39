import LintLedger.Shell.Execution

/-!
# Starting a shell

A shell is started with words: options, then a script to carry out, the path of a file that
holds one, or nothing, in which case the script is read from standard input.

## Main Definitions

* `State.begun` -- the state in which a shell begins
* `shell` -- the program that a shell is
-/

namespace LintLedger.Shell

open LintLedger.Machine

/-- The state in which a shell begins. -/
def State.begun (name : String) (process : Nat) (vars : Variables) (dir : String) :
    State where
  name := name
  rootProcess := process
  vars := vars
  functions := []
  aliases := []
  options := []
  parameters := { words := [] }
  traps := []
  jobs := []
  lastProcess? := none
  found := []
  dir := dir
  line := 0
  speaker? := none
  status := 0
  outputStatus := 0
  savedStatus? := none
  skip := .nothing
  skipCount := 0
  loops := 0
  calls := 0
  locals := []
  redirected := []
  isTracing := false
  unwritten := []

/-- Whether a path means the working directory. -/
def isHere (path : String) : Act Bool := do
  match ← Act.look path, ← Act.look "." with
  | .ok a, .ok b => return a.id = b.id
  | _, _ => return false

/-- The working directory as a shell names it when it begins: as its environment does, if that
is right. -/
def firstDir (named? : Option String) : Act String := do
  let real : Act String := do return (← Act.text .place).toOption.getD ""
  match named? with
  | some path => if path.toList.head? = some '/' && (← isHere path) then return path else real
  | none => real

/-- Where the script of a shell comes from. -/
inductive Origin where
  | text (script : String)
  | file (path : String) (words : List String)
  | input

/-- Takes the words with which a shell is started; the value is where its script comes from. -/
def takeWords (words : List String) : Sh Origin := do
  let o ← readShellOptions true (words.length + 1) false words
  let setRest (rest : List String) : Sh Unit := do
    match rest with
    | name :: rest => modify fun s => { s with name := name, parameters := { words := rest } }
    | [] => pure ()
  if o.isScript then
    match o.rest with
    | [] => fail "-c requires an argument"
    | script :: rest =>
      setRest rest
      return .text script
  else if o.rest.isEmpty || (← get).has "stdin" then
    setOption true "stdin"
    setParameters o.rest
    return .input
  else return .file (o.rest.headD "") o.rest.tail

/-- Carries out a script to its end. -/
def runOrigin (launch : Launch) (words : List String) : Sh Unit := do
  let read (d : Nat) : Sh Unit := do
    let script : Script := ⟨Reader.ofText specialNames "" false, some d⟩
    let _ ← runScript launch expansionDepth script 0
  match ← takeWords words with
  | .text script =>
    let readsOn := (← get).has "stdin"
    let _ ← runText launch expansionDepth { isLast := !readsOn } script
    if readsOn then read 0
  | .input => read 0
  | .file path rest =>
    let d ← openOrFail path .input
    let kept ← match ← act (Act.number (.copyAbove d firstKept)) with
      | .ok copy => do
        act (Act.close d)
        pure copy
      | .error _ => pure d
    modify fun s => { s with name := path, parameters := { words := rest } }
    read kept

/-- A shell. -/
def shell (launch : Launch) (words : List String) (environment : List (String × String)) :
    Program :=
  Act.program do
    let me ← Act.numberOrZero .self
    let parent ← Act.numberOrZero .parent
    let vars := Variables.ofEnvironment environment
    let dir ← firstDir (vars.value? "PWD")
    let vars := vars.set "PPID" (toString parent) false false
    let vars := vars.set "PWD" dir true false
    let s := State.begun (words.headD "sh") me vars dir
    let whole : Sh Nat := do
      let r ← attempt (runOrigin launch words.tail)
      let _ ← flush
      endShell launch expansionDepth r
    let (r, s) ← whole.run.run s
    return match r with
      | .ok status => status
      | .error _ => s.status

end LintLedger.Shell
