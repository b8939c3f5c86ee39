import LintLedger.Shell.Assignment

/-!
# Jobs

A shell keeps the processes that it has started job by job until somebody has asked how they
ended.

## Main Definitions

* `makeJob`, `addProcess`, `freeJob` -- the jobs that are kept
* `waitOnce`, `waitFor` -- waiting for processes
* `jobLine` -- what is said about a job
-/

namespace LintLedger.Shell

open LintLedger.Machine

/-- The job of a number. -/
def job? (number : Nat) : Sh (Option Job) := do
  return (← get).jobs.find? fun j => j.number == number

/-- Forgets a job. -/
def freeJob (number : Nat) : Sh Unit :=
  modify fun s => { s with jobs := s.jobs.filter fun j => j.number != number }

/-- The number of a new job: the first that is free, or that of a job that is over and about
which somebody has asked. -/
def freeNumber (jobs : List Job) : Nat :=
  let isFree (n : Nat) : Bool :=
    ((jobs.find? fun j => j.number == n).map fun j => j.isDone && j.isWaited).getD true
  (((List.range (jobs.length + 1)).map (· + 1)).find? isFree).getD (jobs.length + 1)

/-- Makes a job without processes, whose number is the value. -/
def makeJob : Sh Nat := do
  let number := freeNumber (← get).jobs
  freeJob number
  modify fun s => { s with jobs := ⟨number, [], false⟩ :: s.jobs }
  return number

/-- Changes a job. -/
def changeJob (number : Nat) (f : Job → Job) : Sh Unit :=
  modify fun s => { s with jobs := s.jobs.map fun j => if j.number = number then f j else j }

/-- Adds a process to a job. -/
def addProcess (number process : Nat) : Sh Unit :=
  changeJob number fun j => { j with processes := j.processes ++ [⟨process, none⟩] }

/-- Makes a job the first of all. -/
def putFirst (number : Nat) : Sh Unit :=
  modify fun s =>
    let (first, others) := s.jobs.partition fun j => j.number == number
    { s with jobs := first ++ others }

/-- What is said when a process ends that was waited for. -/
def endingWords? : Ending → Option String
  | .killed signal => if signal = 2 || signal = 13 then none else some (signalWords signal)
  | .exited _ => none

/-- What comes of waiting once. -/
inductive Waited where
  /-- There is nothing to wait for. -/
  | nothing
  | interrupted
  | process
deriving DecidableEq, Repr

/-- Waits once for any process; if it belongs to the given job, it is told how it ended. -/
def waitOnce (number? : Option Nat) (patience : Patience) : Sh Waited := do
  match ← act (Act.wait none patience) with
  | .error .interrupted => return .interrupted
  | .error _ => return .nothing
  | .ok none => return .nothing
  | .ok (some (process, e)) =>
    let s ← get
    let job? := s.jobs.find? fun j => j.processes.any fun p => p.id == process && p.ending?.isNone
    match job? with
    | none => return .process
    | some j =>
      changeJob j.number fun j =>
        { j with processes := j.processes.map fun p =>
            if p.id = process then { p with ending? := some e } else p }
      if number? = some j.number then
        match endingWords? e with
        | some words => sayRaw (words ++ "\n")
        | none => pure ()
      return .process

/-- Whether a job runs. -/
def isRunning (number : Nat) : Sh Bool := do
  return ((← job? number).map fun j => !j.isDone).getD false

/-- Waits until a job is over, in at most so many turns; the value is whether no signal came
before that. -/
def waitWithin (number : Nat) (patience : Patience) : Nat → Sh Bool
  | 0 => pure true
  | turns + 1 => do
    if ← isRunning number then
      match ← waitOnce (some number) patience with
      | .process => waitWithin number patience turns
      | .nothing => return true
      | .interrupted => return false
    else return true

/-- More turns than any waiting takes. -/
def waitingTurns : Nat := 1000000000000

/-- Learns of all processes that have ended. -/
def collectWithin : Nat → Sh Unit
  | 0 => pure ()
  | turns + 1 => do
    match ← waitOnce none .none with
    | .process => collectWithin turns
    | _ => pure ()

/-- Learns of all processes that have ended. -/
def collect : Sh Unit := collectWithin waitingTurns

/-- The status of a job that is over. -/
def Job.status (j : Job) : Nat := (j.ending?.map statusOf).getD 0

/-- Waits until a job is over, forgets it and gives its status. -/
def waitFor (number : Nat) : Sh Nat := do
  let _ ← waitWithin number .deaf waitingTurns
  let j? ← job? number
  freeJob number
  return (j?.map Job.status).getD 0

/-- Waits until all jobs are over, in at most so many turns; the value is whether no signal
came before that. -/
def waitForAll : Nat → Sh Bool
  | 0 => pure true
  | turns + 1 => do
    match (← get).jobs.find? fun j => !j.isDone with
    | none =>
      modify fun s => { s with jobs := s.jobs.map fun j => { j with isWaited := true } }
      return true
    | some _ =>
      match ← waitOnce none .alert with
      | .process => waitForAll turns
      | .nothing => return true
      | .interrupted => return false

/-! ## Listings -/

/-- How a job is, in words. -/
def Job.stateWords (j : Job) : String :=
  if !j.isDone then "Running"
  else
    match j.ending? with
    | some (.exited 0) => "Done"
    | some (.exited n) => "Done(" ++ toString n ++ ")"
    | some (.killed signal) => signalWords signal
    | none => "Done"

/-- What is said about a job; processes are told if asked for. -/
def jobLines (jobs : List Job) (j : Job) (showsProcesses : Bool) : String :=
  let mark := match jobs with
    | first :: second :: _ =>
      if first.number = j.number then "+" else if second.number = j.number then "-" else " "
    | [_] => "+"
    | [] => " "
  let head := "[" ++ toString j.number ++ "] " ++ mark ++ " "
  let number (p : JobProcess) : String := if showsProcesses then toString p.id ++ " " else ""
  let padded (text : String) : String := text ++ "".pushn ' ' (max 1 (33 - text.length))
  match j.processes with
  | [] => padded (head ++ j.stateWords) ++ "\n"
  | first :: rest =>
    let line := padded (head ++ number first ++ j.stateWords)
    if showsProcesses then
      let indent := "".pushn ' ' head.length
      line ++ String.join (rest.map fun p =>
        let begun := " |\n" ++ indent ++ toString p.id ++ " "
        begun ++ "".pushn ' ' (max 1 (33 - (begun.length - 3)))) ++ "\n"
    else line ++ String.join (rest.map fun _ => " | ") ++ "\n"

/-- Says something about all jobs, and forgets those that are over. -/
def listJobs (showsProcesses onlyProcesses : Bool) : Sh Unit := do
  collect
  let jobs := (← get).jobs
  jobs.forM fun j => do
    if onlyProcesses then
      print ((j.processes.head?.map fun p => toString p.id ++ "\n").getD "")
    else
      print (jobLines (← get).jobs j showsProcesses)
      if j.isDone then freeJob j.number

/-- The job that a word means; without a word, the one that was started last. -/
def namedJob (word? : Option String) : Sh Nat := do
  let jobs := (← get).jobs
  let word := word?.getD "%"
  let pick (j? : Option Job) (message : String) : Sh Nat :=
    match j? with
    | some j => pure j.number
    | none => fail message
  let missing := "No such job: " ++ word
  match word.toList with
  | ['%'] => pick jobs[0]? "No current job"
  | ['%', '%'] => pick jobs[0]? "No current job"
  | ['%', '+'] => pick jobs[0]? "No current job"
  | ['%', '-'] => pick jobs[1]? "No previous job"
  | '%' :: digits =>
    match Text.natOf? digits with
    | some n => pick (jobs.find? fun j => j.number == n) missing
    | none => fail missing
  | _ => fail missing

/-- The job that a word means, which would have to be one that the shell controls; none is. -/
def controlledJob {α : Type} (word? : Option String) : Sh α := do
  let _ ← namedJob word?
  fail ("job " ++ word?.getD "(null)" ++ " not created under job control")

end LintLedger.Shell
