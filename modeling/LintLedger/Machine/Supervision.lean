import LintLedger.Machine.System

/-!
# Programs under supervision

A program is run by itself: nothing is on its standard input, both of its outputs are
collected, and it is stopped when its time is up.  Processes that it has left behind may go on
printing for a while.

## Main Definitions

* `Task` -- a program with what it is run on
* `Report` -- what came of it
* `Task.run` -- runs a program from start to end
-/

namespace LintLedger.Machine

/-- A program with what it is run on. -/
structure Task where
  program : Program
  tree : FileTree
  /-- The working directory. -/
  dir : String
  /-- Milliseconds after which the program is stopped. -/
  limit : Nat
  /-- Bytes of address space that the program may take. -/
  addressSpace? : Option Nat

/-- How a program under supervision ended. -/
inductive Conclusion where
  | exited (status : Nat)
  | killed
  | timeUp
deriving DecidableEq, Repr

/-- What came of a program. -/
structure Report where
  tree : FileTree
  conclusion : Conclusion
  stdout : List UInt8
  stderr : List UInt8
  /-- The milliseconds it took. -/
  clock : Nat

/-- The process that supervises. -/
def supervisor : Nat := 4095

/-- The process that is supervised. -/
def supervised : Nat := 4096

/-- Nanoseconds in a millisecond. -/
def millisecond : Nat := 1000000

/-- For how long outputs are collected after the end of a program. -/
def grace : Nat := 2000 * millisecond

/-- More steps than any program takes in its time. -/
def stepLimit : Nat := 1000000000000

namespace Task

/-- The limits under which a program runs. -/
def limits (x : Task) : List (Char × Option Nat × Option Nat) :=
  [('c', some 0, some 0), ('v', x.addressSpace?, x.addressSpace?), ('n', some 20000, some 20000),
   ('s', some 8388608, none), ('l', some 8388608, some 8388608), ('p', some 128619, some 128619),
   ('r', some 0, some 0)]

/-- The name of the directory of devices. -/
def deviceDir : String := "dev"

/-- The disk on which a program runs: there are devices. -/
def disk (x : Task) : Disk :=
  let here := Disk.ofTree x.tree
  let made := (here.makeDir 0 0 deviceDir 0o755).toOption.getD here
  let devices : List (String × Device) := [("null", .null), ("zero", .zero), ("full", .full)]
  devices.foldl (fun d (name, device) =>
    match d.locate true 0 (deviceDir ++ "/" ++ name) with
    | .ok ⟨dir, name, none⟩ =>
      ((d.create 0 ⟨dir, name, none⟩ (.device device) 0o666).map (·.2)).toOption.getD d
    | _ => d) made

/-- The system with nothing but the process of a program. -/
def system (x : Task) : System :=
  let disk := x.disk
  let id (path : String) : Nat := (disk.find false 0 path).toOption.getD 0
  let output : Pipe := ⟨[], [], 0, 1, 1, none⟩
  { disk := disk
    files := #[⟨.file (id (deviceDir ++ "/null")), 0, .input, 1⟩, ⟨.writing 0, 0, .output, 1⟩,
      ⟨.writing 1, 0, .output, 1⟩]
    pipes := #[output, output]
    processes :=
      [{ id := supervised
         parent := supervisor
         group := supervisor
         clock := 0
         steps := 0
         activity := .running x.program
         stopped := false
         descriptors := [⟨0, 0, false⟩, ⟨1, 1, false⟩, ⟨2, 2, false⟩]
         dir := id (Text.bytewise x.dir)
         mask := 0o022
         dispositions := []
         pending := []
         limits := x.limits }]
    nextProcess := supervised + 1
    stirred := false }

/-- Whether the program has ended. -/
def hasEnded (s : System) : Bool := ((s.process? supervised).map Process.isOver).getD true

/-- Whether nobody can write to an output any more. -/
def isClosed (output : Nat) (s : System) : Bool :=
  ((s.pipes[output]?).map fun p => p.writers == 0).getD true

/-- Lets processes go on from a time until an output is closed, but not for too long; the value
is the time then. -/
def collect (output now : Nat) (s : System) : Nat × System :=
  let s := s.runUntil (isClosed output) (now + grace) stepLimit
  if isClosed output s then (now, s) else (now + grace, s)

/-- The bytes of an output. -/
def collected (output : Nat) (s : System) : List UInt8 :=
  Text.bytesOf (((s.pipes[output]?).map Pipe.text).getD "")

/-- The tree that is left; devices are no part of it. -/
def treeLeft (x : Task) (s : System) : FileTree :=
  let left := s.disk.tree
  if (x.tree.child? deviceDir).isSome then left else Node.remove [deviceDir] left

/-- Runs a program from start to end. -/
def run (x : Task) : Report :=
  let limit := x.limit * millisecond
  let s := x.system.runUntil hasEnded limit stepLimit
  let (conclusion, now, s) : Conclusion × Nat × System :=
    match s.process? supervised with
    | none => (.killed, limit, s)
    | some p =>
      match p.activity with
      | .over (.exited status) => (.exited status, p.clock, s)
      | .over (.killed _) => (.killed, p.clock, s)
      | _ => (.timeUp, limit, (s.deliver supervised limit 9).settle 100 limit)
  let (now, s) := collect 0 now s
  let (now, s) := collect 1 now s
  { tree := x.treeLeft s
    conclusion := conclusion
    stdout := collected 0 s
    stderr := collected 1 s
    clock := now / millisecond }

end Task

end LintLedger.Machine
