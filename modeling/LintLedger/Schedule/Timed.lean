import LintLedger.Schedule.Basic

/-!
# Runs against a clock

Everything that is at work takes some time, and what ends first is delivered first; of two
ends at one time the one that started first comes first.  What a tool does is not known here:
it is asked of an executor when the tool starts.

## Main Definitions

* `Executor` -- what tools and processes do, and how long it takes them
* `Schedule.run` -- a run from start to end
-/

namespace LintLedger

/-- What tools and processes do to a world, what comes out and how many milliseconds it
takes. -/
structure Executor (World : Type) where
  tool : String → Tool → World → World × Execution × Nat
  /-- The program itself on one project; its exit code comes out. -/
  child : String → World → World × Int × Nat

namespace Schedule

/-- The end of something at work. -/
structure Flight where
  slot : Slot
  /-- What comes out of a tool. -/
  result : Execution
  /-- The exit code of a process. -/
  code : Int
  lands : Nat

/-- A run, the world and what is on its way to its end, in the order of the starts. -/
structure Timed (World : Type) where
  world : World
  state : State
  flights : List Flight
  now : Nat

variable {World : Type}

/-- The project with an index. -/
def projectAt (s : State) (index : Nat) : String :=
  match s.active.find? fun a => a.index == index with
  | some a => a.project
  | none => ""

/-- Starts what one slot stands for. -/
def depart (x : Executor World) (t : Timed World) (slot : Slot) : Timed World :=
  let project := projectAt t.state slot.1
  match slot.2 with
  | some tool =>
    let (world, result, takes) := x.tool project tool t.world
    { t with world := world, flights := t.flights ++ [⟨slot, result, 0, t.now + takes⟩] }
  | none =>
    let (world, code, takes) := x.child project t.world
    { t with
        world := world
        flights := t.flights ++ [⟨slot, .brokeDown "", code, t.now + takes⟩] }

/-- Starts what is at work and not on its way; what was given up is dropped. -/
def departAll (x : Executor World) (t : Timed World) : Timed World :=
  let kept := t.flights.filter fun f => t.state.inFlight.contains f.slot
  let fresh := t.state.inFlight.filter fun u => !kept.any fun f => f.slot == u
  fresh.foldl (depart x) { t with flights := kept }

/-- The flight that lands first. -/
def earliest : List Flight → Option Flight
  | [] => none
  | f :: rest =>
    match earliest rest with
    | some g => if g.lands < f.lands then some g else some f
    | none => some f

/-- Delivers the end of a flight. -/
def land (job : Job) (t : Timed World) (f : Flight) : Timed World :=
  let state := match f.slot.2 with
    | some tool => deliver job f.lands f.slot.1 tool f.result t.state
    | none => deliverChild job f.lands f.slot.1 f.code t.state
  { t with
      state := state
      flights := t.flights.filter fun g => g.slot != f.slot
      now := f.lands }

/-- At most as many deliveries as `bound` says. -/
def runFor (x : Executor World) (job : Job) : Nat → Timed World → Timed World
  | 0, t => t
  | bound + 1, t =>
    let departed := departAll x t
    match earliest departed.flights with
    | none => departed
    | some f => runFor x job bound (land job departed f)

/-- A run from start to end.  Every project has at most one delivery for each of its tools,
or one for its process. -/
def run (x : Executor World) (job : Job) (records : Records) (world : World) : Timed World :=
  let deliveries := (job.projects.map fun p => (job.audit p).tools.length + 1).foldr (· + ·) 0 + 1
  runFor x job deliveries ⟨world, launch job 0 records, [], 0⟩

end Schedule

end LintLedger
