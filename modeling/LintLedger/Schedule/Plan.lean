/-!
# Sharing out concurrency

An audit runs projects beside each other and tools beside each other within a project.  The
number of tools at work at once never exceeds what was asked for.

## Main Definitions

* `Strategy` -- how projects are spread out
* `plan` -- how many projects run at once, and how many tools in each
-/

namespace LintLedger

/-- How projects are spread out. -/
inductive Strategy where
  /-- As with `thread`. -/
  | auto
  /-- Beside each other in this process. -/
  | thread
  /-- Each in a process of its own. -/
  | process
  /-- One after the other. -/
  | none
deriving DecidableEq, Repr

namespace Strategy

/-- The name of a strategy. -/
def name : Strategy → String
  | .auto => "auto"
  | .thread => "thread"
  | .process => "process"
  | .none => "none"

/-- The strategy of a name. -/
def ofName? (s : String) : Option Strategy :=
  [Strategy.auto, .thread, .process, .none].find? fun strategy => strategy.name == s

end Strategy

/-- How much runs at once. -/
structure Concurrency where
  /-- Projects at once. -/
  outer : Nat
  /-- Tools at once in a project. -/
  inner : Nat
deriving DecidableEq, Repr

/-- The concurrency for a number of projects: several projects run with one tool each, a
project that runs alone has all the jobs. -/
def plan (strategy : Strategy) (jobs projects : Nat) : Concurrency :=
  let jobs := max jobs 1
  let outer := if strategy = .none ∨ projects ≤ 1 then 1 else min jobs projects
  ⟨outer, if 1 < outer then 1 else jobs⟩

/-- The product of both numbers stays within the jobs. -/
theorem plan_outer_mul_inner_le (strategy : Strategy) (jobs projects : Nat) :
    (plan strategy jobs projects).outer * (plan strategy jobs projects).inner ≤ max jobs 1 := by
  unfold plan
  dsimp only
  split
  · simp
  · split
    · simp only [Nat.mul_one]; omega
    · rename_i h; have : min (max jobs 1) projects ≤ 1 := by omega
      calc min (max jobs 1) projects * max jobs 1 ≤ 1 * max jobs 1 := Nat.mul_le_mul_right _ this
        _ = max jobs 1 := Nat.one_mul _

end LintLedger
