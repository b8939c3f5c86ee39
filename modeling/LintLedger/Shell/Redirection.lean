import LintLedger.Shell.Expansion

/-!
# Redirections

A redirection makes a descriptor lead somewhere else for the time of a command.  Where it led
before is kept under a number that scripts do not use, and is put back when the command is
done.

## Main Definitions

* `Aim`, `aims` -- where descriptors are to lead, words expanded
* `redirect` -- makes descriptors lead elsewhere
* `undoRedirections` -- makes them lead where they led before
-/

namespace LintLedger.Shell

open LintLedger.Machine

/-- Where a descriptor is to lead. -/
inductive Aim where
  | file (path : String) (mode : OpenMode)
  /-- A file for writing, which is not to be there if that is asked for. -/
  | output (path : String)
  | copy (descriptor : Nat)
  | closed
  | document (text : Word)

/-- Where a target leads. -/
def aimOf (capture : Capture) (t : Target) : Sh Aim := do
  let path (w : Word) : Sh String := expandWord capture { tilde := true } w
  match t with
  | .input w => return .file (← path w) .input
  | .both w => return .file (← path w) .both
  | .output w => return .output (← path w)
  | .overwrite w => return .file (← path w) .output
  | .addition w => return .file (← path w) .addition
  | .copy d => return .copy d
  | .closed => return .closed
  | .document _ text => return .document text
  | .copyOf w =>
    match ← expandFields capture w with
    | [] => fail "redir error"
    | text :: _ =>
      match text.toList with
      | ['-'] => return .closed
      | [c] =>
        if c.isDigit then return .copy (c.toNat - 48) else fail "Syntax error: Bad fd number"
      | _ => fail "Syntax error: Bad fd number"

/-- Where redirections lead, all their words expanded before any of them is carried out. -/
def aims (capture : Capture) : List Redirection → Sh (List (Nat × Aim))
  | [] => pure []
  | .mk d t :: rest => do
    let aim ← aimOf capture t
    let others ← aims capture rest
    return (d, aim) :: others

/-- Fails for a file that cannot be opened. -/
def failOpening {α : Type} (path : String) (creates : Bool) (e : FileError) : Sh α :=
  if creates then
    fail ("cannot create " ++ path ++ ": " ++ wordsOf e "Directory nonexistent")
  else fail ("cannot open " ++ path ++ ": " ++ wordsOf e "No such file")

/-- Opens a file. -/
def openOrFail (path : String) (mode : OpenMode) : Sh Nat := do
  match ← act (Act.openFile path mode) with
  | .ok d => return d
  | .error e => failOpening path mode.creates e

/-- Opens a file for writing, perhaps only if it is not there. -/
def openOutput (path : String) : Sh Nat := do
  if !(← get).has "noclobber" then openOrFail path .output
  else
    match ← act (Act.look path) with
    | .error _ => openOrFail path { writes := true, creates := true, isNew := true }
    | .ok i =>
      if i.kind = .file then failOpening path true .alreadyThere
      else openOrFail path { writes := true }

/-- How many bytes a pipe takes at once. -/
def pipeBytes : Nat := 4096

/-- A descriptor from which a text is read. -/
def openDocument (text : String) : Sh Nat := do
  match ← act Act.pipe with
  | .error _ => fail "Pipe call failed"
  | .ok (r, w) =>
    if text.length ≤ pipeBytes then
      let _ ← act (Act.write w text)
    else
      let writer : Act Nat := do
        Act.close r
        let _ ← Act.write w text
        return 0
      let _ ← act (Act.fork (Act.program writer))
    act (Act.close w)
    return r

/-- What an aim is opened as: nothing if the descriptor leads there already, no descriptor if
it is to be closed. -/
def openAim (capture : Capture) (d : Nat) (aim : Aim) : Sh (Option (Option Nat)) := do
  match aim with
  | .file path mode => return some (some (← openOrFail path mode))
  | .output path => return some (some (← openOutput path))
  | .copy other => return if other = d then none else some (some other)
  | .closed => return some none
  | .document text =>
    let text ← expandWord capture { quoted := true } text
    return some (some (← openDocument text))

/-- The first number of a descriptor that scripts do not use. -/
def firstKept : Nat := 10

/-- Keeps where a descriptor leads, and closes it. -/
def keep (d : Nat) : Sh Former := do
  match ← act (Act.number (.copyAbove d firstKept)) with
  | .ok copy =>
    act (Act.close d)
    return .kept copy
  | .error .badDescriptor => return .closed
  | .error e => fail (toString d ++ ": " ++ e.words)

/-- What is kept of a descriptor by the redirections that are being carried out. -/
def former? (d : Nat) : Sh (Option Former) := do
  return ((← get).redirected.headD []).find? (fun f => f.1 == d) |>.map (·.2)

/-- Tells where a descriptor led before. -/
def setFormer (d : Nat) (f : Former) : Sh Unit :=
  modify fun s =>
    { s with redirected := match s.redirected with
      | frame :: rest => ((d, f) :: frame.filter fun x => x.1 != d) :: rest
      | [] => [] }

/-- Makes a descriptor lead where another one leads that was opened for it or not. -/
def lead (d : Nat) (aim : Aim) (goal? : Option Nat) : Sh Unit := do
  match goal? with
  | none => act (Act.close d)
  | some goal =>
    let isCopy := match aim with
      | .copy _ => true
      | _ => false
    match ← act (Act.doing (.copy goal d)) with
    | .error e => fail (toString goal ++ ": " ++ e.words)
    | .ok () => if !isCopy then act (Act.close goal)

/-- Makes descriptors lead elsewhere; where they led is kept if it is to be put back. -/
def redirect (capture : Capture) (isUndone : Bool) : List (Nat × Aim) → Sh Unit
  | [] => pure ()
  | (d, aim) :: rest => do
    match ← openAim capture d aim with
    | none => pure ()
    | some goal? =>
      let mut isClosed := false
      if isUndone then
        let former ← match ← former? d with
          | some f => pure f
          | none =>
            if goal? = some d then pure Former.closed
            else
              isClosed := true
              keep d
        let former := if former = .closed && goal?.isNone then Former.stayedClosed else former
        setFormer d former
      if (isClosed && goal?.isNone) || (!isClosed && goal? = some d) then pure ()
      else lead d aim goal?
    redirect capture isUndone rest

/-- Carries out redirections that are undone later; the value is whether all could be. -/
def redirectSafely (capture : Capture) (all : List (Nat × Aim)) : Sh Bool := do
  match ← attempt (redirect capture true all) with
  | .ok () => return true
  | .error .error => return false
  | .error e => throw e

/-- Begins redirections that are undone later, if there are any. -/
def beginRedirections (rs : List Redirection) : Sh Unit :=
  if rs.isEmpty then pure () else modify fun s => { s with redirected := [] :: s.redirected }

/-- Makes a descriptor lead where it led before, or forgets where that was. -/
def putBackDescriptor (forgets : Bool) (x : Nat × Former) : Sh Unit := do
  match x.2 with
  | .closed => if !forgets then act (Act.close x.1)
  | .stayedClosed => pure ()
  | .kept copy =>
    if !forgets then
      let _ ← act (Act.doing (.copy copy x.1))
    act (Act.close copy)

/-- Undoes the last redirections, or forgets what was before them. -/
def endRedirections (forgets : Bool) : Sh Unit := do
  match (← get).redirected with
  | [] => pure ()
  | frame :: rest =>
    modify fun s => { s with redirected := rest }
    (frame.mergeSort fun a b => decide (a.1 ≤ b.1)).forM (putBackDescriptor forgets)

/-- Undoes redirections until so many are left, in at most so many turns. -/
def undoWithin (count : Nat) : Nat → Sh Unit
  | 0 => pure ()
  | turns + 1 => do
    if (← get).redirected.length ≤ count then pure ()
    else
      endRedirections false
      undoWithin count turns

/-- Undoes redirections until so many are left. -/
def undoRedirections (count : Nat) : Sh Unit := do undoWithin count ((← get).redirected.length)

end LintLedger.Shell
