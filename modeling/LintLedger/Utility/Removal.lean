import LintLedger.Utility.Paths

/-!
# Removing files

Files are removed with all that is in them.  Where it is asked whether something should be
removed, what is not wanted to be removed stays, and so do the directories above it.

## Main Definitions

* `Asking` -- when it is asked whether to remove something
* `rm` -- removes files
-/

namespace LintLedger.Utility

open LintLedger.Machine

/-- When it is asked whether to remove something. -/
inductive Asking where
  | never
  /-- Once for all, if there is much to remove. -/
  | once
  | always
deriving DecidableEq, Repr

/-- How files are removed. -/
structure RemovalStyle where
  deep : Bool
  /-- Whether directories are removed if they are empty. -/
  takesEmptyDirs : Bool
  /-- Whether nothing is said of what is missing. -/
  force : Bool
  asking : Asking
  verbose : Bool

namespace RemovalStyle

/-- Asks if that is wanted. -/
def allows (x : RemovalStyle) (question : String) : Work Bool :=
  if x.asking = .always then asks question else pure true

/-- Says that something could not be removed. -/
def failed (path : String) (e : FileError) : Work Unit :=
  warn ("cannot remove " ++ quoted path ++ ": " ++ e.words)

/-- Does what removes something; the value is whether it did. -/
def remove (x : RemovalStyle) (request : Request) (what path : String) : Work Bool := do
  match ← act (Act.doing request) with
  | .ok () =>
    if x.verbose then putLine ("removed " ++ what ++ quoted path)
    return true
  | .error e =>
    failed path e
    return false

/-- Removes an empty directory; the value is whether it did. -/
def removeDir (x : RemovalStyle) (path : String) : Work Bool :=
  x.remove (.removeDir path) "directory " path

/-- Removes what a path means with all that is in it; `depth` bounds how deep that goes.  The value
is whether the directories above may go. -/
def removeTree (x : RemovalStyle) : Nat → String → Work Bool
  | 0, _ => pure false
  | depth + 1, path => do
    match ← act (Act.lookAtLink path) with
    | .error e =>
      if x.force && (e = .missing || e = .notDirectory) then return true
      else
        failed path e
        return false
    | .ok i =>
      if i.kind != .dir then
        if ← x.allows ("remove " ++ kindName i ++ " " ++ quoted path) then
          x.remove (.remove path) "" path
        else return true
      else
        let names := (← act (Act.names path)).toOption.getD []
        if names.isEmpty then
          if ← x.allows ("remove directory " ++ quoted path) then x.removeDir path
          else return false
        else if ← x.allows ("descend into directory " ++ quoted path) then
          let parts ← names.mapM fun name => x.removeTree depth (pathIn path name)
          if !parts.all id then return false
          else if ← x.allows ("remove directory " ++ quoted path) then x.removeDir path
          else return true
        else return false

/-- Removes what a path means. -/
def removeNamed (x : RemovalStyle) (path : String) : Work Unit := do
  let last := lastName path
  if x.deep && last = "/" then
    warn "it is dangerous to operate recursively on '/'"
    complain "use --no-preserve-root to override this failsafe"
  else if x.deep && (last = "." || last = "..") then
    warn ("refusing to remove '.' or '..' directory: skipping " ++ quoted path)
  else
    match ← act (Act.lookAtLink path) with
    | .error e => if !(x.force && (e = .missing || e = .notDirectory)) then failed path e
    | .ok i =>
      if i.kind = .dir && !x.deep then
        if x.takesEmptyDirs then
          let isEmpty := ((← act (Act.names path)).toOption.getD []).isEmpty
          if !isEmpty then failed path .notEmpty
          else if ← x.allows ("remove directory " ++ quoted path) then
            let _ ← x.removeDir path
        else failed path .isDirectory
      else
        let _ ← x.removeTree treeDepth path

end RemovalStyle

/-- Removes files. -/
def rm (words : List String) : Work Unit := do
  let g := grammar "dfirRvI" [("dir", 'd'), ("force", 'f'), ("recursive", 'r'), ("verbose", 'v')]
  let g := { g with names := ("no-preserve-root", 'N', .nothing) :: ("preserve-root", 'P', .perhaps) ::
    ("interactive", '\x01', .perhaps) :: ("one-file-system", 'o', .nothing) :: g.names }
  let t ← readOptions g words
  let asking : Asking ← match t.last? ['f', 'i', 'I', '\x01'] with
    | some 'i' => pure .always
    | some 'I' => pure .once
    | some '\x01' =>
      match t.word? '\x01' with
      | none => pure .always
      | some w =>
        if ["never", "no", "none"].contains w then pure .never
        else if w = "once" then pure .once
        else if w = "always" || w = "yes" then pure .always
        else
          complain ("invalid argument " ++ quoted w ++ " for '--interactive'")
          say ("Valid arguments are:\n  - 'never', 'no', 'none'\n  - 'once'\n" ++
            "  - 'always', 'yes'\n")
          hint
          leave 1
    | _ => pure .never
  let x : RemovalStyle :=
    { deep := t.has 'r' || t.has 'R'
      takesEmptyDirs := t.has 'd'
      force := t.last? ['f', 'i', 'I'] = some 'f'
      asking := asking
      verbose := t.has 'v' }
  if t.operands.isEmpty then (if x.force then pure () else misuse "missing operand")
  else
    let n := t.operands.length
    if asking = .once && (x.deep || 3 < n) then
      let question := "remove " ++ toString n ++ (if n = 1 then " argument" else " arguments") ++
        (if x.deep then " recursively" else "")
      if !(← asks question) then leave 0
    t.operands.forM x.removeNamed

end LintLedger.Utility
