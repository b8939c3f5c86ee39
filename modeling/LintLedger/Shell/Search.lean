import LintLedger.Machine.Program
import LintLedger.Shell.Assignment

/-!
# What names of commands mean

A name with a slash is a path.  Any other is that of a function, of a command of the shell
itself, or of a program on the search path; where a program was found is remembered.

## Main Definitions

* `ownCommands` -- the commands of the shell itself
* `Meaning`, `search` -- what a name means
* `replaceBy` -- a program takes the place of the shell
-/

namespace LintLedger.Shell

open LintLedger.Machine

/-- How a command of the shell itself differs from others. -/
structure OwnKind where
  /-- Its failure ends the shell, and its assignments stay. -/
  isSpecial : Bool := false
  /-- Its arguments may be assignments. -/
  takesAssignments : Bool := false
deriving DecidableEq, Repr

/-- The commands of the shell itself. -/
def ownCommands : List (String × OwnKind) :=
  let special : OwnKind := { isSpecial := true }
  let declaring : OwnKind := { isSpecial := true, takesAssignments := true }
  ([".", ":", "break", "continue", "eval", "exec", "exit", "return", "set", "shift", "times",
    "trap", "unset"].map fun n => (n, special)) ++
  (["export", "local", "readonly"].map fun n => (n, declaring)) ++
  [("alias", ⟨false, true⟩)] ++
  (["[", "bg", "cd", "chdir", "command", "echo", "false", "fg", "getopts", "hash", "jobs", "kill",
    "printf", "pwd", "read", "test", "true", "type", "ulimit", "umask", "unalias",
    "wait"].map fun n => (n, ⟨false, false⟩))

/-- The commands of the shell itself whose names no function can have. -/
def specialNames : List String := (ownCommands.filter fun c => c.2.isSpecial).map (·.1)

/-- What a name means as a command. -/
inductive Meaning where
  | unknown
  /-- A program by a path of its own, or by a place on the search path. -/
  | program (index? : Option Nat)
  | function (line : Nat) (body : Command)
  | own (kind : OwnKind)

/-- The search path. -/
def State.searchPath (s : State) : String := (s.vars.value? "PATH").getD ""

/-- How names are searched. -/
structure SearchMode where
  skipsFunctions : Bool := false
  /-- Whether what is not found is told. -/
  tells : Bool := false
  /-- Whether a path has to mean something. -/
  checksPaths : Bool := false

/-- Searches a program at some paths, the first of which has a number; the error is the last
that tells more than that nothing is there. -/
def searchPaths (index : Nat) (e : FileError) : List String → Act (Except FileError Nat)
  | [] => pure (.error e)
  | path :: rest => do
    match ← Act.look path with
    | .error .missing => searchPaths (index + 1) e rest
    | .error .notDirectory => searchPaths (index + 1) e rest
    | .error e' => searchPaths (index + 1) e' rest
    | .ok i =>
      if i.kind = .file && i.mode &&& 0o111 != 0 then return .ok index
      else searchPaths (index + 1) .denied rest

/-- What a name means as a command, programs being on a search path that may be another than
the one of the shell. -/
def search (mode : SearchMode) (path? : Option String) (name : String) : Sh Meaning := do
  let s ← get
  if name.toList.contains '/' then
    if mode.checksPaths && (← act (Act.look name)).toOption.isNone then return .unknown
    else return .program none
  else
    let function? := if mode.skipsFunctions then none
      else s.functions.find? fun f => f.1 == name
    match function?, ownCommands.find? fun c => c.1 == name with
    | some (_, line, body), _ => return .function line body
    | none, some (_, kind) => return .own kind
    | none, none =>
      let known? := if path?.isSome then none else s.found.find? fun f => f.1 == name
      match known? with
      | some (_, index) => return .program (some index)
      | none =>
        match ← act (searchPaths 0 .missing (candidatesOn (path?.getD s.searchPath) name)) with
        | .ok index =>
          if path?.isNone then
            modify fun s => { s with found := s.found ++ [(name, index)] }
          return .program (some index)
        | .error e =>
          if mode.tells then warn (name ++ ": " ++ wordsOf e "not found")
          return .unknown

/-- The path of a program at a place on a search path. -/
def pathAt (searchPath name : String) (index? : Option Nat) : String :=
  match index? with
  | none => name
  | some i => (candidatesOn searchPath name)[i]?.getD name

/-- A program takes the place of the shell; the value is why it could not, or what then is the
status. -/
def tryReplace (launch : Launch) (s : State) (searchPath : String) (index? : Option Nat)
    (words : List String) : Act (FileError × Nat) := do
  let name := words.headD ""
  let paths := if name.toList.contains '/' then [name]
    else (candidatesOn searchPath name).drop (index?.getD 0)
  match ← launchFirst launch words s.vars.environment .missing paths with
  | .ok p =>
    let _ ← Act.ask .restart
    Act.become p
  | .error e =>
    let isMissing := e = .missing || e = .notDirectory || e = .tooManyLinks || e = .nameTooLong
    return (e, if isMissing then 127 else 126)

/-- A program takes the place of the shell. -/
def replaceBy {α : Type} (launch : Launch) (searchPath : String) (index? : Option Nat)
    (words : List String) : Sh α := do
  let s ← get
  let (e, status) ← act (tryReplace launch s searchPath index? words)
  setStatus status
  warn (words.headD "" ++ ": " ++ wordsOf e "not found")
  let _ ← flush
  throw .over

/-! ## Telling -/

/-- The programs that are remembered, in the order of their list. -/
def listFound : Sh Unit := do
  let s ← get
  let group (name : String) : Nat :=
    let codes := name.toList.map Char.toNat
    ((codes.headD 0 * 16 + codes.foldr (· + ·) 0) % 32768) % 31
  let sorted := s.found.mergeSort fun a b => decide (group a.1 ≤ group b.1)
  sorted.forM fun (name, index) =>
    print (pathAt s.searchPath name (some index) ++ "\n")

/-- A text between quotes, so that a script can read it. -/
def singleQuoted (text : String) : String :=
  let rec pieces : Nat → List Char → List (List Char)
    | 0, _ => []
    | fuel + 1, cs =>
      let bare := cs.takeWhile (· != '\'')
      let rest := cs.drop bare.length
      let quotes := rest.takeWhile (· == '\'')
      let rest := rest.drop quotes.length
      let first := ['\''] ++ bare ++ ['\'']
      if quotes.isEmpty then [first]
      else if rest.isEmpty then [first, ['"'] ++ quotes ++ ['"']]
      else first :: (['"'] ++ quotes ++ ['"']) :: pieces fuel rest
  String.ofList (pieces (text.length + 1) text.toList).flatten

/-- Tells what a name means, in full or as something that can be run; the value is the
status. -/
def tell (isFull : Bool) (path? : Option String) (name : String) : Sh Nat := do
  let s ← get
  let line (full short : String) : Sh Nat := do
    print ((if isFull then name ++ full else short) ++ "\n")
    return 0
  if reserved.any fun r => r.1 == name then line " is a shell keyword" name
  else
    match s.aliases.find? fun a => a.1 == name with
    | some (_, value) =>
      line (" is an alias for " ++ value) ("alias " ++ name ++ "=" ++ singleQuoted value)
    | none =>
      let wasFound := s.found.any fun f => f.1 == name
      match ← search { checksPaths := true } path? name with
      | .program index? =>
        let path := pathAt (path?.getD s.searchPath) name index?
        line (" is" ++ (if wasFound then " a tracked alias for" else "") ++ " " ++ path) path
      | .function _ _ => line " is a shell function" name
      | .own kind =>
        line (" is a " ++ (if kind.isSpecial then "special " else "") ++ "shell builtin") name
      | .unknown =>
        if isFull then print (name ++ ": not found\n")
        return 127

end LintLedger.Shell
