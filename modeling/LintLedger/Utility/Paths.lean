import LintLedger.Utility.Printing

/-!
# Where paths lead

## Main Definitions

* `resolved` -- the path without links that a path means
* `relativePath` -- a path as it is seen from a directory
* `readlink`, `realpath` -- the programs that tell of them
-/

namespace LintLedger.Utility

open LintLedger.Machine

/-- A name in quotes. -/
def quoted (s : String) : String := Text.alwaysQuoted s

/-- The path of a name in a directory. -/
def pathIn (dir name : String) : String :=
  if dir.toList.getLast? = some '/' then dir ++ name else dir ++ "/" ++ name

/-- More directories than there are within each other. -/
def treeDepth : Nat := 4096

/-- What a file is called by its kind. -/
def kindName (i : FileInfo) : String :=
  match i.kind with
  | .file => if i.size = 0 then "regular empty file" else "regular file"
  | .dir => "directory"
  | .link => "symbolic link"
  | .device => "character special file"
  | .pipe => "fifo"

/-- Whether a path means a directory. -/
def isDirectory (path : String) : Act Bool := do
  match ← Act.look path with
  | .ok i => return i.kind = .dir
  | .error _ => return false

/-- Which names on a path have to be there. -/
inductive Demand where
  | none
  | allButLast
  | all
deriving DecidableEq, Repr

/-- The path without links that names lead to from a directory, at most so many links being
followed. -/
def resolve (d : Demand) : Nat → Nat → String → List String → Act (Except FileError String)
  | 0, _, here, _ => pure (.ok here)
  | _, _, here, [] => pure (.ok (if here = "" then "/" else here))
  | fuel + 1, links, here, name :: rest => do
    if name = "" || name = "." then resolve d fuel links here rest
    else if name = ".." then
      let above := Text.dropTail (· == '/') (Text.dropTail (· != '/') here.toList)
      resolve d fuel links (String.ofList above) rest
    else
      let path := here ++ "/" ++ name
      match ← Act.lookAtLink path with
      | .error e =>
        let isLast := rest.all (· = "")
        if d = .none || (d = .allButLast && isLast && e = .missing) then resolve d fuel links path rest
        else return .error e
      | .ok i =>
        if i.kind = .link then
          match links, ← Act.text (.linkTarget path) with
          | 0, _ => return .error .tooManyLinks
          | links + 1, .ok target =>
            let names := Text.splitOnChar (· == '/') target
            let start := if target.toList.head? = some '/' then "" else here
            resolve d fuel links start (names ++ rest)
          | _, .error e => return .error e
        else if i.kind != .dir && rest.any (· ≠ "") && d != .none then return .error .notDirectory
        else if i.kind != .dir && !rest.isEmpty && d != .none then return .error .notDirectory
        else resolve d fuel links path rest

/-- The path without links that a path means. -/
def resolved (d : Demand) (path : String) : Act (Except FileError String) := do
  if path = "" then return .error .missing
  else
    let here := (← Act.text .place).toOption.getD ""
    let here := if here = "/" then "" else here
    let start := if path.toList.head? = some '/' then "" else here
    resolve d 100000 40 start (Text.splitOnChar (· == '/') path)

/-- Prints where links lead. -/
def readlink (words : List String) : Work Unit := do
  let g := grammar "efmnqsvz" [("canonicalize", 'f'), ("canonicalize-existing", 'e'),
    ("canonicalize-missing", 'm'), ("no-newline", 'n'), ("quiet", 'q'), ("silent", 's'),
    ("verbose", 'v'), ("zero", 'z')]
  let t ← readOptions g words
  if t.operands.isEmpty then misuse "missing operand"
  else
    if t.has 'n' && 1 < t.operands.length then
      complain "ignoring --no-newline with multiple arguments"
    let stop := if t.has 'n' && t.operands.length = 1 then "" else if t.has 'z' then "\x00" else "\n"
    t.operands.forM fun path => do
      let r ← match t.last? ['e', 'f', 'm'] with
        | some 'e' => act (resolved .all path)
        | some 'f' => act (resolved .allButLast path)
        | some _ => act (resolved .none path)
        | none => act (Act.text (.linkTarget path))
      match r with
      | .ok text => put (text ++ stop)
      | .error e =>
        if t.has 'v' then complain (Text.quotedIfNeeded path ++ ": " ++ e.words)
        fails

/-- The names on a path, without those that lead nowhere and with those that lead up taken. -/
def plainNames (names : List String) : List String :=
  names.foldl (fun done name =>
    if name = "" || name = "." then done
    else if name = ".." then done.dropLast
    else done ++ [name]) []

/-- The path that a path means if no links are followed. -/
def spelledOut (path : String) : Act (Except FileError String) := do
  if path = "" then return .error .missing
  else
    let here := (← Act.text .place).toOption.getD ""
    let start := if path.toList.head? = some '/' then "" else here
    return .ok ("/" ++ "/".intercalate (plainNames (Text.splitOnChar (· == '/') (start ++ "/" ++ path))))

/-- A path without links as it is seen from a directory. -/
def relativePath (dir path : String) : String :=
  let names (p : String) : List String := (Text.splitOnChar (· == '/') p).filter (· ≠ "")
  go (names dir) (names path)
where
  /-- The way from one list of names to another. -/
  go : List String → List String → String
    | a :: as, b :: bs =>
      if a = b then go as bs
      else "/".intercalate ((a :: as).map (fun _ => "..") ++ b :: bs)
    | [], [] => "."
    | as, bs => "/".intercalate (as.map (fun _ => "..") ++ bs)

/-- Whether a path without links is a directory or below it. -/
def isWithin (dir path : String) : Bool :=
  dir = "/" || path = dir || (dir ++ "/").toList.isPrefixOf path.toList

/-- Prints paths without links. -/
def realpath (words : List String) : Work Unit := do
  let g := grammar "eLmPqsz" [("canonicalize-existing", 'e'), ("canonicalize-missing", 'm'),
    ("logical", 'L'), ("physical", 'P'), ("quiet", 'q'), ("no-symlinks", 's'), ("strip", 's'),
    ("zero", 'z')]
  let g := { g with names := ("relative-to", '\x01', .word) :: ("relative-base", '\x02', .word) ::
    g.names }
  let t ← readOptions g words
  if t.operands.isEmpty then misuse "missing operand"
  else
    let demand : Demand := match t.last? ['e', 'm'] with
      | some 'e' => .all
      | some _ => .none
      | none => .allButLast
    let find (path : String) : Act (Except FileError String) :=
      if t.last? ['s', 'P', 'L'] = some 's' then spelledOut path else resolved demand path
    let place (key : Char) : Work (Option String) := do
      match t.word? key with
      | none => return none
      | some w =>
        match ← act (find w) with
        | .error e => die (Text.quotedIfNeeded w ++ ": " ++ e.words)
        | .ok dir =>
          if demand = .all && !(← act (isDirectory dir)) then
            die (Text.quotedIfNeeded w ++ ": Not a directory")
          return some dir
    let to? ← place '\x01'
    let base? ← place '\x02'
    t.operands.forM fun path => do
      match ← act (find path) with
      | .ok text =>
        let isShort := match to?, base? with
          | none, none => false
          | some _, none => true
          | none, some base => isWithin base text
          | some top, some base => isWithin base top && isWithin base text
        let text := if isShort then relativePath ((to?.orElse fun _ => base?).getD "/") text else text
        put (text ++ if t.has 'z' then "\x00" else "\n")
      | .error e =>
        if t.has 'q' then fails else warnFile path e

end LintLedger.Utility
