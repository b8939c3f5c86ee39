import LintLedger.Utility.Mode
import LintLedger.Utility.Paths

/-!
# Copying and moving files

Files go to a path or into a directory.  What is there already may stay, be replaced, or be kept
under another name.

## Main Definitions

* `Backup` -- under which names old files are kept
* `Goal` -- where files go
* `cp`, `mv`, `ln` -- files are copied, moved and given other names
-/

namespace LintLedger.Utility

open LintLedger.Machine

/-- The path of the file to which a path leads through links. -/
def behindLinks (path : String) : Act String := do
  return (← resolved .all path).toOption.getD path

/-! ## What is there already -/

/-- What is done where there is a file already. -/
inductive Overwriting where
  | always
  | never
  | asks
deriving DecidableEq, Repr

/-- Under which names old files are kept. -/
inductive Backup where
  /-- With an ending. -/
  | simple (ending : String)
  /-- With a number. -/
  | numbered
  /-- With a number if there are such names already, otherwise with an ending. -/
  | existing (ending : String)
deriving DecidableEq, Repr

/-- The way of keeping old files that options ask for. -/
def Backup.of? (t : Taken) : Work (Option Backup) := do
  let ending := (t.word? 'S').getD "~"
  if !(t.has 'b' || t.has 'S') then return none
  else
    let control := ((t.options.filter fun o => o.key == 'b').filterMap (·.word?)).getLast?
    match control with
    | none => return some (.existing ending)
    | some w =>
      let fits (names : List String) : Bool := names.any fun n => w.toList.isPrefixOf n.toList
      if w = "" then return some (.existing ending)
      else if fits ["none", "off"] then return none
      else if fits ["simple"] || w = "never" then return some (.simple ending)
      else if fits ["existing"] || w = "nil" then return some (.existing ending)
      else if fits ["numbered"] || w = "t" then return some .numbered
      else
        complain ("invalid argument " ++ quoted w ++ " for 'backup type'")
        say ("Valid arguments are:\n  - 'none', 'off'\n  - 'simple', 'never'\n" ++
          "  - 'existing', 'nil'\n  - 'numbered', 't'\n")
        hint
        leave 1

/-- The greatest number among the names under which a file was kept. -/
def lastBackup (path : String) : Act Nat := do
  let cs := path.toList
  let last := (cs.reverse.takeWhile (· != '/')).reverse
  let dir := String.ofList (cs.take (cs.length - last.length))
  let names := (← Act.names (if dir = "" then "." else dir)).toOption.getD []
  let start := last ++ ['.', '~']
  let numbers := names.filterMap fun name =>
    let ns := name.toList
    if start.isPrefixOf ns && ns.getLast? = some '~' then
      Text.natOf? ((ns.drop start.length).dropLast)
    else none
  return numbers.foldl max 0

/-- The name under which the file at a path is kept. -/
def Backup.name (b : Backup) (path : String) : Act String := do
  let n ← lastBackup path
  let numbered := path ++ ".~" ++ toString (n + 1) ++ "~"
  return match b with
    | .simple ending => path ++ ending
    | .numbered => numbered
    | .existing ending => if n = 0 then path ++ ending else numbered

/-- Keeps the file at a path under another name; the value is that name. -/
def Backup.keep (b : Backup) (path : String) : Work String := do
  let name ← act (b.name path)
  let _ ← act (Act.doing (.rename path name))
  return name

/-! ## Where files go -/

/-- Where files go: all into a directory, or one to a path. -/
inductive Goal where
  | into (dir : String)
  | to (path : String)

/-- The path to which a source goes. -/
def Goal.path (g : Goal) (source : String) : String :=
  match g with
  | .into dir => pathIn dir (lastName source)
  | .to path => path

/-- The sources and the goal among operands. -/
def goalOf (t : Taken) : Work (List String × Goal) := do
  let dirs := (t.options.filter fun o => o.key == 't').filterMap (·.word?)
  if 1 < dirs.length then die "multiple target directories specified"
  match dirs.head? with
  | some dir =>
    if t.has 'T' then
      die "cannot combine --target-directory (-t) and --no-target-directory (-T)"
    if t.operands.isEmpty then misuse "missing file operand"
    else
      match ← act (Act.look dir) with
      | .ok i =>
        if i.kind = .dir then return (t.operands, .into dir)
        else die ("target directory " ++ quoted dir ++ ": Not a directory")
      | .error e => die ("target directory " ++ quoted dir ++ ": " ++ e.words)
  | none =>
    match t.operands, t.operands.getLast? with
    | [], _ => misuse "missing file operand"
    | [a], _ => misuse ("missing destination file operand after " ++ quoted a)
    | [a, b], _ =>
      if !t.has 'T' && (← act (isDirectory b)) then return ([a], .into b) else return ([a], .to b)
    | all, some last =>
      if t.has 'T' then misuse ("extra operand " ++ quoted ((all.drop 2).headD ""))
      else
        match ← act (Act.look last) with
        | .ok i =>
          if i.kind = .dir then return (all.dropLast, .into last)
          else die ("target " ++ quoted last ++ ": Not a directory")
        | .error e => die ("target " ++ quoted last ++ ": " ++ e.words)
    | _, none => misuse "missing file operand"

/-- What to do with newer and older files, as a word tells it. -/
def updateOf (t : Taken) : Work (Option String) := do
  match t.last? ['u'] with
  | none => return none
  | some _ =>
    match ((t.options.filter fun o => o.key == 'u').getLast?).bind (·.word?) with
    | none => return some "older"
    | some w =>
      match ["all", "none", "older"].filter fun n => w.toList.isPrefixOf n.toList with
      | [n] => return some n
      | _ =>
        complain ("invalid argument " ++ quoted w ++ " for '--update'")
        say "Valid arguments are:\n  - 'all'\n  - 'none'\n  - 'older'\n"
        hint
        leave 1

/-! ## Copying -/

/-- Which links are followed. -/
inductive Following where
  | all
  | named
  | none
deriving DecidableEq, Repr

/-- How files are copied. -/
structure CopyStyle where
  deep : Bool
  following : Following
  keepsMode : Bool
  force : Bool
  /-- Whether what is there is removed before. -/
  removesOld : Bool
  overwriting : Overwriting
  onlyNewer : Bool
  verbose : Bool
  isLink : Bool
  isSymbolic : Bool
  backup? : Option Backup

/-- Copies all bytes from one descriptor to another, in at most so many turns. -/
def pour (source goal : Nat) : Nat → Act (Except FileError Unit)
  | 0 => pure (.ok ())
  | turns + 1 => do
    match ← Act.read source Act.chunk with
    | .error e => return .error e
    | .ok "" => return .ok ()
    | .ok text =>
      match ← Act.write goal text with
      | .error e => return .error e
      | .ok () => pour source goal turns

namespace CopyStyle

/-- Copies the bytes of a file. -/
def copyBytes (x : CopyStyle) (source goal : String) (i : FileInfo) (isThere : Bool) :
    Work Unit := do
  match ← act (Act.openFile source .input) with
  | .error e => warn ("cannot open " ++ quoted source ++ " for reading: " ++ e.words)
  | .ok s =>
    let mode : OpenMode := { writes := true, creates := !isThere, empties := true }
    match ← act (Act.number (.openFile goal mode (i.mode &&& 0o777))) with
    | .error e =>
      warn ("cannot create regular file " ++ quoted goal ++ ": " ++
        (if e = .isDirectory then "Not a directory" else e.words))
    | .ok g =>
      match ← act (pour s g Act.manyTurns) with
      | .ok () => pure ()
      | .error e => warn ("error copying " ++ quoted source ++ " to " ++ quoted goal ++ ": " ++ e.words)
      act (Act.close g)
      if x.keepsMode then
        let _ ← act (Act.doing (.setMode goal i.mode))
        let _ ← act (Act.doing (.setTime goal i.modified))
    act (Act.close s)

/-- Makes what is copied at a path where there is nothing, or a file that is written anew. -/
def make (x : CopyStyle) (source goal : String) (i : FileInfo) (there? : Option FileInfo) :
    Work Unit := do
  if x.isLink then
    let file ← if x.following = .none then pure source else act (behindLinks source)
    match ← act (Act.doing (.addName file goal)) with
    | .ok () => pure ()
    | .error e =>
      warn ("cannot create hard link " ++ quoted goal ++ " to " ++ quoted source ++ ": " ++ e.words)
  else if x.isSymbolic then
    let isHere := !goal.toList.contains '/' || (goal.startsWith "./" && !(goal.toList.drop 2).contains '/')
    if source.toList.head? != some '/' && !isHere then
      warn (Text.quotedIfNeeded goal ++
        ": can make relative symbolic links only in current directory")
    else
      match ← act (Act.doing (.makeLink source goal)) with
      | .ok () => pure ()
      | .error e =>
        warn ("cannot create symbolic link " ++ quoted goal ++ " to " ++ quoted source ++
          ": " ++ e.words)
  else if i.kind = .link then
    if there?.isSome then
      let _ ← act (Act.doing (.remove goal))
    match ← act (Act.text (.linkTarget source)) with
    | .ok target =>
      match ← act (Act.doing (.makeLink target goal)) with
      | .ok () => pure ()
      | .error e => warn ("cannot create symbolic link " ++ quoted goal ++ ": " ++ e.words)
    | .error e => warn ("cannot read symbolic link " ++ quoted source ++ ": " ++ e.words)
  else if (there?.map (·.kind)) = some .link then
    warn ("not writing through dangling symlink " ++ quoted goal)
  else x.copyBytes source goal i there?.isSome

/-- Copies what is no directory; `there?` is what is at the goal. -/
def copyFile (x : CopyStyle) (source goal : String) (i : FileInfo) (there? : Option FileInfo) :
    Work Unit := do
  let shown := quoted source ++ " -> " ++ quoted goal
  match there?, x.backup? with
  | some _, some b =>
    let name ← b.keep goal
    if x.verbose then putLine (shown ++ " (backup: " ++ quoted name ++ ")")
    x.make source goal i none
  | some _, none =>
    let isUnlike := x.following = .none && i.kind != .file && !x.isLink && !x.isSymbolic
    if x.removesOld || isUnlike || ((x.isLink || x.isSymbolic) && x.force) then
      match ← act (Act.doing (.remove goal)) with
      | .ok () => if x.verbose && (x.removesOld || isUnlike) then putLine ("removed " ++ quoted goal)
      | .error e => warn ("cannot remove " ++ quoted goal ++ ": " ++ e.words)
      if x.verbose then putLine shown
      x.make source goal i none
    else
      if x.verbose then putLine shown
      x.make source goal i there?
  | none, _ =>
    if x.verbose then putLine shown
    x.make source goal i none

/-- Whether a file that is there is replaced; a refusal may be a failure. -/
def replaces (x : CopyStyle) (goal : String) (i g : FileInfo) : Work Bool := do
  if x.onlyNewer && i.modified ≤ g.modified then return false
  else
    match x.overwriting with
    | .always => return true
    | .never => return false
    | .asks =>
      if ← asks ("overwrite " ++ quoted goal) then return true
      else
        fails
        return false

/-- A file that is copied: its path, where it goes, and whether it was named itself. -/
structure Errand where
  source : String
  goal : String
  isNamed : Bool

/-- The errand for a name in a directory. -/
def Errand.inner (e : Errand) (name : String) : Errand :=
  ⟨pathIn e.source name, pathIn e.goal name, false⟩

/-- Copies what is no directory to a place where there is something, if it is to be; a link there
is written through unless it is replaced. -/
def copyOver (x : CopyStyle) (made : List Nat) (replacesLink : Bool) (e : Errand)
    (i g : FileInfo) : Work Unit := do
  let isSame := g.id = i.id && (!x.isSymbolic || e.source = e.goal) && (!x.isLink || !x.force || g.names = 1) &&
    !(x.backup?.isSome && x.force)
  if g.kind = .link && !replacesLink then x.copyFile e.source e.goal i (some g)
  else if x.overwriting = .never then pure ()
  else if isSame then
    if !x.isLink then
      warn (quoted e.source ++ " and " ++ quoted e.goal ++ " are the same file")
  else if g.kind = .dir then
    warn ("cannot overwrite directory " ++ quoted e.goal ++ " with non-directory")
  else if ← x.replaces e.goal i g then
    if e.isNamed && made.contains g.id then
      warn ("will not overwrite just-created " ++ quoted e.goal ++ " with " ++ quoted e.source)
    else x.copyFile e.source e.goal i (some g)

/-- Copies what a path means, as a part of copying what `top` names; `new?` is the first directory
that was made for it, which is not copied itself.  `depth` bounds how deep that goes. -/
def copyTree (x : CopyStyle) (made : List Nat) (top : Errand) :
    Nat → Errand → (new? : Option Nat) → Work (Option Nat)
  | 0, _, new? => pure new?
  | depth + 1, e, new? => do
    let follows := match x.following with
      | .all => true
      | .named => e.isNamed
      | .none => false
    match ← act (if follows then Act.look e.source else Act.lookAtLink e.source) with
    | .error fault =>
      warn ("cannot stat " ++ quoted e.source ++ ": " ++ fault.words)
      return new?
    | .ok i =>
      let atLink ← act (Act.lookAtLink e.goal)
      let behind? := (← act (Act.look e.goal)).toOption
      let replacesLink := i.kind = .link || x.removesOld || x.backup?.isSome || x.isLink ||
        x.isSymbolic
      let there? := match atLink.toOption with
        | some g => if g.kind = .link && !replacesLink then behind?.or (some g) else some g
        | none => none
      if i.kind = .dir then
        if !x.deep then
          warn ("-r not specified; omitting directory " ++ quoted e.source)
          return new?
        else if !e.isNamed && new? = some i.id then
          warn ("cannot copy a directory, " ++ quoted top.source ++ ", into itself, " ++
            quoted top.goal)
          return new?
        else
          let copyNames (new? : Option Nat) : Work (Option Nat) := do
            let names := (← act (Act.names e.source)).toOption.getD []
            names.foldlM (fun new? name => x.copyTree made top depth (e.inner name) new?) new?
          match there? with
          | some g =>
            if g.kind != .dir then
              warn ("cannot overwrite non-directory " ++ quoted e.goal ++ " with directory " ++
                quoted e.source)
              return new?
            else copyNames new?
          | none =>
            match ← act (Act.doing (.makeDir e.goal (i.mode &&& 0o777))) with
            | .error fault =>
              warn ("cannot create directory " ++ quoted e.goal ++ ": " ++ fault.words)
              return new?
            | .ok () =>
              if x.verbose then putLine (quoted e.source ++ " -> " ++ quoted e.goal)
              let me? := (← act (Act.lookAtLink e.goal)).toOption.map (·.id)
              let new? ← copyNames (new?.or me?)
              if x.keepsMode then
                let _ ← act (Act.doing (.setMode e.goal i.mode))
                let _ ← act (Act.doing (.setTime e.goal i.modified))
              return new?
      else
        match atLink, there? with
        | .error .notDirectory, _ =>
          warn ("cannot stat " ++ quoted e.goal ++ ": Not a directory")
        | _, none => x.copyFile e.source e.goal i none
        | _, some g => x.copyOver made replacesLink e i g
        return new?

/-- Makes the directories on a path in a directory as they are outside it. -/
def makeAbove (x : CopyStyle) (dir : String) : List String → String → Work Unit
  | [], _ => pure ()
  | name :: rest, done => do
    let here := done ++ name
    let goal := pathIn dir here
    match ← act (Act.doing (.makeDir goal 0o777)) with
    | .ok () => if x.verbose then putLine (here ++ " -> " ++ goal)
    | .error _ => pure ()
    x.makeAbove dir rest (here ++ "/")

/-- Copies what paths mean; `seen` is which files were copied under which names and where, and
`made` which files were made. -/
def copyAll (x : CopyStyle) (hasParents : Bool) (goal : Goal) :
    List String → (seen : List (Nat × String)) → (made : List Nat) → Work Unit
  | [], _, _ => pure ()
  | source :: rest, seen, made => do
    let follows := x.following != .none
    let info? := (← act (if follows then Act.look source else Act.lookAtLink source)).toOption
    let path ← match hasParents, goal with
      | true, .into dir => do
        let names := (Text.splitOnChar (· == '/') source).filter (· ≠ "")
        if info?.isSome then x.makeAbove dir names.dropLast ""
        pure (pathIn dir ("/".intercalate names))
      | _, g => pure (g.path source)
    let key? := info?.map fun i => (i.id, path)
    let isDir := (info?.map (·.kind)) = some .dir
    let isRepeated := match key? with
      | some k => seen.contains k && !(x.backup?.isSome && !isDir)
      | none => false
    if isRepeated && (!isDir || x.deep) then
      complain ("warning: source " ++ (if isDir then "directory " else "file ") ++ quoted source ++
        " specified more than once")
      x.copyAll hasParents goal rest seen made
    else
      let e : Errand := ⟨source, path, true⟩
      let _ ← x.copyTree made e treeDepth e none
      let new? := (← act (Act.lookAtLink path)).toOption.map (·.id)
      x.copyAll hasParents goal rest (key?.toList ++ seen) (new?.toList ++ made)

end CopyStyle

/-- Copies files. -/
def cp (words : List String) : Work Unit := do
  let g := grammar "abdfHilLnprst:uvPRTxS:Z"
    [("archive", 'a'), ("force", 'f'), ("interactive", 'i'), ("link", 'l'), ("dereference", 'L'),
     ("no-clobber", 'n'), ("no-dereference", 'P'), ("recursive", 'R'), ("symbolic-link", 's'),
     ("target-directory", 't'), ("no-target-directory", 'T'), ("verbose", 'v'), ("suffix", 'S'),
     ("one-file-system", 'x')]
  let g := { g with names := ("preserve", 'p', .perhaps) :: ("parents", '\x01', .nothing) ::
    ("update", 'u', .perhaps) :: ("backup", 'b', .perhaps) :: ("no-preserve", '\x02', .word) ::
    ("remove-destination", '\x03', .nothing) :: ("strip-trailing-slashes", '\x04', .nothing) ::
    ("sparse", '\x02', .word) :: ("reflink", '\x02', .perhaps) ::
    ("attributes-only", '\x02', .nothing) :: ("copy-contents", '\x02', .nothing) :: g.names }
  let t ← readOptions g words
  -- Of these two the last one counts.
  let keepsOld := t.last? ['n', 'i'] = some 'n'
  let update? ← updateOf t
  (t.options.filter fun o => o.key == 'n').forM fun _ =>
    complain ("warning: behavior of -n is non-portable and may change in future; " ++
      "use --update=none instead")
  let backup? ← Backup.of? t
  let (sources, goal) ← goalOf t
  let hasParents := t.has '\x01'
  match hasParents, goal with
  | true, .to _ => misuse "with --parents, the destination must be a directory"
  | _, _ => pure ()
  let deep := t.has 'r' || t.has 'R' || t.has 'a'
  let following : Following := match t.last? ['d', 'P', 'a', 'L', 'H'] with
    | some 'L' => .all
    | some 'H' => .named
    | some _ => .none
    | none => if deep && !t.has 'l' then .none else .all
  let x : CopyStyle :=
    { deep := deep
      following := following
      keepsMode := t.has 'p' || t.has 'a'
      force := t.has 'f'
      removesOld := t.has '\x03'
      overwriting := if keepsOld || update? = some "none" then .never
        else if t.has 'i' then .asks else .always
      onlyNewer := update? = some "older"
      verbose := t.has 'v'
      isLink := t.has 'l'
      isSymbolic := t.has 's'
      backup? := backup? }
  let bare (s : String) : String :=
    let cs := Text.dropTail (· == '/') s.toList
    if cs.isEmpty then s else String.ofList cs
  let sources := if t.has '\x04' then sources.map bare else sources
  x.copyAll hasParents goal sources [] []

/-! ## Moving -/

/-- How files are moved. -/
structure MoveStyle where
  overwriting : Overwriting
  update? : Option String
  verbose : Bool
  backup? : Option Backup

namespace MoveStyle

/-- Moves one file; `made` is which files were moved before. -/
def move (x : MoveStyle) (made : List Nat) (source goal : String) : Work Unit := do
  match ← act (Act.lookAtLink source) with
  | .error e => warn ("cannot stat " ++ quoted source ++ ": " ++ e.words)
  | .ok i =>
    let shown := quoted source ++ " -> " ++ quoted goal
    let rename (note : String) : Work Unit := do
      match ← act (Act.doing (.rename source goal)) with
      | .ok () => if x.verbose then putLine ("renamed " ++ shown ++ note)
      | .error .invalid =>
        warn ("cannot move " ++ quoted source ++ " to a subdirectory of itself, " ++ quoted goal)
      | .error .notEmpty => warn ("cannot overwrite " ++ quoted goal ++ ": Directory not empty")
      | .error e => warn ("cannot move " ++ quoted source ++ " to " ++ quoted goal ++ ": " ++ e.words)
    match (← act (Act.lookAtLink goal)).toOption with
    | none => rename ""
    | some g =>
      let isOlder := decide (i.modified ≤ g.modified)
      if x.overwriting = .never then
        warn ("not replacing " ++ quoted goal)
      else if g.id = i.id && (i.kind != .dir || lastName source = lastName goal) && x.backup?.isNone &&
          !(i.kind = .dir && goal.toList.length > source.toList.length) then
        warn (quoted source ++ " and " ++ quoted goal ++ " are the same file")
      else if i.kind != .dir && (x.update? = some "none" || (x.update? = some "older" && isOlder)) then
        pure ()
      else if ← (if x.overwriting = .asks then asks ("overwrite " ++ quoted goal) else pure true) then
        if g.kind = .dir && i.kind != .dir then
          warn ("cannot overwrite directory " ++ quoted goal ++ " with non-directory")
        else if g.kind != .dir && i.kind = .dir then
          warn ("cannot overwrite non-directory " ++ quoted goal ++ " with directory " ++ quoted source)
        else if made.contains g.id then
          warn ("will not overwrite just-created " ++ quoted goal ++ " with " ++ quoted source)
        else
          match x.backup? with
          | none => rename ""
          | some b =>
            let name ← b.keep goal
            rename (" (backup: " ++ quoted name ++ ")")
      else fails

/-- Moves files one after the other. -/
def moveAll (x : MoveStyle) (goal : Goal) : List String → List Nat → Work Unit
  | [], _ => pure ()
  | source :: rest, made => do
    let info? := (← act (Act.lookAtLink source)).toOption
    x.move made source (goal.path source)
    x.moveAll goal rest ((info?.map (·.id)).toList ++ made)

end MoveStyle

/-- Moves files. -/
def mv (words : List String) : Work Unit := do
  let g := grammar "bfint:uvTS:Z" [("force", 'f'), ("interactive", 'i'), ("no-clobber", 'n'),
    ("target-directory", 't'), ("no-target-directory", 'T'), ("verbose", 'v'), ("suffix", 'S')]
  let g := { g with names := ("update", 'u', .perhaps) :: ("backup", 'b', .perhaps) ::
    ("strip-trailing-slashes", '\x04', .nothing) :: ("no-copy", '\x02', .nothing) :: g.names }
  let t ← readOptions g words
  let update? ← updateOf t
  let backup? ← Backup.of? t
  let (sources, goal) ← goalOf t
  let x : MoveStyle :=
    { overwriting := match t.last? ['n', 'f', 'i'] with
        | some 'n' => .never
        | some 'i' => .asks
        | _ => .always
      update? := update?
      verbose := t.has 'v'
      backup? := backup? }
  x.moveAll goal sources []

/-! ## Other names -/

/-- How files are given other names. -/
structure LinkStyle where
  isSymbolic : Bool
  isRelative : Bool
  /-- Whether names of links stand for what the links lead to. -/
  follows : Bool
  overwriting : Overwriting
  verbose : Bool
  backup? : Option Backup

namespace LinkStyle

/-- The target that a link is given. -/
def target (x : LinkStyle) (source path : String) : Work String := do
  if !x.isRelative then return source
  else
    let cs := path.toList
    let last := (cs.reverse.takeWhile (· != '/')).reverse
    let dir := String.ofList (cs.take (cs.length - last.length))
    match ← act (resolved .none (if dir = "" then "." else dir)), ← act (resolved .none source) with
    | .ok dir, .ok path => return relativePath dir path
    | _, _ => return source

/-- Makes a name; what is there already is kept under another name or goes. -/
def make (x : LinkStyle) (source path : String) (isThere : Bool) : Work Unit := do
  let kept? ← match isThere, x.backup? with
    | true, some b => do pure (some (← b.keep path))
    | true, none => do
      if x.overwriting != .never then
        let _ ← act (Act.doing (.remove path))
      pure none
    | false, _ => pure none
  let target ← x.target source path
  let file ← if x.follows then act (behindLinks source) else pure source
  let request : Request := if x.isSymbolic then .makeLink target path else .addName file path
  match ← act (Act.doing request) with
  | .ok () =>
    if x.verbose then
      let kept := match kept? with
        | some name => quoted name ++ " ~ "
        | none => ""
      putLine (kept ++ quoted path ++ (if x.isSymbolic then " -> " else " => ") ++ quoted target)
  | .error e =>
    if x.isSymbolic then
      warn ("failed to create symbolic link " ++ quoted path ++
        (if target = "" then " -> ''" else "") ++ ": " ++ e.words)
    else
      warn ("failed to create hard link " ++ quoted path ++
        (if e = .alreadyThere then "" else " => " ++ quoted source) ++ ": " ++ e.words)

/-- Gives a file another name. -/
def link (x : LinkStyle) (source path : String) : Work Unit := do
  let info ← act (if x.isSymbolic || x.follows then Act.look source else Act.lookAtLink source)
  match x.isSymbolic, info with
  | false, .error e => warn ("failed to access " ++ quoted source ++ ": " ++ e.words)
  | _, info =>
    let info? := info.toOption
    if !x.isSymbolic && (info?.map (·.kind)) = some .dir then
      warn (Text.quotedIfNeeded source ++ ": hard link not allowed for directory")
    else
      let there? := (← act (Act.lookAtLink path)).toOption
      let replaces := x.overwriting != .never || x.backup?.isSome
      let isSame := match info?, there? with
        | some i, some g => i.id = g.id && (i.names = 1 || lastName source = lastName path)
        | _, _ => false
      if replaces && (there?.map (·.kind)) = some .dir then
        warn (Text.quotedIfNeeded path ++ ": cannot overwrite directory")
      else if replaces && isSame then
        warn (quoted source ++ " and " ++ quoted path ++ " are the same file")
      else if there?.isSome && x.overwriting = .asks then
        if ← asks ("replace " ++ quoted path) then x.make source path there?.isSome
        else fails
      else x.make source path there?.isSome

end LinkStyle

/-- Gives files other names. -/
def ln (words : List String) : Work Unit := do
  let g := grammar "bdfFinrst:vLPTS:"
    [("force", 'f'), ("interactive", 'i'), ("symbolic", 's'), ("verbose", 'v'),
     ("target-directory", 't'), ("no-target-directory", 'T'), ("no-dereference", 'n'),
     ("logical", 'L'), ("physical", 'P'), ("relative", 'r'), ("suffix", 'S'), ("directory", 'd')]
  let g := { g with names := ("backup", 'b', .perhaps) :: g.names }
  let t ← readOptions g words
  let backup? ← Backup.of? t
  let x : LinkStyle :=
    { isSymbolic := t.has 's'
      isRelative := t.has 'r'
      follows := t.last? ['L', 'P'] = some 'L'
      overwriting := match t.last? ['f', 'i'] with
        | some 'f' => .always
        | some _ => .asks
        | none => .never
      verbose := t.has 'v'
      backup? := backup? }
  let keepsLink (path : String) : Work Bool := do
    if t.has 'n' then
      return ((← act (Act.lookAtLink path)).toOption.map (·.kind)) = some .link
    else return false
  let isGoal (path : String) : Work Bool := do
    return (← act (isDirectory path)) && !(← keepsLink path)
  let operands := t.operands
  if operands.isEmpty then misuse "missing file operand"
  if x.isRelative && !x.isSymbolic then
    die "cannot do --relative without --symbolic"
  if t.has 'T' then
    if t.has 't' then
      die "cannot combine --target-directory and --no-target-directory"
    match operands with
    | [a] => misuse ("missing destination file operand after " ++ quoted a)
    | _ :: _ :: extra :: _ => misuse ("extra operand " ++ quoted extra)
    | _ => pure ()
  if 1 < (t.options.filter fun o => o.key == 't').length then
    die "multiple target directories specified"
  let (sources, goal) ← match t.word? 't', operands with
    | some dir, all =>
      match ← act (Act.look dir) with
      | .ok i =>
        if i.kind = .dir then pure (all, Goal.into dir)
        else die ("target directory " ++ quoted dir ++ ": Not a directory")
      | .error e => die ("target directory " ++ quoted dir ++ ": " ++ e.words)
    | none, [a] => pure ([a], .into ".")
    | none, [a, b] =>
      if !t.has 'T' && (← isGoal b) then pure ([a], .into b) else pure ([a], .to b)
    | none, all =>
      let last := all.getLast?.getD ""
      if ← isGoal last then pure (all.dropLast, .into last)
      else
        match ← act (Act.look last) with
        | .ok _ => die ("target " ++ quoted last ++ ": Not a directory")
        | .error e => die ("target " ++ quoted last ++ ": " ++ e.words)
  sources.forM fun s => x.link s (goal.path s)

end LintLedger.Utility
