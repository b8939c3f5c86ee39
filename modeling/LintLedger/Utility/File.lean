import LintLedger.Utility.Calendar
import LintLedger.Utility.Mode

/-!
# Programs that change files

## Main Definitions

* `mkdir`, `mkfifo`, `rmdir`, `touch`, `mktemp` -- files are made, and directories removed
* `chmod`, `truncate` -- files are changed
-/

namespace LintLedger.Utility

open LintLedger.Machine

/-- The permissions that new files do not get. -/
def currentMask : Act Nat := Act.numberOrZero (.mask none)

/-! ## Making -/

/-- Makes directories on the way to a path that are missing. -/
def makeParents (verbose : Bool) (path : String) : List String → String → Work Bool
  | [], _ => pure true
  | name :: rest, done => do
    let here := done ++ name
    match ← act (Act.doing (.makeDir here 0o777)) with
    | .ok () =>
      if verbose then putLine ((← get).name ++ ": created directory " ++ quoted here)
      makeParents verbose path rest (here ++ "/")
    | .error e =>
      if ← act (isDirectory here) then makeParents verbose path rest (here ++ "/")
      else
        warn ("cannot create directory " ++ quoted (if e = .alreadyThere then here else path) ++
          ": " ++ (if e = .alreadyThere && !rest.isEmpty then "Not a directory" else e.words))
        return false

/-- Makes directories. -/
def mkdir (words : List String) : Work Unit := do
  let t ← readOptions (grammar "pm:vZ" [("parents", 'p'), ("mode", 'm'), ("verbose", 'v')]) words
  if t.operands.isEmpty then misuse "missing operand"
  else
    let change? ← match t.word? 'm' with
      | none => pure none
      | some w =>
        match readModeChange? w with
        | some c => pure (some c)
        | none => die ("invalid mode " ++ quoted w)
    t.operands.forM fun path => do
      let made ← if t.has 'p' then do
          let isAbsolute := path.toList.head? = some '/'
          let names := (Text.splitOnChar (· == '/') path).filter (· ≠ "")
          makeParents (t.has 'v') path names (if isAbsolute then "/" else "")
        else
          match ← act (Act.doing (.makeDir path 0o777)) with
          | .ok () =>
            if t.has 'v' then putLine ((← get).name ++ ": created directory " ++ quoted path)
            pure true
          | .error e =>
            warn ("cannot create directory " ++ quoted path ++ ": " ++ e.words)
            pure false
      match made, change? with
      | true, some c =>
        let mask ← act currentMask
        let _ ← act (Act.doing (.setMode path (c.apply mask true 0o777)))
      | _, _ => pure ()

/-- Makes pipes with names. -/
def mkfifo (words : List String) : Work Unit := do
  let t ← readOptions (grammar "m:Z" [("mode", 'm')]) words
  if t.operands.isEmpty then misuse "missing operand"
  else
    let mask ← act currentMask
    let mode? ← match t.word? 'm' with
      | none => pure none
      | some w =>
        match readModeChange? w with
        | none => die "invalid mode"
        | some c =>
          let mode := c.apply mask false 0o666
          if mode &&& 0o777 != mode then die "mode must specify only file permission bits"
          pure (some mode)
    t.operands.forM fun path => do
      match ← act (Act.doing (.makePipe path 0o666)) with
      | .error e => warn ("cannot create fifo " ++ quoted path ++ ": " ++ e.words)
      | .ok () =>
        match mode? with
        | some mode => let _ ← act (Act.doing (.setMode path mode))
        | none => pure ()

/-- Removes a directory and those above it as long as they are empty. -/
def removeUpwards (verbose quiet : Bool) : Nat → String → Work Unit
  | 0, _ => pure ()
  | turns + 1, path => do
    let bare := Text.dropTail (· == '/') path.toList
    let above := Text.dropTail (· == '/') (Text.dropTail (· != '/') bare)
    if above.isEmpty || path = "" then pure ()
    else
      let path := String.ofList above
      if verbose then putLine ((← get).name ++ ": removing directory, " ++ quoted path)
      match ← act (Act.doing (.removeDir path)) with
      | .ok () => removeUpwards verbose quiet turns path
      | .error e =>
        if !(quiet && e = .notEmpty) then
          warn ("failed to remove directory " ++ quoted path ++ ": " ++ e.words)

/-- Removes directories that are empty. -/
def rmdir (words : List String) : Work Unit := do
  let g := grammar "pv" [("parents", 'p'), ("verbose", 'v')]
  let g := { g with names := ("ignore-fail-on-non-empty", 'q', .nothing) :: g.names }
  let t ← readOptions g words
  if t.operands.isEmpty then misuse "missing operand"
  else
    t.operands.forM fun path => do
      if t.has 'v' then putLine ((← get).name ++ ": removing directory, " ++ quoted path)
      match ← act (Act.doing (.removeDir path)) with
      | .ok () => if t.has 'p' then removeUpwards (t.has 'v') (t.has 'q') path.length path
      | .error e =>
        if !(t.has 'q' && e = .notEmpty) then
          warn ("failed to remove " ++ quoted path ++ ": " ++ e.words)

/-- The time that a row of digits means: month, day, hour and minute, perhaps with a year before
them and seconds after them. -/
def stampedTime? (now : Moment) (word : String) : Option Moment := do
  let cs := word.toList
  let digits := cs.takeWhile Char.isDigit
  let seconds ← match cs.drop digits.length with
    | [] => some 0
    | ['.', a, b] => Text.natOf? [a, b]
    | _ => none
  let n := digits.length
  if !(n = 8 || n = 10 || n = 12) then none
  else
    let two (k : Nat) : Nat := Text.natOfDigits ((digits.drop k).take 2)
    let early := two 0
    let year : Int := if n = 8 then now.stamp.year
      else if n = 10 then Int.ofNat (if early < 69 then 2000 + early else 1900 + early)
      else Int.ofNat (100 * early + two 2)
    let k := n - 8
    if Timestamp.isDate year (two k) (two (k + 2)) && two (k + 4) < 24 && two (k + 6) < 60 &&
        seconds ≤ 60 then
      return ⟨86400 * daysTo year (two k) (two (k + 2)) +
        Int.ofNat (3600 * two (k + 4) + 60 * two (k + 6) + seconds), 0⟩
    else none

/-- Makes files, or tells that they were changed. -/
def touch (words : List String) : Work Unit := do
  let g := grammar "acd:fhmr:t:"
    [("no-create", 'c'), ("date", 'd'), ("reference", 'r'), ("no-dereference", 'h')]
  let g := { g with names := ("time", 'x', .word) :: g.names }
  let t ← readOptions g words
  let now ← act currentMoment
  let stamp? ← match t.word? 't' with
    | none => pure none
    | some w =>
      match stampedTime? now w with
      | some m => pure (some m)
      | none => die ("invalid date format " ++ quoted w)
  let start ← match t.word? 'r' with
    | none => pure now
    | some path =>
      match ← act (Act.look path) with
      | .ok i => pure (Moment.ofFileTime i.modified)
      | .error e => die ("failed to get attributes of " ++ quoted path ++ ": " ++ e.words)
  let m ← match t.word? 'd' with
    | none => pure start
    | some w =>
      match readMoment start w with
      | some m => pure m
      | none => die ("invalid date format " ++ quoted w)
  if stamp?.isSome && (t.has 'r' || t.has 'd') then
    misuse "cannot specify times from more than one source"
  let isNow := !(t.has 'd' || t.has 'r' || t.has 't')
  let time := if isNow then tick m.fileTime.toNat else (stamp?.getD m).fileTime
  let changesNothing := t.has 'a' && !t.has 'm'
  if t.operands.isEmpty then misuse "missing file operand"
  else
    t.operands.forM fun path => do
      if path = "-" then pure ()
      else
        let isMissing := match ← act (Act.look path) with
          | .ok _ => false
          | .error _ => true
        let made ← if !isMissing || t.has 'c' then pure true
          else
            match ← act (Act.openFile path { writes := true, creates := true }) with
            | .ok d => do
              act (Act.close d)
              pure true
            | .error .isDirectory => pure true
            | .error e => do
              warn ("cannot touch " ++ quoted path ++ ": " ++ e.words)
              pure false
        if made && (isMissing || !changesNothing) then
          match ← act (Act.doing (.setTime path time)) with
          | .ok () => pure ()
          | .error e =>
            if !(t.has 'c' && e = .missing) then
              warn ("setting times of " ++ quoted path ++ ": " ++ e.words)

/-- The characters of names that nobody has chosen. -/
def nameChars : List Char := (List.range 26).map fun i => Char.ofNat (97 + i)

/-- A name that nobody has chosen, by its number. -/
def madeUpName (length number : Nat) : String :=
  String.ofList ((List.range length).map fun i =>
    (nameChars[(number / Nat.pow 26 i + 7 * i) % 26]?).getD 'a')

/-- Makes the first file that is not there yet of made-up names, in at most so many turns. -/
def makeUp (isDir : Bool) (front back : String) (length : Nat) : Nat → Nat →
    Work (Except FileError String)
  | 0, _ => pure (.error .alreadyThere)
  | turns + 1, number => do
    let path := front ++ madeUpName length number ++ back
    let made ← if isDir then act (Act.doing (.makeDir path 0o700))
      else
        match ← act (Act.openFile path { writes := true, creates := true, isNew := true }) with
        | .ok d =>
          act (Act.close d)
          act (Act.doing (.setMode path 0o600))
        | .error e => pure (.error e)
    match made with
    | .ok () => return .ok path
    | .error .alreadyThere => makeUp isDir front back length turns (number + 1)
    | .error e => return .error e

/-- Makes a file or a directory with a name that nobody has chosen. -/
def mktemp (environment : List (String × String)) (words : List String) : Work Unit := do
  let g := grammar "dqtup:" [("directory", 'd'), ("quiet", 'q'), ("dry-run", 'u')]
  let g := { g with names := ("tmpdir", 'p', .perhaps) :: ("suffix", 'S', .word) :: g.names }
  let t ← readOptions g words
  let template := t.operands.headD "tmp.XXXXXXXXXX"
  let inDir := t.operands.isEmpty || t.has 't' || t.has 'p'
  let dir := ((t.word? 'p').orElse fun _ =>
    (environment.find? fun v => v.1 == "TMPDIR").map (·.2)).getD "/tmp"
  let back := Text.dropTail (· == 'X') template.toList
  let length := template.length - back.length
  if length < 3 then die ("too few X's in template " ++ quoted template)
  else
    let front := String.ofList back
    let front := if inDir then pathIn dir front else front
    let me ← act (Act.numberOrZero .self)
    match ← makeUp (t.has 'd') front ((t.word? 'S').getD "") length 1000 (me * 7919) with
    | .ok path => putLine path
    | .error e =>
      die ("failed to create " ++ (if t.has 'd' then "directory" else "file") ++ " via template " ++
        quoted (if inDir then pathIn dir template else template) ++ ": " ++ e.words)

/-! ## Changing -/

/-- Changes the permissions of what a path means, and of what is in it if asked for. -/
def changeMode (t : Taken) (c : ModeChange) (mask : Nat) : Nat → String → Work Unit
  | 0, _ => pure ()
  | depth + 1, path => do
    match ← act (Act.look path) with
    | .error e =>
      let dangles := (← act (Act.lookAtLink path)).toOption.isSome
      if !t.has 'f' then
        complain ((if dangles then "cannot operate on dangling symlink " ++ quoted path
          else "cannot access " ++ quoted path ++ ": " ++ e.words))
      if t.has 'v' then
        putLine (quoted path ++ " could not be accessed")
      fails
    | .ok i =>
      let isDir := i.kind = .dir
      let mode := c.apply mask isDir i.mode
      let _ ← act (Act.doing (.setMode path mode))
      if t.has 'v' || (t.has 'c' && mode != i.mode) then
        let octal (n : Nat) : String :=
          let digits := String.ofList (Nat.toDigits 8 n)
          "".pushn '0' (4 - digits.length) ++ digits
        if mode = i.mode then
          putLine ("mode of " ++ quoted path ++ " retained as " ++ octal mode ++ " (" ++ modeText mode ++ ")")
        else
          putLine ("mode of " ++ quoted path ++ " changed from " ++ octal i.mode ++ " (" ++
            modeText i.mode ++ ") to " ++ octal mode ++ " (" ++ modeText mode ++ ")")
      if t.has 'R' && isDir then
        let names := (← act (Act.names path)).toOption.getD []
        names.forM fun name => changeMode t c mask depth (pathIn path name)

/-- Changes permissions. -/
def chmod (words : List String) : Work Unit := do
  -- A word that begins with a dash and a letter of permissions takes them away.
  let isMode (w : String) : Bool :=
    match w.toList with
    | '-' :: c :: _ => "rwxXstugoa,+=01234567".toList.contains c
    | _ => false
  let before := words.takeWhile (· ≠ "--")
  let dashed := before.filter isMode
  let others := (before.filter fun w => !isMode w) ++ words.drop before.length
  let g := grammar "Rcfv" [("recursive", 'R'), ("changes", 'c'), ("quiet", 'f'), ("silent", 'f'),
    ("verbose", 'v')]
  let g := { g with names := ("reference", 'r', .word) :: g.names }
  let t ← readOptions g others
  let (mode?, paths) := match dashed, t.operands with
    | [], m :: rest => (some m, rest)
    | [], [] => (none, [])
    | ds, rest => (some (",".intercalate ds), rest)
  match mode?, paths with
  | none, _ => misuse "missing operand"
  | some m, [] =>
    match words.getLast? with
    | some w =>
      if isMode w && w.toList.head? = some '-' then misuse "missing operand"
      else misuse ("missing operand after " ++ quoted m)
    | none => misuse "missing operand"
  | some m, paths =>
    match readModeChange? m with
    | none => misuse ("invalid mode: " ++ quoted m)
    | some c =>
      let mask ← act currentMask
      paths.forM fun path => changeMode t c mask treeDepth path

/-- A size that is told in relation to another one, or by itself. -/
structure SizeChange where
  sign? : Option Char
  amount : Nat

/-- The size after a change. -/
def SizeChange.apply (c : SizeChange) (size : Nat) : Nat :=
  let n := c.amount
  match c.sign? with
  | some '+' => size + n
  | some '-' => size - n
  | some '<' => min size n
  | some '>' => max size n
  | some '/' => size / n * n
  | some '%' => (size + n - 1) / n * n
  | _ => n

/-- The change that a word tells after those before it. -/
def readSizeChange (before? : Option Char) (word : String) : Work SizeChange := do
  let cs := word.toList.dropWhile fun c => c == ' '
  let sign? := cs.head?.filter fun c => "<>/%".toList.contains c
  let cs := if sign?.isSome then (cs.drop 1).dropWhile (· == ' ') else cs
  let turn? := cs.head?.filter fun c => c == '+' || c == '-'
  if (sign?.or before?).isSome && turn?.isSome then misuse "multiple relative modifiers specified"
  let digits := if turn?.isSome then cs.drop 1 else cs
  match amount? "EgGkKmMPQRtTYZ" (String.ofList digits) with
  | none => die ("Invalid number: " ++ quoted (String.ofList cs))
  | some n =>
    let sign? := (turn?.or sign?).or before?
    if (sign? = some '/' || sign? = some '%') && n = 0 then die "division by zero"
    else return ⟨sign?, n⟩

/-- Cuts or fills files up to a size. -/
def truncate (words : List String) : Work Unit := do
  let t ← readOptions (grammar "cos:r:" [("size", 's'), ("no-create", 'c'), ("reference", 'r'),
    ("io-blocks", 'o')]) words
  let mut change? : Option SizeChange := none
  for o in t.options do
    if o.key == 's' then
      change? := some (← readSizeChange (change?.bind (·.sign?)) (o.word?.getD ""))
  let path? := t.word? 'r'
  match change?, path? with
  | none, none => misuse "you must specify either '--size' or '--reference'"
  | some c, some _ =>
    if c.sign?.isNone then misuse "you must specify a relative '--size' with '--reference'"
  | _, _ => pure ()
  if t.has 'o' && change?.isNone then misuse "'--io-blocks' was specified but '--size' was not"
  if t.operands.isEmpty then misuse "missing file operand"
  let reference? ← match path? with
    | none => pure none
    | some path =>
      match ← act (Act.look path) with
      | .ok i => pure (some i.size)
      | .error e => die ("cannot stat " ++ quoted path ++ ": " ++ e.words)
  let chosen := change?
  t.operands.forM fun path => do
    match ← act (Act.openFile path { writes := true, creates := !t.has 'c' }) with
    | .error e =>
      if !(t.has 'c' && e = .missing) then
        warn ("cannot open " ++ quoted path ++ " for writing: " ++ e.words)
    | .ok d =>
      act (Act.close d)
      let own := ((← act (Act.look path)).toOption.map (·.size)).getD 0
      let size := reference?.getD own
      let new := match chosen with
        | some c => c.apply size
        | none => size
      let _ ← act (Act.doing (.resize path new))

end LintLedger.Utility
