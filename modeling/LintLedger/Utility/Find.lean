import LintLedger.Utility.Grep
import LintLedger.Utility.Launching
import LintLedger.Utility.Listing
import LintLedger.Utility.Mode

/-!
# Finding files

Directories are gone through with all that is in them, and tests tell what is done with each
file.

## Main Definitions

* `Test` -- what is asked about a file, or done with it
* `Search` -- where to look, and for what
* `find` -- finds files
-/

namespace LintLedger.Utility.Find

open LintLedger.Machine

/-- A number, or all that are greater or less. -/
structure Measure where
  sign? : Option Char
  n : Nat
deriving DecidableEq, Repr

/-- Whether a number is meant. -/
def Measure.holds (m : Measure) (n : Nat) : Bool :=
  match m.sign? with
  | some '+' => m.n < n
  | some _ => n < m.n
  | none => n = m.n

/-- How permissions are compared with some bits. -/
inductive Bits where
  | exactly
  | allOf
  | anyOf
deriving DecidableEq, Repr

/-- What is asked about a file, or done with it.  A test holds or does not. -/
inductive Test where
  | constant (b : Bool)
  | name (pattern : List Char) (folds : Bool)
  | path (pattern : List Char) (folds : Bool)
  | target (pattern : List Char)
  | regex (r : Regex) (folds : Bool)
  | kind (letters : List Char)
  | isEmpty
  | size (m : Measure) (unit : Nat)
  | newer (time : Int)
  | age (m : Measure) (unit : Nat) (roundsUp : Bool)
  | mode (b : Bits) (mode : Nat)
  | links (m : Measure)
  | isExecutable
  | print (stop : String)
  | printFormat (format : List Char)
  | delete
  | prune
  | quit
  | exec (words : List String)
  /-- A program that is begun once, for many files. -/
  | execTogether (number : Nat) (words : List String)
  | not (a : Test)
  | and (a b : Test)
  | or (a b : Test)
  /-- Both, of which the second counts. -/
  | both (a b : Test)

/-! ## Reading -/

/-- What is read of tests. -/
structure Reading where
  rest : List String
  maxDepth : Nat
  minDepth : Nat
  /-- Whether a directory comes after what is in it. -/
  isDepthFirst : Bool
  /-- Whether a test says what is done. -/
  hasAction : Bool
  /-- The programs that are begun for many files. -/
  together : Nat
  dialect : Regex.Dialect
  /-- The word before. -/
  last : String
  now : Nat

/-- An activity of the reader. -/
abbrev Read := StateT Reading Work

/-- A word in a quotation mark and an apostrophe. -/
def marked (w : String) : String := "\x60" ++ w ++ "'"

/-- The next word, which is what a test asks for. -/
def argument (test : String) : Read String := do
  match (← get).rest with
  | w :: rest =>
    modify fun s => { s with rest := rest, last := test }
    return w
  | [] => die ("missing argument to " ++ marked test)

/-- A number that a test asks for. -/
def measure (test : String) : Read Measure := do
  let w ← argument test
  let (sign?, digits) : Option Char × List Char := match w.toList with
    | '+' :: rest => (some '+', rest)
    | '-' :: rest => (some '-', rest)
    | cs => (none, cs)
  match Text.natOf? digits with
  | some n => return ⟨sign?, n⟩
  | none => die ("invalid argument " ++ marked w ++ " to " ++ marked test)

/-- How deep a search goes, as a test says. -/
def depthOf (test : String) : Read Nat := do
  let w ← argument test
  match decimal? w with
  | some n => return n
  | none =>
    die ("Expected a positive decimal integer argument to " ++ test ++ ", but got " ++ quoted w)

/-- The words of a program that a test begins, and whether many files go to it. -/
def programWords (test : String) : Nat → List String → Read (List String × Bool)
  | 0, _ => die ("missing argument to " ++ marked test)
  | turns + 1, done => do
    match (← get).rest with
    | [] => die ("missing argument to " ++ marked test)
    | w :: rest =>
      modify fun s => { s with rest := rest, last := test }
      if w = ";" then
        if done.isEmpty then die ("missing argument to " ++ marked test)
        else return (done.reverse, false)
      else if w = "+" && done.head? = some "\x7b\x7d" then return (done.tail.reverse, true)
      else programWords test turns (w :: done)

/-- How many bytes a unit of sizes has, by its letter. -/
def unitOf? : List Char → Option Nat
  | [] => some 512
  | ['b'] => some 512
  | ['c'] => some 1
  | ['w'] => some 2
  | ['k'] => some 1024
  | ['M'] => some 1048576
  | ['G'] => some 1073741824
  | _ => none

/-- Bits of permissions that a word tells. -/
def bitsOf (w : String) : Read Nat := do
  match readModeChange? w with
  | some c => return c.apply 0 false 0
  | none => die ("invalid mode " ++ quoted w)

/-- How long a day is in nanoseconds. -/
def dayLength : Nat := 86400000000000

/-- How long a minute is in nanoseconds. -/
def minuteLength : Nat := 60000000000

/-- Reads a test after its name. -/
def readTest (test : String) : Read Test := do
  let acts (x : Test) : Read Test := do
    modify fun s => { s with hasAction := true }
    return x
  let text : Read (List Char) := do return (← argument test).toList
  let timeOf (w : String) : Read Int := do
    match ← act (Act.lookAtLink w) with
    | .ok i => return i.modified
    | .error e => die (quoted w ++ ": " ++ e.words)
  let regex (folds : Bool) : Read Test := do
    let w ← argument test
    match Regex.read (← get).dialect w.toList with
    | .ok x => return .regex x.regex folds
    | .error e => die ("failed to compile regular expression " ++ quoted w ++ ": " ++ e.words)
  match test with
  | "-name" => return .name (← text) false
  | "-iname" => return .name (← text) true
  | "-path" => return .path (← text) false
  | "-wholename" => return .path (← text) false
  | "-ipath" => return .path (← text) true
  | "-iwholename" => return .path (← text) true
  | "-lname" => return .target (← text)
  | "-regex" => regex false
  | "-iregex" => regex true
  | "-regextype" =>
    let w ← argument test
    let isBasic := ["emacs", "posix-basic", "grep", "sed", "ed", "findutils-default"].contains w
    modify fun s => { s with dialect := if isBasic then basicDialect else extendedDialect }
    return .constant true
  | "-type" =>
    let letters := (← text).filter (· != ',')
    match letters.find? fun c => !"fdlpscb".toList.contains c with
    | some c => die ("Unknown argument to -type: " ++ String.singleton c)
    | none => return .kind letters
  | "-empty" => return .isEmpty
  | "-size" =>
    let w ← argument test
    let (sign?, cs) : Option Char × List Char := match w.toList with
      | '+' :: rest => (some '+', rest)
      | '-' :: rest => (some '-', rest)
      | cs => (none, cs)
    let digits := cs.takeWhile Char.isDigit
    match Text.natOf? digits, unitOf? (cs.drop digits.length) with
    | some n, some unit => return .size ⟨sign?, n⟩ unit
    | _, _ => die ("invalid -size type " ++ marked w)
  | "-newer" => return .newer (← timeOf (← argument test))
  | "-mtime" => return .age (← measure test) dayLength false
  | "-mmin" => return .age (← measure test) minuteLength true
  | "-perm" =>
    let w ← argument test
    match w.toList with
    | '-' :: rest => return .mode .allOf (← bitsOf (String.ofList rest))
    | '/' :: rest => return .mode .anyOf (← bitsOf (String.ofList rest))
    | _ => return .mode .exactly (← bitsOf w)
  | "-links" => return .links (← measure test)
  | "-executable" => return .isExecutable
  | "-readable" => return .constant true
  | "-writable" => return .constant true
  | "-user" =>
    let w ← argument test
    return .constant (w = "root" || w = "0")
  | "-group" =>
    let w ← argument test
    return .constant (w = "root" || w = "0")
  | "-true" => return .constant true
  | "-false" => return .constant false
  | "-maxdepth" =>
    let n ← depthOf test
    modify fun s => { s with maxDepth := n }
    return .constant true
  | "-mindepth" =>
    let n ← depthOf test
    modify fun s => { s with minDepth := n }
    return .constant true
  | "-depth" =>
    modify fun s => { s with isDepthFirst := true }
    return .constant true
  | "-print" => acts (.print "\n")
  | "-print0" => acts (.print "\x00")
  | "-printf" => acts (.printFormat (← text))
  | "-delete" =>
    modify fun s => { s with isDepthFirst := true }
    acts .delete
  | "-prune" => return .prune
  | "-quit" => return .quit
  | "-exec" =>
    let (words, isTogether) ← programWords test ((← get).rest.length + 1) []
    if isTogether then
      let n := (← get).together
      modify fun s => { s with together := n + 1 }
      acts (.execTogether n words)
    else acts (.exec words)
  | _ =>
    if ["-xdev", "-mount", "-noleaf", "-follow", "-daystart", "-warn", "-nowarn"].contains test then
      return .constant true
    else die ("unknown predicate " ++ marked test)

/-- Whether a word is an operator between tests, or the end of a group. -/
def isBetween (w : String) : Bool := ["-o", "-or", ",", ")"].contains w

mutual

/-- Reads tests of which the last counts. -/
def readTests : Nat → Read Test
  | 0 => return .constant true
  | fuel + 1 => do
    let a ← readEither fuel
    match (← get).rest with
    | "," :: rest =>
      modify fun s => { s with rest := rest, last := "," }
      return .both a (← readTests fuel)
    | _ => return a

/-- Reads tests of which one has to hold. -/
def readEither : Nat → Read Test
  | 0 => return .constant true
  | fuel + 1 => do
    let a ← readAll fuel
    match (← get).rest with
    | w :: rest =>
      if w = "-o" || w = "-or" then
        modify fun s => { s with rest := rest, last := w }
        return .or a (← readEither fuel)
      else return a
    | [] => return a

/-- Reads tests that all have to hold. -/
def readAll : Nat → Read Test
  | 0 => return .constant true
  | fuel + 1 => do
    let a ← readOne fuel
    match (← get).rest with
    | [] => return a
    | w :: rest =>
      if isBetween w then return a
      else
        if w = "-a" || w = "-and" then modify fun s => { s with rest := rest, last := w }
        return .and a (← readAll fuel)

/-- Reads one test, or a group. -/
def readOne : Nat → Read Test
  | 0 => return .constant true
  | fuel + 1 => do
    let s ← get
    match s.rest with
    | [] => die ("expected an expression after " ++ quoted s.last)
    | w :: rest =>
      set { s with rest := rest, last := w }
      if w = "!" || w = "-not" then return .not (← readOne fuel)
      else if w = "(" then
        if rest.head? = some ")" then
          die "invalid expression; empty parentheses are not allowed."
        let a ← readTests fuel
        match (← get).rest with
        | ")" :: rest =>
          modify fun s => { s with rest := rest, last := ")" }
          return a
        | _ =>
          die "invalid expression; I was expecting to find a ')' somewhere but did not see one."
      else if w = ")" then die "you have too many ')'"
      else if isBetween w || w = "-a" || w = "-and" then
        die ("invalid expression; you have used a binary operator " ++ quoted w ++
          " with nothing before it.")
      else if w.toList.head? = some '-' then readTest w
      else
        complain ("paths must precede expression: " ++ marked w)
        if ["-name", "-iname", "-path", "-type"].contains s.last then
          complain ("possible unquoted pattern after predicate " ++ marked s.last ++ "?")
        leave 1

end

/-! ## Visiting -/

/-- A file that is visited. -/
structure Visit where
  path : String
  /-- Where the search began. -/
  start : String
  depth : Nat
  info : FileInfo

/-- The name of a file. -/
def Visit.name (v : Visit) : String := lastName v.path

/-- Where to look, and for what. -/
structure Search where
  launch : Launch
  environment : Variables
  test : Test
  followsAll : Bool
  followsFirst : Bool
  maxDepth : Nat
  minDepth : Nat
  isDepthFirst : Bool
  now : Nat

/-- What is kept during a search. -/
structure Finding where
  /-- Whether what is in the directory is not visited. -/
  isPruned : Bool
  isOver : Bool
  /-- The files for programs that are begun for many of them, the last one first. -/
  together : Array (List String × List String)

/-- An activity of a search. -/
abbrev Seek := StateT Finding Work

/-- Begins a program and waits for it; the value is whether it succeeds. -/
def begin (x : Search) (words : List String) : Work Bool := do
  flush
  let child ← act (Act.fork (Work.program 1 ["find"] fun _ => do
    let e ← act (takeOver x.launch x.environment words)
    complain (quoted (words.headD "") ++ ": " ++ e.words)
    leave 1))
  match ← act (Act.wait (some child) .deaf) with
  | .ok (some (_, .exited 0)) => return true
  | _ => return false

/-- Whether a pattern fits a text, letters taken as they are or in either case. -/
def fitsName (pattern : List Char) (folds : Bool) (s : String) : Bool :=
  if folds then Shell.Pattern.fits (pattern.map Char.toLower) (s.toList.map Char.toLower)
  else Shell.Pattern.fits pattern s.toList

/-- The letter of a kind of file. -/
def letterOf : Disk.Kind → Char
  | .file => 'f'
  | .dir => 'd'
  | .link => 'l'
  | .device => 'c'
  | .pipe => 'p'

/-- The target of a link. -/
def targetOf (path : String) : Work String := do
  return ((← act (Act.text (.linkTarget path))).toOption).getD ""

/-- What a letter in a format stands for. -/
def valueFor? (v : Visit) (c : Char) : Work (Option String) := do
  match c with
  | 'p' => return some v.path
  | 'f' => return some v.name
  | 'h' => return some (if v.path.toList.contains '/' then holder v.path else ".")
  | 'H' => return some v.start
  | 'P' =>
    return some (String.ofList ((v.path.toList.drop v.start.length).dropWhile (· == '/')))
  | 's' => return some (toString v.info.size)
  | 'b' => return some (toString (2 * blocksOf v.info))
  | 'k' => return some (toString (blocksOf v.info))
  | 'm' => return some (String.ofList (Nat.toDigits 8 v.info.mode))
  | 'M' => return some (kindLetter v.info.kind ++ modeText v.info.mode)
  | 'y' => return some (String.singleton (letterOf v.info.kind))
  | 'Y' =>
    match ← act (Act.look v.path) with
    | .ok i => return some (String.singleton (letterOf i.kind))
    | .error _ => return some "N"
  | 'd' => return some (toString v.depth)
  | 'n' => return some (toString v.info.names)
  | 'i' => return some (toString v.info.id)
  | 'l' => if v.info.kind = .link then return some (← targetOf v.path) else return some ""
  | 'u' => return some "root"
  | 'g' => return some "root"
  | 'U' => return some "0"
  | 'G' => return some "0"
  | _ => return none

/-- A format filled with what is known of a file. -/
def fillFormat (v : Visit) : Nat → List Char → Work Unit
  | 0, _ => pure ()
  | _, [] => pure ()
  | fuel + 1, '%' :: '%' :: rest => do
    put "%"
    fillFormat v fuel rest
  | fuel + 1, '%' :: rest => do
    let flags := rest.takeWhile fun c => "-+ #0".toList.contains c
    let after := rest.drop flags.length
    let width := after.takeWhile Char.isDigit
    let after := after.drop width.length
    match after with
    | [] => put "%"
    | c :: more =>
      match ← valueFor? v c with
      | some s =>
        let d : Text.Directive :=
          { left := flags.contains '-', width := Text.natOfDigits width, kind := 's' }
        put (d.text s)
      | none => put (String.ofList ('%' :: (flags ++ width ++ [c])))
      fillFormat v fuel more
  | fuel + 1, '\\' :: rest => do
    match rest with
    | 'c' :: _ => pure ()
    | '\\' :: rest =>
      put "\\"
      fillFormat v fuel rest
    | rest =>
      match Regex.escapeAt? rest with
      | some (c, n) =>
        put (String.singleton c)
        fillFormat v fuel (rest.drop n)
      | none =>
        put "\\"
        fillFormat v fuel rest
  | fuel + 1, c :: rest => do
    put (String.singleton c)
    fillFormat v fuel rest

/-- Whether a test holds of a file; what it does is done. -/
def holds (x : Search) (v : Visit) : Test → Seek Bool
  | .constant b => return b
  | .name p folds => return fitsName p folds v.name
  | .path p folds => return fitsName p folds v.path
  | .target p => do
    if v.info.kind = .link then return fitsName p false (← targetOf v.path) else return false
  | .regex r folds => do
    let s : Regex.Subject := { chars := v.path.toList.toArray, foldsCase := folds }
    return (Regex.spans s r.looksBack r ⟨0, []⟩).any fun p => p.finish = s.chars.size
  | .kind letters => return letters.contains (letterOf v.info.kind)
  | .isEmpty => do
    if v.info.kind = .file then return v.info.size = 0
    else if v.info.kind = .dir then
      return ((← act (Act.names v.path)).toOption.getD [""]).isEmpty
    else return false
  | .size m unit => return m.holds ((v.info.size + unit - 1) / unit)
  | .newer time => return time < v.info.modified
  | .age m unit roundsUp =>
    let age := (Int.ofNat x.now - v.info.modified).toNat
    return m.holds ((if roundsUp then age + unit - 1 else age) / unit)
  | .mode b mode =>
    return match b with
      | .exactly => v.info.mode = mode
      | .allOf => v.info.mode &&& mode = mode
      | .anyOf => mode = 0 || v.info.mode &&& mode != 0
  | .links m => return m.holds v.info.names
  | .isExecutable => return v.info.kind = .dir || v.info.mode &&& 0o111 != 0
  | .print stop => do
    put (v.path ++ stop)
    return true
  | .printFormat format => do
    fillFormat v (format.length + 1) format
    return true
  | .delete => do
    if v.path = "." then return true
    else
      let request : Request := if v.info.kind = .dir then .removeDir v.path else .remove v.path
      match ← act (Act.doing request) with
      | .ok () => return true
      | .error e =>
        warn ("cannot delete " ++ quoted v.path ++ ": " ++ e.words)
        return false
  | .prune => do
    modify fun s => { s with isPruned := true }
    return true
  | .quit => do
    modify fun s => { s with isOver := true }
    return true
  | .exec words => do
    let fill (w : String) : String :=
      String.ofList (replacedIn ['\x7b', '\x7d'] v.path.toList (w.length + 1) w.toList)
    begin x (words.map fill)
  | .execTogether n words => do
    modify fun s =>
      { s with together := s.together.modify n fun t => (words, v.path :: t.2) }
    return true
  | .not a => do return !(← holds x v a)
  | .and a b => do
    if ← holds x v a then
      if (← get).isOver then return true else holds x v b
    else return false
  | .or a b => do
    if ← holds x v a then return true
    else if (← get).isOver then return true
    else holds x v b
  | .both a b => do
    let _ ← holds x v a
    if (← get).isOver then return true else holds x v b

/-- What is known of a file that is visited. -/
def infoOf (x : Search) (path : String) (depth : Nat) : Act (Except FileError FileInfo) := do
  if x.followsAll || (x.followsFirst && depth = 0) then
    match ← Act.look path with
    | .ok i => return .ok i
    | .error _ => Act.lookAtLink path
  else Act.lookAtLink path

/-- Visits a file with all that is in it, in at most so many turns. -/
def visit (x : Search) (start : String) : Nat → Nat → String → Seek Unit
  | 0, _, _ => pure ()
  | turns + 1, depth, path => do
    if (← get).isOver then pure ()
    else
      match ← act (infoOf x path depth) with
      | .error e => warn (quoted path ++ ": " ++ e.words)
      | .ok info =>
        let v : Visit := ⟨path, start, depth, info⟩
        let test : Seek Unit := do
          if x.minDepth ≤ depth && !(← get).isOver then
            let _ ← holds x v x.test
        modify fun s => { s with isPruned := false }
        if !x.isDepthFirst then test
        let isPruned := (← get).isPruned && !x.isDepthFirst
        if info.kind = .dir && depth < x.maxDepth && !isPruned then
          match ← act (Act.names path) with
          | .error e => warn (quoted path ++ ": " ++ e.words)
          | .ok names => names.forM fun name => visit x start turns (depth + 1) (pathIn path name)
        if x.isDepthFirst then test

/-- The options before the paths. -/
def takeOptions : List String → Bool → Bool → List String × Bool × Bool
  | "-L" :: rest, _, _ => takeOptions rest true true
  | "-H" :: rest, _, _ => takeOptions rest false true
  | "-P" :: rest, _, _ => takeOptions rest false false
  | "-O" :: rest, all, first => takeOptions rest all first
  | "--" :: rest, all, first => (rest, all, first)
  | rest, all, first => (rest, all, first)

/-- Whether a word begins tests. -/
def beginsTests (w : String) : Bool :=
  (w.toList.head? = some '-' && w != "-") || ["(", ")", "!", ","].contains w

/-- Finds files. -/
def find (launch : Launch) (environment : Variables) (words : List String) : Work Unit := do
  let (words, followsAll, followsFirst) := takeOptions words false false
  let paths := words.takeWhile fun w => !beginsTests w
  let rest := words.drop paths.length
  let now ← act (Act.numberOrZero .time)
  let reading : Reading :=
    { rest := rest
      maxDepth := treeDepth
      minDepth := 0
      isDepthFirst := false
      hasAction := false
      together := 0
      dialect := basicDialect
      last := ""
      now := now }
  let (test, r) ← if rest.isEmpty then pure (Test.constant true, reading)
    else do
      let (test, r) ← (readTests (10 * rest.length + 10)).run reading
      match r.rest with
      | ")" :: _ => die "you have too many ')'"
      | _ => pure (test, r)
  let x : Search :=
    { launch := launch
      environment := environment
      test := if r.hasAction then test else .and test (.print "\n")
      followsAll := followsAll
      followsFirst := followsFirst
      maxDepth := r.maxDepth
      minDepth := r.minDepth
      isDepthFirst := r.isDepthFirst
      now := now }
  let starts := if paths.isEmpty then ["."] else paths
  let search : Seek Unit := starts.forM fun path => visit x path (treeDepth + 1) 0 path
  let (_, s) ← search.run
    { isPruned := false, isOver := false, together := Array.replicate r.together ([], []) }
  s.together.toList.forM fun (command, files) => do
    if !files.isEmpty then
      if !(← begin x (command ++ files.reverse)) then fails

end LintLedger.Utility.Find
