import LintLedger.Utility.Calendar
import LintLedger.Utility.Listing
import LintLedger.Utility.Mode

/-!
# Programs that tell what is known

## Main Definitions

* `id`, `whoami`, `groupNames`, `uname`, `arch`, `tty` -- who and where
* `stat` -- what is known of files
* `factor` -- what numbers are made of
* `unlink`, `link` -- single names
* `dd` -- copies block by block
* `sync` -- nothing that could be seen
-/

namespace LintLedger.Utility

open LintLedger.Machine

/-! ## Who and where -/

/-- Prints who the program works for. -/
def identity (words : List String) : Work Unit := do
  let g := grammar "agGnruz" [("group", 'g'), ("groups", 'G'), ("name", 'n'), ("real", 'r'), ("user", 'u'), ("zero", 'z')]
  let t ← readOptions g words
  match t.operands with
  | w :: _ =>
    if w != "root" && w != "0" then die (quoted w ++ ": no such user")
  | [] => pure ()
  if t.has 'u' || t.has 'g' || t.has 'G' then putLine (if t.has 'n' then "root" else "0")
  else if t.has 'n' || t.has 'r' then
    die "printing only names or real IDs requires -u, -g, or -G"
  else putLine "uid=0(root) gid=0(root) groups=0(root)"

/-- Prints the name of whom the program works for. -/
def whoami (words : List String) : Work Unit := do
  let t ← readOptions { letters := [] } words
  match t.operands with
  | w :: _ => extraOperand w
  | [] => putLine "root"

/-- Prints the groups of users. -/
def groupNames (words : List String) : Work Unit := do
  let t ← readOptions { letters := [] } words
  if t.operands.isEmpty then putLine "root"
  else
    t.operands.forM fun w =>
      if w = "root" then putLine "root : root" else warn (quoted w ++ ": no such user")

/-- Prints the kind of machine. -/
def arch (words : List String) : Work Unit := do
  let t ← readOptions { letters := [] } words
  match t.operands with
  | w :: _ => extraOperand w
  | [] => putLine "x86_64"

/-- Sees to it that files are kept, as they always are. -/
def sync (words : List String) : Work Unit := do
  let t ← readOptions (grammar "df" [("data", 'd'), ("file-system", 'f')]) words
  if t.has 'd' && t.has 'f' then die "cannot specify both --data and --file-system"
  else if t.has 'd' && t.operands.isEmpty then die "--data needs at least one argument"
  else
    t.operands.forM fun path => do
      match ← act (Act.look path) with
      | .ok _ => pure ()
      | .error e => warn ("error opening " ++ quoted path ++ ": " ++ e.words)

/-- Prints what kind of system this is. -/
def uname (words : List String) : Work Unit := do
  let g := grammar "asnrvmpio"
    [("all", 'a'), ("kernel-name", 's'), ("nodename", 'n'), ("kernel-release", 'r'),
     ("kernel-version", 'v'), ("machine", 'm'), ("processor", 'p'), ("hardware-platform", 'i'),
     ("operating-system", 'o')]
  let t ← readOptions g words
  match t.operands with
  | w :: _ => extraOperand w
  | [] =>
    let facts : List (Char × String) :=
      [('s', "Linux"), ('n', "localhost"), ('r', "6.1.0"), ('v', "#1 SMP"), ('m', "x86_64"),
       ('p', "x86_64"), ('i', "x86_64"), ('o', "GNU/Linux")]
    let chosen := if t.has 'a' then facts
      else if t.options.isEmpty then facts.take 1
      else facts.filter fun f => t.has f.1
    putLine (" ".intercalate (chosen.map (·.2)))

/-- Tells that nobody sits at a terminal. -/
def tty (words : List String) : Work Unit := do
  let t ← readOptions (grammar "s" [("silent", 's'), ("quiet", 's')]) words
  match t.operands with
  | w :: _ => extraOperand w
  | [] =>
    if !t.has 's' then putLine "not a tty"
    leave 1

/-! ## Files -/

/-- The bits that tell the kind of a file. -/
def kindBits : Disk.Kind → Nat
  | .file => 0o100000
  | .dir => 0o040000
  | .link => 0o120000
  | .device => 0o020000
  | .pipe => 0o010000

/-- A point in time as it is known of files. -/
def fileTime (time : Int) : String :=
  (Moment.ofFileTime time).filled "%Y-%m-%d %H:%M:%S.%N %z"

/-- What a letter in a format stands for. -/
def fileFact? (path : String) (target : String) (i : FileInfo) (c : Char) : Option String :=
  let time := toString (Moment.ofFileTime i.modified).seconds
  match c with
  | 'a' => some (String.ofList (Nat.toDigits 8 i.mode))
  | 'A' => some (kindLetter i.kind ++ modeText i.mode)
  | 'b' => some (toString (2 * blocksOf i))
  | 'B' => some "512"
  | 'd' => some "1"
  | 'f' => some (String.ofList (Nat.toDigits 16 (kindBits i.kind + i.mode)))
  | 'F' => some (kindName i)
  | 'g' => some "0"
  | 'G' => some "root"
  | 'h' => some (toString i.names)
  | 'i' => some (toString i.id)
  | 'n' => some path
  | 'N' => some (quoted path ++ if i.kind = .link then " -> " ++ quoted target else "")
  | 'o' => some "4096"
  | 's' => some (toString i.size)
  | 'u' => some "0"
  | 'U' => some "root"
  | 'x' => some (fileTime i.modified)
  | 'X' => some time
  | 'y' => some (fileTime i.modified)
  | 'Y' => some time
  | 'z' => some (fileTime i.modified)
  | 'Z' => some time
  | 'w' => some "-"
  | 'W' => some "0"
  | '%' => some "%"
  | _ => none

/-- A format filled with what is known of a file. -/
def fileFormat (fact? : Char → Option String) (hasEscapes : Bool) : Nat → List Char → List Char
  | 0, _ => []
  | _, [] => []
  | fuel + 1, '%' :: rest =>
    let flags := rest.takeWhile fun c => "-+ #0".toList.contains c
    let after := rest.drop flags.length
    let width := after.takeWhile Char.isDigit
    match after.drop width.length with
    | [] => ['%']
    | c :: more =>
      let d : Text.Directive :=
        { left := flags.contains '-', width := Text.natOfDigits width, kind := 's' }
      let here := match fact? c with
        | some s =>
          if flags.contains '0' then "".pushn '0' (d.width - s.length) ++ s else d.text s
        | none => "?"
      here.toList ++ fileFormat fact? hasEscapes fuel more
  | fuel + 1, '\\' :: c :: rest =>
    if hasEscapes then
      match (match c with
        | 'n' => some '\n'
        | 't' => some '\t'
        | '\\' => some '\\'
        | '"' => some '"'
        | _ => none) with
      | some x => x :: fileFormat fact? hasEscapes fuel rest
      | none => '\\' :: c :: fileFormat fact? hasEscapes fuel rest
    else '\\' :: fileFormat fact? hasEscapes fuel (c :: rest)
  | fuel + 1, c :: rest => c :: fileFormat fact? hasEscapes fuel rest

/-- The format in which all is told that is known of a file. -/
def fullFormat (isLink : Bool) : String :=
  "  File: " ++ (if isLink then "%N" else "%n") ++ "\n  Size: %-10s\tBlocks: %-10b IO Block: %-6o %F\n" ++
  "Device: 0,%d\tInode: %-10i  Links: %h\nAccess: (%04a/%10A)  Uid: (%5u/%8U)   Gid: (%5g/%8G)\n" ++
  "Access: %x\nModify: %y\nChange: %z\n Birth: -\n"

/-- Prints what is known of files. -/
def stat (words : List String) : Work Unit := do
  let g := grammar "c:Lt" [("format", 'c'), ("dereference", 'L'), ("terse", 't')]
  let g := { g with names := ("printf", '\x01', .word) :: g.names }
  let t ← readOptions g words
  if t.operands.isEmpty then misuse "missing operand"
  else
    t.operands.forM fun path => do
      let info ← act (if path = "-" then Act.info (.describe 0)
        else if t.has 'L' then Act.look path else Act.lookAtLink path)
      match info with
      | .error e => warn ("cannot statx " ++ quoted path ++ ": " ++ e.words)
      | .ok i =>
        let target ← if i.kind = .link then do
            pure ((← act (Act.text (.linkTarget path))).toOption.getD "")
          else pure ""
        let fill (hasEscapes : Bool) (format : String) : String :=
          String.ofList
            (fileFormat (fileFact? path target i) hasEscapes (format.length + 1) format.toList)
        match t.last? ['c', '\x01'] with
        | some 'c' => putLine (fill false ((t.word? 'c').getD ""))
        | some _ => put (fill true ((t.word? '\x01').getD ""))
        | none => put (fill false (fullFormat (i.kind = .link)))

/-- Takes a name away. -/
def unlink (words : List String) : Work Unit := do
  let t ← readOptions { letters := [] } words
  match t.operands with
  | [] => misuse "missing operand"
  | [path] =>
    match ← act (Act.doing (.remove path)) with
    | .ok () => pure ()
    | .error e => die ("cannot unlink " ++ quoted path ++ ": " ++ e.words)
  | _ :: extra :: _ => extraOperand extra

/-- Gives a file one more name. -/
def link (words : List String) : Work Unit := do
  let t ← readOptions { letters := [] } words
  match t.operands with
  | [] => misuse "missing operand"
  | [path] => misuse ("missing operand after " ++ quoted path)
  | [old, new] =>
    match ← act (Act.doing (.addName old new)) with
    | .ok () => pure ()
    | .error e =>
      die ("cannot create link " ++ quoted new ++ " to " ++ quoted old ++ ": " ++ e.words)
  | _ :: _ :: extra :: _ => extraOperand extra

/-! ## Numbers -/

/-- The prime factors of a number, of which those below `k` were taken out. -/
def factorsFrom : Nat → Nat → Nat → List Nat
  | 0, _, n => [n]
  | fuel + 1, k, n =>
    if n ≤ 1 then []
    else if n < k * k then [n]
    else if n % k = 0 then k :: factorsFrom fuel k (n / k)
    else factorsFrom fuel (if k = 2 then 3 else k + 2) n

/-- Prints what numbers are made of. -/
def factor (words : List String) : Work Unit := do
  let t ← readOptions (grammar "h" [("exponents", 'h')]) words
  let all ← if t.operands.isEmpty then do
      let text := (← act (readInput "-")).toOption.getD ""
      pure ((Text.splitOnChar (fun c => c == ' ' || c == '\n' || c == '\t') text).filter (· != ""))
    else pure t.operands
  all.forM fun w =>
    match decimal? (if w.toList.head? = some '+' then String.ofList (w.toList.drop 1) else w) with
    | none => warn (quoted w ++ " is not a valid positive integer")
    | some n =>
      let factors := factorsFrom 10000000 2 n
      putLine (toString n ++ ":" ++ String.join (factors.map fun k => " " ++ toString k))

/-! ## Blocks -/

/-- How blocks are copied. -/
structure Blocks where
  input? : Option String := none
  output? : Option String := none
  inSize : Nat := 512
  outSize : Nat := 512
  count? : Option Nat := none
  skip : Nat := 0
  seek : Nat := 0
  conversions : List String := []
  status : String := ""

/-- What a word says about copying blocks. -/
def Blocks.read (x : Blocks) (word : String) : Work Blocks := do
  let name := String.ofList (word.toList.takeWhile (· != '='))
  let value := String.ofList (word.toList.drop (name.length + 1))
  if !word.toList.contains '=' then misuse ("unrecognized operand " ++ quoted word)
  else
    let number (f : Nat → Blocks) : Work Blocks := do
      match amount? "bcEGkKMPQRTwYZ" value with
      | some n => return f n
      | none => die ("invalid number: " ++ quoted value)
    match name with
    | "if" => return { x with input? := some value }
    | "of" => return { x with output? := some value }
    | "bs" => number fun n => { x with inSize := n, outSize := n }
    | "ibs" => number fun n => { x with inSize := n }
    | "obs" => number fun n => { x with outSize := n }
    | "count" => number fun n => { x with count? := some n }
    | "skip" => number fun n => { x with skip := n }
    | "seek" => number fun n => { x with seek := n }
    | "conv" => return { x with conversions := Text.splitOnChar (· == ',') value }
    | "status" => return { x with status := value }
    | "iflag" => return x
    | "oflag" => return x
    | _ => misuse ("unrecognized operand " ++ quoted word)

/-- Reads blocks of a size from a descriptor, at most so many; the value is all texts, the last
one first, with how many were whole and how many were not. -/
def readBlocks (d size : Nat) : Nat → List String → Nat → Nat → Act (List String × Nat × Nat)
  | 0, done, whole, part => pure (done, whole, part)
  | turns + 1, done, whole, part => do
    match ← Act.read d size with
    | .error _ => return (done, whole, part)
    | .ok "" => return (done, whole, part)
    | .ok text =>
      let isWhole := text.length = size
      readBlocks d size turns (text :: done) (if isWhole then whole + 1 else whole)
        (if isWhole then part else part + 1)

/-- Copies block by block. -/
def dd (words : List String) : Work Unit := do
  let x ← words.foldlM Blocks.read {}
  if x.inSize = 0 || x.outSize = 0 then die "invalid number: '0'"
  let d ← match x.input? with
    | none => pure 0
    | some path =>
      match ← act (Act.openFile path .input) with
      | .ok d => pure d
      | .error e => die ("failed to open " ++ quoted path ++ ": " ++ e.words)
  let out ← match x.output? with
    | none => pure 1
    | some path =>
      let mode : OpenMode :=
        { writes := true, creates := true, empties := !x.conversions.contains "notrunc" && x.seek = 0 }
      match ← act (Act.openFile path mode) with
      | .ok d => pure d
      | .error e => die ("failed to open " ++ quoted path ++ ": " ++ e.words)
  let _ ← act (readBlocks d x.inSize x.skip [] 0 0)
  if x.seek != 0 then
    let _ ← act (Act.ask (.seek out (Int.ofNat (x.seek * x.outSize)) .start))
  let (texts, whole, part) ← act (readBlocks d x.inSize (x.count?.getD Act.manyTurns) [] 0 0)
  let text := String.join texts.reverse
  let text := x.conversions.foldl (fun s c => match c with
    | "ucase" => String.ofList (s.toList.map Char.toUpper)
    | "lcase" => String.ofList (s.toList.map Char.toLower)
    | _ => s) text
  match ← act (Act.write out text) with
  | .ok () => pure ()
  | .error e =>
    complain ("error writing " ++ (match x.output? with
      | some path => quoted path
      | none => "'standard output'") ++ ": " ++ e.words)
    fails
  if x.status != "none" then
    let (outWhole, outPart) := if x.inSize = x.outSize then (whole, part)
      else (text.length / x.outSize, if text.length % x.outSize = 0 then 0 else 1)
    say (toString whole ++ "+" ++ toString part ++ " records in\n" ++
      toString outWhole ++ "+" ++ toString outPart ++ " records out\n")
    if x.status != "noxfer" then
      say (toString text.length ++ " byte" ++ (if text.length = 1 then "" else "s") ++
        " copied, 5e-05 s, 100 kB/s\n")

end LintLedger.Utility
