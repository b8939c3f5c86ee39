import LintLedger.Utility.Calendar
import LintLedger.Utility.Mode
import LintLedger.Utility.Sort
import LintLedger.Utility.Stream

/-!
# Listing directories

The names in directories are listed in order, one to a line or in another arrangement, with
what else is asked for about each.

## Main Definitions

* `Listing` -- how names are listed
* `Entry` -- a name with what is known of it
* `ls` -- lists directories
-/

namespace LintLedger.Utility

open LintLedger.Machine

/-- How names are arranged. -/
inductive Arrangement where
  | lines
  | long
  | commas
  /-- In columns, row after row if `across` is set. -/
  | columns (across : Bool)
deriving DecidableEq, Repr

/-- How names are listed. -/
structure Listing where
  taken : Taken
  arrangement : Arrangement
  /-- The formats of times that are recent, and of others. -/
  times : String × String
  now : Int

namespace Listing

/-- Whether an option was given. -/
def has (x : Listing) (c : Char) : Bool := x.taken.has c

end Listing

/-- A name with what is known of it. -/
structure Entry where
  name : String
  path : String
  info : FileInfo
  /-- Where it leads, if it is a link. -/
  target? : Option String

/-- A text between quotation marks. -/
def doubleQuoted (s : String) : String :=
  let piece (c : Char) : List Char :=
    if c == '"' || c == '\\' then ['\\', c]
    else if Text.isPrintable c then [c]
    else Text.escapedByte c
  "\"" ++ String.ofList (s.toList.flatMap piece) ++ "\""

/-- A name with a backslash before what is no plain character. -/
def escapedName (s : String) : String :=
  String.ofList (s.toList.flatMap fun c =>
    if c == ' ' || c == '\\' then ['\\', c]
    else if Text.isPrintable c then [c]
    else Text.escapedByte c)

/-- The mark that tells what an entry is. -/
def Listing.mark (x : Listing) (kind : Disk.Kind) (mode : Nat) : String :=
  let isFull := x.has 'F'
  if kind = .dir then (if isFull || x.has 'p' || x.has '\x01' then "/" else "")
  else if !isFull && !x.has '\x01' then ""
  else if kind = .link then "@"
  else if kind = .pipe then "|"
  else if isFull && kind = .file && mode &&& 0o111 != 0 then "*"
  else ""

/-- A name as it is shown, without a mark. -/
def Listing.shownName (x : Listing) (name : String) : String :=
  match x.taken.last? ['Q', 'N', 'b', 'q'] with
  | some 'Q' => doubleQuoted name
  | some 'b' => escapedName name
  | some 'q' =>
    String.ofList (name.toList.map fun c => if Text.isPrintable c then c else '?')
  | _ => name

/-- How many blocks a file takes. -/
def blocksOf (i : FileInfo) : Nat :=
  if i.kind = .dir then 4 else if i.kind = .file then (i.size + 4095) / 4096 * 4 else 0

/-- An entry as it is shown. -/
def Listing.shown (x : Listing) (e : Entry) : String :=
  let number := if x.has 'i' then toString e.info.id ++ " " else ""
  let blocks := if x.has 's' then toString (blocksOf e.info) ++ " " else ""
  number ++ blocks ++ x.shownName e.name ++ x.mark e.info.kind e.info.mode

/-- The letter of a kind of file. -/
def kindLetter : Disk.Kind → String
  | .file => "-"
  | .dir => "d"
  | .link => "l"
  | .device => "c"
  | .pipe => "p"

/-- A number of bytes with a unit, rounded up. -/
def humanSize (n : Nat) : String :=
  let units : List String := ["K", "M", "G", "T", "P", "E"]
  let rec go : List String → Nat → String
    | [], _ => toString n
    | unit :: rest, size =>
      if n < size * 1024 || rest.isEmpty then
        let tenths := (10 * n + size - 1) / size
        if tenths < 100 then toString (tenths / 10) ++ "." ++ toString (tenths % 10) ++ unit
        else
          let whole := (n + size - 1) / size
          if whole = 1024 && !rest.isEmpty then "1.0" ++ rest.headD "" else toString whole ++ unit
      else go rest (size * 1024)
  if n < 1024 then toString n else go units 1024

/-- The time of an entry as it is shown. -/
def Listing.timeText (x : Listing) (i : FileInfo) : String :=
  let halfYear : Int := 15778476 * 1000000000
  let isRecent := x.now - halfYear < i.modified && i.modified ≤ x.now
  (Moment.ofFileTime i.modified).filled (if isRecent then x.times.1 else x.times.2)

/-- The formats of times that a word tells. -/
def timeFormats? (word : String) : Option (String × String) :=
  match word.toList with
  | '+' :: cs =>
    let recent := cs.takeWhile (· != '\n')
    match cs.drop recent.length with
    | _ :: other => some (String.ofList other, String.ofList recent)
    | [] => some (String.ofList cs, String.ofList cs)
  | _ =>
    match word with
    | "full-iso" => some ("%Y-%m-%d %H:%M:%S.%N %z", "%Y-%m-%d %H:%M:%S.%N %z")
    | "long-iso" => some ("%Y-%m-%d %H:%M", "%Y-%m-%d %H:%M")
    | "iso" => some ("%m-%d %H:%M", "%Y-%m-%d ")
    | "locale" => some ("%b %e %H:%M", "%b %e  %Y")
    | _ => none

/-- Entries with all that is known of them. -/
def Listing.longLines (x : Listing) (es : List Entry) : List String :=
  let greatest (f : Entry → Nat) : Nat :=
    (es.map fun e => (toString (f e)).length).foldl max 0
  let linkWidth := greatest (·.info.names)
  let size (e : Entry) : String :=
    if x.has 'h' then humanSize e.info.size else toString e.info.size
  let sizeWidth := (es.map fun e => (size e).length).foldl max 0
  es.map fun e =>
    let number := if x.has 'i' then toString e.info.id ++ " " else ""
    let blocks := if x.has 's' then toString (blocksOf e.info) ++ " " else ""
    let owner := if x.has 'n' then "0" else "root"
    let owners := (if x.has 'g' then "" else owner ++ " ") ++
      (if x.has 'o' || x.has 'G' then "" else owner ++ " ")
    let arrow := match e.target? with
      | some target => " -> " ++ x.shownName target
      | none => x.mark e.info.kind e.info.mode
    number ++ blocks ++ kindLetter e.info.kind ++ modeText e.info.mode ++ " " ++
      aligned linkWidth e.info.names ++ " " ++ owners ++
      "".pushn ' ' (sizeWidth - (size e).length) ++ size e ++ " " ++ x.timeText e.info ++ " " ++
      x.shownName e.name ++ arrow

/-! ## Arrangements -/

/-- How many characters a line has. -/
def lineWidth : Nat := 80

/-- Names with commas between them; `column` is where the next one begins. -/
def commaText (width : Nat) : Nat → List String → String
  | _, [] => "\n"
  | column, s :: rest =>
    if column = 0 then s ++ commaText width s.length rest
    else if width = 0 || column + 2 + s.length + 1 ≤ width then
      ", " ++ s ++ commaText width (column + 2 + s.length) rest
    else ",\n" ++ s ++ commaText width s.length rest

/-- The widths of columns if names are arranged in so many. -/
def columnWidths (across : Bool) (columns : Nat) (names : List String) : List Nat :=
  let rows := (names.length + columns - 1) / columns
  (List.range columns).map fun c =>
    let here := names.zipIdx.filter fun (_, i) =>
      (if across then i % columns else i / rows) == c
    let isLast := c + 1 = columns
    (here.map fun (s, _) => s.length + if isLast then 0 else 2).foldl max 0

/-- The greatest number of columns into which names fit. -/
def fittingColumns (across : Bool) (width : Nat) (names : List String) : Nat :=
  let fits (n : Nat) : Bool :=
    let widths := columnWidths across n names
    decide (widths.foldr (· + ·) 0 < width || n = 1) && (!across || decide (n ≤ names.length))
  (((List.range (min names.length (width / 3))).map (· + 1)).reverse.find? fits).getD 1

/-- The way from one column to another, with tabs where they are shorter than blanks. -/
def gap (tab : Nat) : Nat → Nat → Nat → String
  | 0, _, _ => ""
  | fuel + 1, here, goal =>
    if goal ≤ here then ""
    else if tab != 0 && (here + 1) / tab < goal / tab then
      "\t" ++ gap tab fuel (here + (tab - here % tab)) goal
    else " " ++ gap tab fuel (here + 1) goal

/-- One row of names, each with the width of its column. -/
def rowText (tab : Nat) : Nat → List (String × Nat) → String
  | _, [] => "\n"
  | _, [(s, _)] => s ++ "\n"
  | column, (s, width) :: rest =>
    s ++ gap tab (width + 1) (column + s.length) (column + width) ++ rowText tab (column + width) rest

/-- Names in columns. -/
def columnText (across : Bool) (width tab : Nat) (names : List String) : String :=
  if names.isEmpty then ""
  else
    let columns := fittingColumns across width names
    let rows := (names.length + columns - 1) / columns
    let widths := columnWidths across columns names
    let line (r : Nat) : String :=
      let here := (List.range columns).filterMap fun c =>
        let i := if across then r * columns + c else c * rows + r
        (names[i]?).map fun s => (s, (widths[c]?).getD 0)
      rowText tab 0 here
    String.join ((List.range rows).map line)

/-- Entries as they are arranged. -/
def Listing.text (x : Listing) (es : List Entry) : String :=
  let width := ((x.taken.word? 'w').bind decimal?).getD lineWidth
  match x.arrangement with
  | .long => String.join ((x.longLines es).map (· ++ "\n"))
  | .commas => if es.isEmpty then "" else commaText width 0 (es.map x.shown)
  | .columns across =>
    let tab := ((x.taken.word? 'T').bind decimal?).getD 8
    columnText across width tab (es.map x.shown)
  | .lines => String.join (es.map fun e => x.shown e ++ (if x.has '0' then "\x00" else "\n"))

/-! ## Order -/

/-- The ending of a name from its last dot on. -/
def endingOf (name : String) : List Char :=
  let back := name.toList.reverse.takeWhile (· != '.')
  if back.length = name.length then [] else '.' :: back.reverse

/-- Entries in order. -/
def Listing.sorted (x : Listing) (es : List Entry) : List Entry :=
  let byName (a b : Entry) : Ordering := compareBytes a.name.toList b.name.toList
  let order (a b : Entry) : Ordering :=
    match x.taken.last? ['t', 'S', 'X', 'v', 'U', 'f'] with
    | some 't' => (compare b.info.modified a.info.modified).then (byName a b)
    | some 'S' => (compareNat b.info.size a.info.size).then (byName a b)
    | some 'X' => (compareBytes (endingOf a.name) (endingOf b.name)).then (byName a b)
    | some 'v' => (compareVersions (a.name.length + b.name.length + 1) a.name.toList b.name.toList).then
        (byName a b)
    | _ => byName a b
  let all := es.mergeSort fun a b => order a b != .gt
  let all := if x.has 'r' then all.reverse else all
  if x.has '\x02' then
    let (dirs, others) := all.partition fun e => e.info.kind = .dir
    dirs ++ others
  else all

/-! ## The program -/

/-- What is known of a name. -/
def Listing.entry (x : Listing) (isNamed : Bool) (name path : String) : Work (Option Entry) := do
  let atLink ← act (Act.lookAtLink path)
  let behind ← act (Act.look path)
  -- A link that is named is followed if it leads to a directory and nothing speaks against it.
  let follows := x.has 'L' || (isNamed && (x.has 'H' ||
    (!(x.arrangement = .long || x.has 'd' || x.has 'F') &&
      (behind.toOption.map (·.kind)) = some .dir)))
  let chosen := if follows && behind.toOption.isSome then behind else atLink
  match chosen with
  | .error e =>
    complain ("cannot access " ++ quoted path ++ ": " ++ e.words)
    modify fun d => { d with status := if isNamed then 2 else max d.status 1 }
    return none
  | .ok i =>
    let target? ← if i.kind = .link then
        pure (← act (Act.text (.linkTarget path))).toOption
      else pure none
    return some ⟨name, path, i, target?⟩

/-- Whether a name is listed. -/
def Listing.shows (x : Listing) (name : String) : Bool :=
  let isHidden := name.toList.head? = some '.'
  let isBackup := x.has 'B' && name.toList.getLast? = some '~'
  !isBackup && (!isHidden || (match x.taken.last? ['a', 'A', 'f'] with
    | some 'A' => name != "." && name != ".."
    | some _ => true
    | none => false))

/-- Entries of names. -/
def Listing.entries (x : Listing) (isNamed : Bool) (pathOf : String → String) :
    List String → Work (List Entry)
  | [] => pure []
  | name :: rest => do
    let first? ← x.entry isNamed name (pathOf name)
    let others ← x.entries isNamed pathOf rest
    return first?.toList ++ others

/-- Lists directories one after the other, and what is in them if asked for. -/
def Listing.listDirs (x : Listing) (hasNames : Bool) : Nat → Bool → List String → Work Unit
  | 0, _, _ => pure ()
  | _, _, [] => pure ()
  | fuel + 1, isFirst, dir :: rest => do
    match ← act (Act.names dir) with
    | .error e =>
      warn ("cannot open directory " ++ quoted dir ++ ": " ++ e.words)
      x.listDirs hasNames fuel isFirst rest
    | .ok names =>
      let shown := ("." :: ".." :: names).filter x.shows
      let es := x.sorted (← x.entries false (pathIn dir) shown)
      if hasNames || x.has 'R' then
        put ((if isFirst then "" else "\n") ++ x.shownName dir ++ ":\n")
      if x.arrangement = .long || x.has 's' then
        let total := (es.map fun e => blocksOf e.info).foldr (· + ·) 0
        putLine ("total " ++ if x.has 'h' then humanSize (1024 * total) else toString total)
      put (x.text es)
      let below := if !x.has 'R' then []
        else (es.filter fun e => e.info.kind = .dir && e.name != "." && e.name != "..").map (·.path)
      x.listDirs hasNames fuel false (below ++ rest)

/-- Lists directories. -/
def ls (words : List String) : Work Unit := do
  let g := grammar "abcdfghiklmnopqrstuvw:xABCDFGHI:LNQRST:UXZ1"
    [("all", 'a'), ("escape", 'b'), ("directory", 'd'), ("human-readable", 'h'), ("inode", 'i'),
     ("numeric-uid-gid", 'n'), ("no-group", 'G'), ("reverse", 'r'), ("size", 's'), ("width", 'w'),
     ("almost-all", 'A'), ("ignore-backups", 'B'), ("literal", 'N'), ("quote-name", 'Q'),
     ("recursive", 'R'), ("dereference", 'L')]
  let g := { g with names := ("classify", 'F', .perhaps) :: ("color", '\x03', .perhaps) ::
    ("file-type", '\x01', .nothing) :: ("group-directories-first", '\x02', .nothing) ::
    ("zero", '0', .nothing) :: ("time-style", '\x04', .word) :: ("full-time", '\x05', .nothing) ::
    ("tabsize", 'T', .word) :: g.names }
  let t ← readOptions g words
  let arrangement : Arrangement := match t.last? ['1', 'l', 'g', 'n', 'o', 'm', 'x', 'C', '\x05'] with
    | some '1' =>
      if t.last? ['l', 'g', 'n', 'o', 'm', 'x', 'C', '\x05'] = some 'l' then .long else .lines
    | some 'm' => .commas
    | some 'x' => .columns true
    | some 'C' => .columns false
    | some _ => .long
    | none => .lines
  let now ← act currentMoment
  let style := if t.has '\x05' then "full-iso" else (t.word? '\x04').getD "locale"
  let times ← match timeFormats? style with
    | some times => pure times
    | none =>
      complain ("invalid argument " ++ quoted style ++ " for 'time style'")
      say ("Valid arguments are:\n  - [posix-]full-iso\n  - [posix-]long-iso\n" ++
        "  - [posix-]iso\n  - [posix-]locale\n  - +FORMAT (e.g., +%H:%M) for a 'date'-style format\n")
      hint
      leave 2
  let x : Listing := ⟨t, arrangement, times, now.fileTime⟩
  if t.operands.isEmpty then
    if t.has 'd' then
      let es ← x.entries true id ["."]
      put (x.text es)
    else x.listDirs false 100000 true ["."]
  else
    let es ← x.entries true id t.operands
    let isListed (e : Entry) : Bool := e.info.kind = .dir && !t.has 'd'
    let files := x.sorted (es.filter fun e => !isListed e)
    let dirs := x.sorted (es.filter isListed)
    if !files.isEmpty then put (x.text files)
    let hasNames := 1 < t.operands.length
    x.listDirs hasNames 100000 files.isEmpty (dirs.map (·.path))

end LintLedger.Utility
