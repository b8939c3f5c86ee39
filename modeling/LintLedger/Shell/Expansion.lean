import LintLedger.Shell.Arithmetic
import LintLedger.Shell.Assignment
import LintLedger.Shell.Fields

/-!
# Expanding words

A word is expanded part by part: home directories, values of variables, what commands print and
what expressions come to are put in; then the word is divided into fields, and a field that is a
pattern is replaced by the paths that fit it.

## Main Definitions

* `Setting` -- what is done with a word
* `expandParts` -- the parts of a word
* `expandPaths` -- the paths that fit a pattern
* `expandWord`, `expandFields`, `fitsWord` -- a word as one text, as fields and as a pattern

## Design Notes

How a command is run whose output is put in is a parameter, so that nothing here knows how
commands are carried out.
-/

namespace LintLedger.Shell

open LintLedger.Machine

/-- What is done with a word. -/
structure Setting where
  /-- It is divided into fields. -/
  full : Bool := false
  /-- It is a pattern. -/
  isPattern : Bool := false
  /-- A tilde at its begin is a home directory. -/
  tilde : Bool := false
  /-- A tilde after a colon is one. -/
  colonTilde : Bool := false
  /-- A tilde after the first equals sign is one. -/
  equalsTilde : Bool := false
  /-- It belongs to a parameter. -/
  inner : Bool := false
  quoted : Bool := false

namespace Setting

/-- Whether quotes are of interest after the expansion. -/
def keepsQuotes (x : Setting) : Bool := x.full || x.isPattern

end Setting

/-- Runs a command and gives what it prints. -/
abbrev Capture := Option Command → Sh String

/-- An expansion: an activity on what there is so far. -/
abbrev Expanding (α : Type) := StateT Expanded Sh α

/-- An activity of a shell within an expansion. -/
def outside {α : Type} (m : Sh α) : Expanding α := StateT.lift m

/-! ## Adding text -/

/-- Whether a character in quotes is guarded. -/
def isGuardedInQuotes (c : Char) : Bool := "!*?[=~:/-]\\".toList.contains c

/-- The glyphs of a text. -/
def glyphsOf (x : Setting) (text : List Char) : List Glyph :=
  text.map fun c =>
    ⟨c, if x.keepsQuotes && x.quoted && isGuardedInQuotes c then .guarded else .bare⟩

/-- Adds a text. -/
def addText (x : Setting) (text : List Char) : Expanding Unit :=
  modify fun d => d.append (glyphsOf x text)

/-- Adds a stretch from a place to the end. -/
def divideFrom (start : Nat) (zeroOnly : Bool) : Expanding Unit :=
  modify fun d => d.divide start zeroOnly

/-! ## Home directories -/

/-- The home directories of the users that every system has. -/
def homes : List (String × String) :=
  [("root", "/root"), ("daemon", "/usr/sbin"), ("bin", "/bin"), ("sys", "/dev"),
   ("sync", "/bin"), ("games", "/usr/games"), ("man", "/var/cache/man"), ("lp", "/var/spool/lpd"),
   ("mail", "/var/mail"), ("news", "/var/spool/news"), ("uucp", "/var/spool/uucp"),
   ("proxy", "/bin"), ("www-data", "/var/www"), ("backup", "/var/backups"),
   ("list", "/var/list"), ("irc", "/run/ircd"), ("_apt", "/nonexistent"),
   ("nobody", "/nonexistent")]

/-- The characters of a word that are plain, up to one that is not. -/
def plainRun : List Part → List Char
  | .plain c :: rest => c :: plainRun rest
  | _ => []

/-- The home directory that a word begins with, and the parts after it. -/
def homeAt? (x : Setting) (parts : List Part) : Sh (Option (String × List Part)) := do
  let s ← get
  match parts with
  | .plain '~' :: rest =>
    let stops (c : Char) : Bool := c == '/' || (c == ':' && x.colonTilde)
    let name := (plainRun rest).takeWhile fun c => !stops c
    let rest := rest.drop name.length
    let ends := match rest with
      | [] => true
      | .plain _ :: _ => true
      | _ => false
    if !ends then return none
    else
      let home? := if name.isEmpty then s.vars.value? "HOME"
        else (homes.find? fun h => h.1.toList == name).map (·.2)
      return home?.map fun home => (home, rest)
  | _ => return none

/-! ## Values of parameters -/

/-- The letters of options in the order of their list. -/
def optionLetters : List (String × Char) :=
  [("errexit", 'e'), ("noglob", 'f'), ("ignoreeof", 'I'), ("interactive", 'i'), ("monitor", 'm'),
   ("noexec", 'n'), ("stdin", 's'), ("xtrace", 'x'), ("verbose", 'v'), ("vi", 'V'),
   ("emacs", 'E'), ("noclobber", 'C'), ("allexport", 'a'), ("notify", 'b'), ("nounset", 'u'),
   ("privileged", 'p')]

/-- The separators of fields. -/
def State.separators (s : State) : List Char :=
  ((s.vars.value? "IFS").getD Variables.standardSeparators).toList

/-- What stands between the words of all parameters; nothing does if there is none. -/
def joint? (x : Setting) (s : State) (name : String) : Option Char :=
  let ifs? := s.vars.value? "IFS"
  let first? := match ifs? with
    | none => some ' '
    | some ifs => ifs.toList.head?
  if x.full then
    if x.quoted then (if name = "@" then some '\x00' else first?)
    else
      match ifs? with
      | none => some ' '
      | some _ => some '\x00'
  else first?

/-- Words with something between them. -/
def joined (joint? : Option Char) (words : List String) : List Char :=
  match joint? with
  | some c => [c].intercalate (words.map String.toList)
  | none => (words.map String.toList).flatten

/-- The value of a parameter, if it has one. -/
def parameter? (x : Setting) (name : String) : Sh (Option (List Char)) := do
  let s ← get
  let number (n : Nat) : Option (List Char) := some (toString n).toList
  match name with
  | "$" => return number s.rootProcess
  | "?" => return number s.status
  | "#" => return number s.parameters.words.length
  | "!" => return s.lastProcess?.bind number
  | "-" =>
    return some ((optionLetters.reverse.filter fun o => s.has o.1).map (·.2))
  | "@" => return some (joined (joint? x s name) s.parameters.words)
  | "*" => return some (joined (joint? x s name) s.parameters.words)
  | name =>
    if (name.toList.head?.map Char.isDigit).getD false then
      let n := Text.natOfDigits name.toList
      if n = 0 then return some s.name.toList
      else return s.parameters.words[n - 1]?.map String.toList
    else return (s.vars.value? name).map String.toList

/-- Ends the shell because a parameter has no value. -/
def failUnset {α : Type} (name message : String) : Sh α := fail (name ++ ": " ++ message)

/-! ## Expressions -/

/-- The value of an expression. -/
def compute (text : String) : Sh Int := do
  let s ← get
  let scope : Arithmetic.Scope := ⟨s.vars.value?, s.vars.isReadOnly⟩
  let wrong (what : String) : Sh Int :=
    fail ("arithmetic expression: " ++ what ++ ": \"" ++ text ++ "\"")
  match Arithmetic.evaluate scope text with
  | .ok (value, assigned) =>
    assigned.forM fun (name, v) => setVariable name (toString v)
    return value
  | .error .noOperand => wrong "expecting primary"
  | .error .notClosed => wrong "expecting ')'"
  | .error .noColon => wrong "expecting ':'"
  | .error .divisionByZero => wrong "division by zero"
  | .error .goesOn => wrong "expecting EOF"
  | .error (.noInteger value) => notNumber value
  | .error (.readOnly name) => fail (name ++ ": is read only")
  | .error .overflow =>
    -- The processor cannot tell the quotient, which ends the process.
    let me ← act (Act.numberOrZero .self)
    let _ ← act (Act.ask (.kill me 8))
    return 0

/-! ## Words -/

/-- Whether an operation cuts at the begin of a value, and whether it cuts as much as it can. -/
def cutOf? : Operation → Option (Bool × Bool)
  | .cutEnd => some (false, false)
  | .cutLongEnd => some (false, true)
  | .cutStart => some (true, false)
  | .cutLongStart => some (true, true)
  | _ => none

mutual

/-- Expands the parts of a word. -/
def expandParts (capture : Capture) : Nat → Setting → List Part → Expanding Unit
  | 0, _, _ => pure ()
  | fuel + 1, x, parts => do
    if x.tilde then
      match ← outside (homeAt? x parts) with
      | some (home, rest) =>
        addText { x with quoted := true } home.toList
        expandFrom capture fuel { x with tilde := false } false rest
      | none => expandFrom capture fuel { x with tilde := false } false parts
    else expandFrom capture fuel x false parts

/-- Expands parts after others, quotes being open or not. -/
def expandFrom (capture : Capture) : Nat → Setting → Bool → List Part → Expanding Unit
  | 0, _, _, _ => pure ()
  | _, _, _, [] => pure ()
  | fuel + 1, x, isOpen, part :: rest => do
    let here : Setting := { x with quoted := x.quoted || isOpen }
    match part with
    | .plain c =>
      -- A run of plain characters goes up to a place where a tilde may be a home directory.
      let stops (c : Char) : Bool :=
        x.colonTilde && (c == ':' || (c == '=' && !x.equalsTilde))
      let run := c :: plainRun rest
      let before := run.takeWhile fun c => !stops c
      let isStop := before.length < run.length
      let run := run.take (before.length + 1)
      let rest := (part :: rest).drop run.length
      let start := (← get).size
      modify fun d => d.append (run.map fun c => ⟨c, .bare⟩)
      if x.inner && !x.quoted && !isOpen then divideFrom start false
      if isStop then
        let x := if run.getLast? = some '=' then { x with equalsTilde := true } else x
        match ← outside (homeAt? x rest) with
        | some (home, rest) =>
          addText { x with quoted := true } home.toList
          expandFrom capture fuel x isOpen rest
        | none => expandFrom capture fuel x isOpen rest
      else expandFrom capture fuel x isOpen rest
    | .mark =>
      match isOpen, rest with
      | false, .parameter "@" .value false [] :: .mark :: after =>
        expandParameter capture fuel { x with quoted := true } "@" .value false []
        expandFrom capture fuel x isOpen after
      | _, _ =>
        if x.keepsQuotes then modify fun d => d.append [Glyph.quote]
        expandFrom capture fuel x (!isOpen) rest
    | .escaped c =>
      modify fun d => d.append [⟨c, if x.keepsQuotes then .guarded else .bare⟩]
      expandFrom capture fuel x isOpen rest
    | .parameter name op nullToo word =>
      expandParameter capture fuel here name op nullToo word
      expandFrom capture fuel x isOpen rest
    | .output body? =>
      let start := (← get).size
      let text ← outside (capture body?)
      let text := (text.toList.filter (· != '\x00')).reverse.dropWhile (· == '\n')
      addText here text.reverse
      if !here.quoted then divideFrom start false
      expandFrom capture fuel x isOpen rest
    | .arithmetic inner =>
      let start := (← get).size
      expandParts capture fuel {} inner
      let text := textOf ((← get).glyphsFrom start)
      modify fun d => (d.cut start).undivide start
      let value ← outside (compute text)
      addText here (toString value).toList
      if !here.quoted then divideFrom start false
      expandFrom capture fuel x isOpen rest

/-- Expands a parameter. -/
def expandParameter (capture : Capture) :
    Nat → Setting → String → Operation → Bool → List Part → Expanding Unit
  | 0, _, _, _, _, _ => pure ()
  | fuel + 1, x, name, op, nullToo, word => do
    let start := (← get).size
    if op = .unknown then outside (fail "Bad substitution")
    let value? ← outside (parameter? x name)
    let value? := if nullToo then value?.filter (!·.isEmpty) else value?
    let s ← outside get
    let divide : Expanding Unit := do
      if !x.quoted then divideFrom start false
      else if name = "@" && !s.parameters.words.isEmpty then divideFrom start true
    let need : Expanding (List Char) := do
      match value? with
      | some v => return v
      | none =>
        if s.has "nounset" then outside (failUnset name "parameter not set") else return []
    let useWord : Expanding Unit :=
      expandParts capture fuel { x with tilde := true, inner := true } word
    match op with
    | .default =>
      match value? with
      | some v =>
        addText x v
        divide
      | none => useWord
    | .alternative => if value?.isSome then useWord else divide
    | .assign =>
      match value? with
      | some v =>
        addText x v
        divide
      | none =>
        expandParts capture fuel { tilde := true } word
        let text := textOf ((← get).glyphsFrom start)
        outside (setVariable name text)
        modify fun d => (d.cut start).undivide start
        expandParameter capture fuel x name .value false []
    | .require =>
      match value? with
      | some v =>
        addText x v
        divide
      | none =>
        expandParts capture fuel { tilde := true } word
        let text := textOf ((← get).glyphsFrom start)
        if word.isEmpty then
          outside (failUnset name ("parameter not set" ++ if nullToo then " or null" else ""))
        else outside (failUnset name text)
    | .length =>
      let v ← need
      addText x (toString v.length).toList
      divide
    | .value =>
      addText x (← need)
      divide
    | op =>
      let v ← need
      match value?, cutOf? op with
      | some _, some (atStart, longest) =>
        let middle := start + v.length
        addText x v
        expandParts capture fuel { tilde := true, isPattern := true } word
        let pattern := patternOf ((← get).glyphsFrom middle)
        modify fun d => (d.cut start).undivide start
        addText x (Pattern.trimmed atStart longest pattern v)
        divide
      | _, _ => pure ()

end

/-- More parts than any word has. -/
def expansionDepth : Nat := 1000000000000

/-! ## Paths -/

/-- A component of a path pattern that is a pattern, with what is before and after it. -/
structure Component where
  before : List Char
  pattern : List Char
  after? : Option (List Char)

/-- Whether a bracket at the begin of a text has its other half in the same component. -/
def closesSet : Nat → List Char → Bool
  | 0, _ => false
  | turns + 1, cs =>
    match cs with
    | '\\' :: c :: r => if c == '/' then false else after turns r
    | [] => false
    | '/' :: _ => false
    | _ :: r => after turns r
where
  /-- The rest after one member of the set. -/
  after (turns : Nat) (r : List Char) : Bool :=
    match r with
    | ']' :: _ => true
    | r => closesSet turns r

/-- The first component of a path pattern that is a pattern; `here` is the component that is
being read and `before` what was before it, both the last character first. -/
def firstPattern (isSpecial : Bool) (before here : List Char) : List Char → Option Component
  | [] => if isSpecial then some ⟨before.reverse, here.reverse, none⟩ else none
  | '\\' :: '/' :: rest =>
    if isSpecial then some ⟨before.reverse, here.reverse, some rest⟩
    else firstPattern false ('/' :: '\\' :: (here ++ before)) [] rest
  | '\\' :: c :: rest => firstPattern isSpecial before (c :: '\\' :: here) rest
  | '/' :: rest =>
    if isSpecial then some ⟨before.reverse, here.reverse, some rest⟩
    else firstPattern false ('/' :: (here ++ before)) [] rest
  | '[' :: rest =>
    let inside := match rest with
      | '!' :: r => r
      | r => r
    let isSet := closesSet (inside.length + 1) inside
    firstPattern (isSpecial || isSet) before ('[' :: here) rest
  | c :: rest => firstPattern (isSpecial || c == '*' || c == '?') before (c :: here) rest

/-- A text without the backslashes that guard characters in a pattern. -/
def unguarded : List Char → List Char
  | '\\' :: c :: rest => c :: unguarded rest
  | c :: rest => c :: unguarded rest
  | [] => []

mutual

/-- The paths that fit a pattern below a directory, whose path ends with a slash if it is not
the current one. -/
def pathsBelow : Nat → String → List Char → Act (List String)
  | 0, _, _ => pure []
  | fuel + 1, dir, pattern => do
    match firstPattern false [] [] pattern with
    | none =>
      if dir = "" then return []
      else
        let path := dir ++ String.ofList (unguarded pattern)
        match ← Act.lookAtLink path with
        | .ok _ => return [path]
        | .error _ => return []
    | some component =>
      let dir := dir ++ String.ofList (unguarded component.before)
      match ← Act.names (if dir = "" then "." else dir) with
      | .error _ => return []
      | .ok names =>
        let showsHidden := match component.pattern with
          | '.' :: _ => true
          | '\\' :: '.' :: _ => true
          | _ => false
        let fitting := ("." :: ".." :: names).filter fun name =>
          (showsHidden || name.toList.head? != some '.') &&
            Pattern.fits component.pattern name.toList
        match component.after? with
        | none => return fitting.map (dir ++ ·)
        | some rest => pathsBelowAll fuel (fitting.map fun name => dir ++ name ++ "/") rest

/-- The paths that fit a pattern below directories. -/
def pathsBelowAll : Nat → List String → List Char → Act (List String)
  | 0, _, _ => pure []
  | _, [], _ => pure []
  | fuel + 1, dir :: rest, pattern => do
    let first ← pathsBelow fuel dir pattern
    let others ← pathsBelowAll fuel rest pattern
    return first ++ others

end

/-- The paths that fit a pattern, in ascending order. -/
def expandPaths (pattern : List Char) : Act (List String) := do
  let paths ← pathsBelow expansionDepth "" pattern
  return paths.mergeSort fun a b => !decide (b < a)

/-- The words that a field is: the paths that fit it, or itself. -/
def pathsOf (s : State) (field : List Glyph) : Sh (List String) := do
  let isPattern := (charsOf field).any fun c => c == '*' || c == '?' || c == '['
  if s.has "noglob" || !isPattern then return [textOf field]
  else
    match ← act (expandPaths (patternOf field)) with
    | [] => return [textOf field]
    | paths => return paths

/-- The words that fields are. -/
def pathsOfAll (s : State) : List (List Glyph) → Sh (List String)
  | [] => pure []
  | field :: rest => do
    let first ← pathsOf s field
    let others ← pathsOfAll s rest
    return first ++ others

/-! ## Whole words -/

/-- What a word expands to. -/
def expanded (capture : Capture) (x : Setting) (w : Word) : Sh Expanded := do
  let (_, d) ← (expandParts capture expansionDepth x w).run Expanded.empty
  return d

/-- A word as one text. -/
def expandWord (capture : Capture) (x : Setting) (w : Word) : Sh String := do
  return textOf (← expanded capture x w).glyphs.toList

/-- A word as fields. -/
def expandFields (capture : Capture) (w : Word) : Sh (List String) := do
  let d ← expanded capture { full := true, tilde := true } w
  let s ← get
  pathsOfAll s (d.fields s.separators none)

/-- Words as fields. -/
def expandAll (capture : Capture) : List Word → Sh (List String)
  | [] => pure []
  | w :: rest => do
    let first ← expandFields capture w
    let others ← expandAll capture rest
    return first ++ others

/-- Whether a text fits a word that is a pattern. -/
def fitsWord (capture : Capture) (text : String) (w : Word) : Sh Bool := do
  let d ← expanded capture { isPattern := true, tilde := true } w
  return Pattern.fits (patternOf d.glyphs.toList) text.toList

end LintLedger.Shell
