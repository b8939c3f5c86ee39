import LintLedger.Shell.Syntax

/-!
# Reading scripts

A script is read command by command.  The reader knows at every place which words would be
reserved there; a word is read together with everything that will be put into it, so that a
command within a word is read as a command, and texts that follow a line are read when the line
ends.

## Main Definitions

* `Token`, `Token.text` -- the tokens of a script and what they are called
* `Reader` -- a place in a script
* `Fault` -- why there is no command
* `parseCommand` -- the next line of a script

## Design Notes

A script may come in pieces.  The reader that finds no more characters, although the script is
not over, gives up; the line is read again from its beginning when there is more of it.
-/

namespace LintLedger.Shell

/-! ## Tokens -/

/-- The tokens of a script. -/
inductive Token where
  | eof
  | newline
  | semicolon
  | background
  | and
  | or
  | pipe
  | opening
  | closing
  | endClause
  | redirection
  | word
  | not
  | case
  | do
  | done
  | elif
  | else
  | esac
  | fi
  | for
  | if
  | in
  | then
  | until
  | while
  | begin
  | end
deriving DecidableEq, Repr

/-- The reserved words and their tokens. -/
def reserved : List (String × Token) :=
  [("!", .not), ("case", .case), ("do", .do), ("done", .done), ("elif", .elif), ("else", .else),
   ("esac", .esac), ("fi", .fi), ("for", .for), ("if", .if), ("in", .in), ("then", .then),
   ("until", .until), ("while", .while), ("\x7b", .begin), ("\x7d", .end)]

/-- What a token is called. -/
def Token.text : Token → String
  | .eof => "end of file"
  | .newline => "newline"
  | .semicolon => "\";\""
  | .background => "\"&\""
  | .and => "\"&&\""
  | .or => "\"||\""
  | .pipe => "\"|\""
  | .opening => "\"(\""
  | .closing => "\")\""
  | .endClause => "\";;\""
  | .redirection => "redirection"
  | .word => "word"
  | t => "\"" ++ ((reserved.find? fun r => r.2 == t).map (·.1)).getD "" ++ "\""

/-- Whether a token ends a list of commands. -/
def Token.endsList : Token → Bool
  | .eof | .closing | .endClause | .do | .done | .elif | .else | .esac | .fi | .then | .end => true
  | _ => false

/-! ## The reader -/

/-- A text that follows the line of a command. -/
structure PendingText where
  number : Nat
  /-- The line that ends it. -/
  mark : List Char
  stripsTabs : Bool
  /-- Whether nothing in it is expanded. -/
  isLiteral : Bool

/-- What a word may be at a place. -/
structure Checks where
  aliases : Bool := false
  reserved : Bool := false
  /-- Whether line ends are passed over. -/
  newline : Bool := false
  /-- Whether the word ends a text that follows. -/
  textMark : Bool := false
deriving DecidableEq, Repr

/-- A place in a script. -/
structure Reader where
  /-- The characters to come; one that is no byte is the end of an alias. -/
  rest : List Char
  line : Nat
  /-- Whether nothing comes after `rest`. -/
  isLast : Bool
  /-- The character that was read last. -/
  previous : Char
  checks : Checks
  token : Token
  /-- Whether the token is to be read once more. -/
  isPushedBack : Bool
  word : Word
  /-- Whether any of the word was quoted. -/
  isQuoted : Bool
  redirection? : Option Redirection
  /-- The texts to be read at the end of the line. -/
  pending : List PendingText
  /-- A text whose mark is the next word. -/
  stripsTabs : Bool
  /-- The texts that were read. -/
  texts : List (Nat × Word)
  /-- The number of the next text. -/
  nextText : Nat
  aliases : List (String × String)
  /-- The aliases that are being read, by their numbers. -/
  inUse : List Nat
  /-- Names that no function can have. -/
  specialNames : List String

/-- The begin of a script of which some text is there; `isLast` says whether it is all. -/
def Reader.ofText (specialNames : List String) (text : String) (isLast : Bool) : Reader where
  rest := text.toList
  line := 1
  isLast := isLast
  previous := '\n'
  checks := {}
  token := .newline
  isPushedBack := false
  word := []
  isQuoted := false
  redirection? := none
  pending := []
  stripsTabs := false
  texts := []
  nextText := 0
  aliases := []
  inUse := []
  specialNames := specialNames

/-- Why there is no command. -/
inductive Fault where
  | malformed (line : Nat) (message : String)
  /-- There is more to come before it can be told. -/
  | unfinished

/-- Reading. -/
abbrev Read (α : Type) := StateT Reader (Except Fault) α

namespace Read

/-- Gives up with a message. -/
def fail {α : Type} (message : String) : Read α := fun r => .error (.malformed r.line message)

/-- Gives up because of the token that was read. -/
def unexpected {α : Type} (wanted? : Option Token) : Read α := fun r =>
  let message := r.token.text ++ " unexpected" ++ match wanted? with
    | some t => " (expecting " ++ t.text ++ ")"
    | none => ""
  .error (.malformed r.line ("Syntax error: " ++ message))

/-- The first number of the characters that end an alias. -/
def aliasEnd : Nat := 0x10000

/-- The next character; there is none at the end. -/
def nextWithin : Nat → Read (Option Char)
  | 0 => pure none
  | turns + 1 => do
    let r ← get
    match r.rest with
    | [] => if r.isLast then pure none else throw .unfinished
    | c :: rest =>
      if aliasEnd ≤ c.toNat then
        let blank := r.previous == ' ' || r.previous == '\t'
        set { r with
          rest := rest
          inUse := r.inUse.filter (· != c.toNat - aliasEnd)
          checks := if blank then { r.checks with aliases := true } else r.checks }
        nextWithin turns
      else
        set { r with rest := rest, previous := c }
        pure (some c)

/-- The next character; there is none at the end. -/
def next : Read (Option Char) := do nextWithin ((← get).rest.length + 1)

/-- Puts a character back. -/
def putBack (c? : Option Char) : Read Unit :=
  match c? with
  | some c => modify fun r => { r with rest := c :: r.rest }
  | none => pure ()

/-- One more line has been read. -/
def countLine : Read Unit := modify fun r => { r with line := r.line + 1 }

/-- The next character, lines that are continued put together. -/
def nextJoinedWithin : Nat → Read (Option Char)
  | 0 => next
  | turns + 1 => do
    match ← next with
    | some '\\' =>
      match ← next with
      | some '\n' =>
        countLine
        nextJoinedWithin turns
      | c? =>
        putBack c?
        pure (some '\\')
    | c? => pure c?

/-- The next character, lines that are continued put together. -/
def nextJoined : Read (Option Char) := do nextJoinedWithin ((← get).rest.length + 1)

/-- Reads the token again that was read last. -/
def pushBack : Read Unit := modify fun r => { r with isPushedBack := true }

/-- Says what the next word may be. -/
def expect (c : Checks) : Read Unit := modify fun r => { r with checks := c }

end Read

open Read

/-! ## Characters in their context -/

/-- What surrounds a character of a word. -/
inductive Context where
  | bare
  | double
  | single
  | arithmetic
deriving DecidableEq, Repr

/-- What a character does in a context. -/
inductive Role where
  | newline
  | ordinary
  /-- It has to be kept from doing anything later. -/
  | guarded
  | backslash
  | singleQuote
  | doubleQuote
  | endQuote
  | dollar
  | endBrace
  | opening
  | closing
  | backquote
  | finish
  /-- It ends a word. -/
  | special
deriving DecidableEq, Repr

/-- What a character does in a context. -/
def roleOf (x : Context) (c? : Option Char) : Role :=
  match c? with
  | none => .finish
  | some c =>
    match x with
    | .bare =>
      if c == '\n' then .newline
      else if c == '\\' then .backslash
      else if c == '\'' then .singleQuote
      else if c == '"' then .doubleQuote
      else if c == '\x60' then .backquote
      else if c == '$' then .dollar
      else if c == '\x7d' then .endBrace
      else if "<>();&| \t".toList.contains c then .special
      else .ordinary
    | .double =>
      if c == '\n' then .newline
      else if c == '\\' then .backslash
      else if c == '"' then .endQuote
      else if c == '\x60' then .backquote
      else if c == '$' then .dollar
      else if c == '\x7d' then .endBrace
      else if "!*?[=~:/-]".toList.contains c then .guarded
      else .ordinary
    | .single =>
      if c == '\n' then .newline
      else if c == '\'' then .endQuote
      else if "!*?[=~:/-]\\".toList.contains c then .guarded
      else .ordinary
    | .arithmetic =>
      if c == '\n' then .newline
      else if c == '\\' then .backslash
      else if c == '\x60' then .backquote
      else if c == '$' then .dollar
      else if c == '\x7d' then .endBrace
      else if c == '(' then .opening
      else if c == ')' then .closing
      else .ordinary

/-- Whether a character names a parameter of the shell. -/
def isSpecialParameter (c : Char) : Bool := "#?$!-*@".toList.contains c || c.isDigit

/-- What surrounds the characters of a word at one level. -/
structure Level where
  context : Context
  /-- Whether a quote was opened within the braces that are open. -/
  innerQuote : Bool := false
  /-- Whether the level was begun by braces. -/
  ofBraces : Bool := false
  isDouble : Bool := false
  braces : Nat := 0
  parentheses : Nat := 0
  quotedBraces : Nat := 0

/-- What a level of a word becomes a part of. -/
inductive Opened where
  | parameter (name : String) (operation : Operation) (nullToo : Bool) (before : Word)
  | arithmetic (before : Word)

/-- A word that is being read. -/
structure Draft where
  /-- The parts of the innermost part that is open, the last one first. -/
  parts : Word
  opened : List Opened
  /-- The innermost level first. -/
  levels : List Level
  isQuoted : Bool

namespace Draft

/-- The innermost level. -/
def level (d : Draft) : Level := d.levels.headD ⟨.bare, false, false, false, 0, 0, 0⟩

/-- The draft with one part more. -/
def add (p : Part) (d : Draft) : Draft := { d with parts := p :: d.parts }

/-- The draft with the innermost level changed. -/
def changeLevel (f : Level → Level) (d : Draft) : Draft :=
  { d with levels := match d.levels with
    | l :: rest => f l :: rest
    | [] => [] }

/-- The draft without its innermost level. -/
def leaveLevel (d : Draft) : Draft := { d with levels := d.levels.tail }

/-- The draft with the innermost part closed. -/
def close (d : Draft) : Draft :=
  match d.opened with
  | .parameter name op nullToo before :: rest =>
    { d with parts := .parameter name op nullToo d.parts.reverse :: before, opened := rest }
  | .arithmetic before :: rest =>
    { d with parts := .arithmetic d.parts.reverse :: before, opened := rest }
  | [] => d

end Draft

/-- The text that a word is part of: it ends at a line that is its mark. -/
structure TextFrame where
  mark : List Char
  stripsTabs : Bool

/-- Reads the mark of a text character by character, so far as it comes.  The value is the
characters that were read and the one after them. -/
def readMark : List Char → List Char → Option Char → Read (Bool × List Char × Option Char)
  | [], done, c? => pure (c? == none || c? == some '\n', done, c?)
  | m :: rest, done, c? =>
    match c? with
    | some c =>
      if c == m then do
        let n? ← next
        readMark rest (c :: done) n?
      else pure (false, done, c?)
    | none => pure (false, done, c?)

/-- Passes over the tabs at the begin of a line. -/
def skipTabs : Nat → Option Char → Read (Option Char)
  | 0, c? => pure c?
  | turns + 1, c? => do
    if c? == some '\t' then
      let n? ← next
      skipTabs turns n?
    else pure c?

/-- At the begin of a line of a text: no character if the line ends the text. -/
def atLineStart (frame? : Option TextFrame) (c? : Option Char) : Read (Option Char) := do
  match frame? with
  | none => pure c?
  | some f =>
    let c? ← if f.stripsTabs then skipTabs ((← get).rest.length + 1) c? else pure c?
    let (isMark, done, after?) ← readMark f.mark [] c?
    if isMark then
      if after? == some '\n' then countLine
      pure none
    else
      putBack after?
      match done.reverse with
      | [] => next
      | c :: rest =>
        modify fun r => { r with rest := rest ++ r.rest }
        pure (some c)

/-! ## Parameters -/

/-- The operation of a character that comes after the name of a parameter. -/
def operationOf? : Char → Option Operation
  | '\x7d' => some .value
  | '-' => some .default
  | '+' => some .alternative
  | '?' => some .require
  | '=' => some .assign
  | _ => none

/-- Reads a name as long as its characters satisfy `p`; the value is the name and the character
after it. -/
def readName (p : Char → Bool) : Nat → List Char → Option Char → Read (String × Option Char)
  | 0, done, c? => pure (String.ofList done.reverse, c?)
  | turns + 1, done, c? => do
    match c? with
    | some c =>
      if p c then
        let n? ← nextJoined
        readName p turns (c :: done) n?
      else pure (String.ofList done.reverse, c?)
    | none => pure (String.ofList done.reverse, c?)

/-- A parameter up to its word: name, operation, whether an empty value counts as none, and
whether patterns are read after it. -/
structure ParameterHead where
  name : String
  operation : Operation
  nullToo : Bool := false
  takesPattern : Bool := false

/-- Reads the name of a parameter in braces that begins with `c?`; the value is the name and
the character after it. -/
def readParameterName (c? : Option Char) : Read (Option (String × Option Char)) := do
  let size := (← get).rest.length + 1
  match c? with
  | some c =>
    if isNameStart c then return some (← readName isNameChar size [] c?)
    else if c.isDigit then return some (← readName Char.isDigit size [] c?)
    else return none
  | none => return none

/-- Reads the operation after the name of a parameter in braces. -/
def readOperation (name : String) (c? : Option Char) : Read ParameterHead := do
  match c? with
  | some ':' =>
    let n? ← nextJoined
    match n?.bind operationOf? with
    | some op => return ⟨name, op, true, false⟩
    | none => return ⟨name, .unknown, true, false⟩
  | some '%' =>
    let n? ← nextJoined
    if n? == some '%' then return ⟨name, .cutLongEnd, false, true⟩
    else
      putBack n?
      return ⟨name, .cutEnd, false, true⟩
  | some '#' =>
    let n? ← nextJoined
    if n? == some '#' then return ⟨name, .cutLongStart, false, true⟩
    else
      putBack n?
      return ⟨name, .cutStart, false, true⟩
  | some c =>
    match operationOf? c with
    | some op => return ⟨name, op, false, false⟩
    | none => return ⟨name, .unknown, false, false⟩
  | none => return ⟨name, .unknown, false, false⟩

/-- Reads a parameter in braces after the opening brace up to its word. -/
def readBraced : Read ParameterHead := do
  let c? ← nextJoined
  match ← readParameterName c? with
  | some (name, c?) => readOperation name c?
  | none =>
    match c? with
    | some '\x7d' =>
      putBack c?
      return ⟨"", .unknown, false, false⟩
    | none =>
      return ⟨"", .unknown, false, false⟩
    | some cc =>
      let c? ← nextJoined
      if cc == '#' then
        let isStart := (c?.map fun c => isNameChar c).getD false
        if isStart then
          match ← readParameterName c? with
          | some (name, c?) =>
            if c? == some '\x7d' then return ⟨name, .length, false, false⟩
            else
              putBack c?
              return ⟨name, .unknown, false, false⟩
          | none => return ⟨"", .unknown, false, false⟩
        else
          let d? ← nextJoined
          if c? == some '\x7d' || d? != some '\x7d' then
            putBack d?
            readOperation "#" c?
          else
            match c? with
            | some s =>
              if isSpecialParameter s then return ⟨String.singleton s, .length, false, false⟩
              else
                putBack d?
                return ⟨"", .unknown, false, false⟩
            | none => return ⟨"", .unknown, false, false⟩
      else if isSpecialParameter cc then readOperation (String.singleton cc) c?
      else
        putBack c?
        return ⟨"", .unknown, false, false⟩

/-! ## Words -/

/-- Adds a parameter, whose word is read next if it has one. -/
def Draft.addParameter (h : ParameterHead) (d : Draft) : Draft :=
  match h.operation with
  | .value => d.add (.parameter h.name h.operation h.nullToo [])
  | .length => d.add (.parameter h.name h.operation h.nullToo [])
  | _ =>
    let here := d.level
    let context := if h.takesPattern then .bare
      else if here.context = .arithmetic then .double else here.context
    let d := if context != here.context || here.innerQuote then
        { d with levels :=
            { context := context, ofBraces := true, isDouble := context != .bare } :: d.levels }
      else d
    let d := d.changeLevel fun l =>
      { l with
          braces := l.braces + 1
          quotedBraces := if l.isDouble then l.quotedBraces + 1 else l.quotedBraces }
    { d with
        parts := []
        opened := .parameter h.name h.operation h.nullToo d.parts :: d.opened }

/-- Begins an arithmetic expression. -/
def Draft.openArithmetic (d : Draft) : Draft :=
  { d with
      parts := []
      opened := .arithmetic d.parts :: d.opened
      levels := { context := .arithmetic, isDouble := true } :: d.levels }

/-- Closes the innermost braces. -/
def Draft.closeBraces (d : Draft) : Draft :=
  let l := d.level
  let d :=
    if l.braces = 1 && l.ofBraces then d.leaveLevel
    else d.changeLevel fun l =>
      { l with braces := l.braces - 1, quotedBraces := l.quotedBraces - 1 }
  d.close

/-- Reads the characters between backquotes as a script; a backslash goes before what it
guards. -/
def readBackquoted (isDouble : Bool) : Nat → List Char → Read (List Char)
  | 0, _ => fail "Syntax error: EOF in backquote substitution"
  | turns + 1, done => do
    match ← nextJoined with
    | some '\x60' => return done.reverse
    | some '\\' =>
      let c? ← next
      match c? with
      | some c =>
        let guarded := c == '\\' || c == '\x60' || c == '$' || (isDouble && c == '"')
        readBackquoted isDouble turns (if guarded then c :: done else c :: '\\' :: done)
      | none => fail "Syntax error: EOF in backquote substitution"
    | some '\n' =>
      countLine
      readBackquoted isDouble turns ('\n' :: done)
    | some c => readBackquoted isDouble turns (c :: done)
    | none => fail "Syntax error: EOF in backquote substitution"

/-- The redirection that begins with `c` after a descriptor, if one is given. -/
def readRedirection (descriptor? : Option Nat) (c : Char) : Read Unit := do
  let set' (d : Nat) (t : Target) : Read Unit := modify fun r =>
    { r with redirection? := some (.mk (descriptor?.getD d) t) }
  if c == '>' then
    let n? ← nextJoined
    match n? with
    | some '>' => set' 1 (.addition [])
    | some '|' => set' 1 (.overwrite [])
    | some '&' => set' 1 (.copyOf [])
    | n? =>
      putBack n?
      set' 1 (.output [])
  else
    let n? ← nextJoined
    match n? with
    | some '<' =>
      let m? ← nextJoined
      if m? != some '-' then putBack m?
      modify fun r => { r with stripsTabs := m? == some '-' }
      set' 0 (.document (← get).nextText [])
    | some '&' => set' 0 (.copyOf [])
    | some '>' => set' 0 (.both [])
    | n? =>
      putBack n?
      set' 0 (.input [])

mutual

/-- Reads parts of a word from `c?` on, up to the end of the word; `frame?` is the text whose
lines are read, if it is one.  The value is the character after the word. -/
def readParts (frame? : Option TextFrame) : Nat → Draft → Option Char → Read (Draft × Option Char)
  | 0, d, c? => pure (d, c?)
  | fuel + 1, d, c? => do
    let inText := frame?.isSome
    let level := d.level
    let goOn (d : Draft) : Read (Draft × Option Char) := do
      let c? ← if d.level.context = .single then next else nextJoined
      readParts frame? fuel d c?
    let c := c?.getD '\n'
    let markUnlessText (d : Draft) : Draft := if inText then d else d.add .mark
    match roleOf level.context c? with
    | .newline =>
      if level.context = .bare && level.braces = 0 then return (d, c?)
      else
        countLine
        let n? ← atLineStart frame? (← next)
        readParts frame? fuel (d.add (.plain c)) n?
    | .ordinary => goOn (d.add (.plain c))
    | .guarded =>
      if !inText || level.isDouble || level.braces != 0 then goOn (d.add (.escaped c))
      else goOn (d.add (.plain c))
    | .backslash =>
      match ← next with
      | none => goOn (d.add (.escaped '\\'))
      | some e =>
        let keeps := level.isDouble && e != '\\' && e != '\x60' && e != '$' &&
          (e != '"' || (inText && level.braces = 0)) && (e != '\x7d' || level.braces = 0)
        let d := if keeps then d.add (.escaped '\\') else d
        goOn { d.add (.escaped e) with isQuoted := true }
    | .singleQuote =>
      goOn (markUnlessText (d.changeLevel fun l => { l with context := .single }))
    | .doubleQuote =>
      let d := d.changeLevel fun l =>
        { l with
            context := .double
            isDouble := true
            innerQuote := if l.braces != 0 then !l.innerQuote else l.innerQuote }
      goOn (markUnlessText d)
    | .endQuote =>
      if inText && level.braces = 0 then goOn (d.add (.plain c))
      else
        let d := if level.quotedBraces = 0 then
            d.changeLevel fun l => { l with context := .bare, isDouble := false }
          else d
        let d := { d with isQuoted := true }
        let d := if c == '"' then d.changeLevel fun l =>
            { l with innerQuote := if l.braces != 0 then !l.innerQuote else l.innerQuote }
          else d
        goOn (markUnlessText d)
    | .dollar => do goOn (← readDollar fuel d)
    | .endBrace =>
      if !level.innerQuote && level.braces != 0 then goOn d.closeBraces
      else goOn (d.add (.plain c))
    | .opening =>
      goOn ((d.changeLevel fun l => { l with parentheses := l.parentheses + 1 }).add (.plain c))
    | .closing =>
      if level.parentheses != 0 then
        goOn ((d.changeLevel fun l => { l with parentheses := l.parentheses - 1 }).add (.plain c))
      else
        let n? ← nextJoined
        if n? == some ')' then goOn d.leaveLevel.close
        else
          putBack n?
          goOn (d.add (.plain c))
    | .backquote =>
      if (← get).checks.textMark then goOn { d.add (.plain c) with isQuoted := true }
      else do
        let r ← get
        let script ← readBackquoted level.isDouble (r.rest.length + 1) []
        let outer ← get
        set { outer with rest := script, line := 1, isLast := true, pending := [] }
        let body? ← readList fuel true
        modify fun r =>
          { r with
              rest := outer.rest
              line := outer.line
              isLast := outer.isLast
              previous := outer.previous
              pending := outer.pending
              isPushedBack := false
              checks := {} }
        goOn (d.add (.output body?))
    | .finish => return (d, c?)
    | .special =>
      if level.braces = 0 then return (d, c?) else goOn (d.add (.plain c))

/-- Reads what follows a dollar sign. -/
def readDollar : Nat → Draft → Read Draft
  | 0, d => pure d
  | fuel + 1, d => do
    let c? ← nextJoined
    if (← get).checks.textMark then
      putBack c?
      return d.add (.plain '$')
    else
      match c? with
      | some '(' =>
        let n? ← nextJoined
        if n? == some '(' then return d.openArithmetic
        else
          putBack n?
          let outer ← get
          set { outer with pending := [] }
          let body? ← readList fuel true
          if (← readToken fuel) != .closing then unexpected (some .closing)
          modify fun r => { r with pending := outer.pending, checks := {} }
          return d.add (.output body?)
      | some '\x7b' =>
        return d.addParameter (← readBraced)
      | some c =>
        if isNameStart c then
          let (name, n?) ← readName isNameChar ((← get).rest.length + 1) [] c?
          putBack n?
          return d.add (.parameter name .value false [])
        else if isSpecialParameter c then
          return d.add (.parameter (String.singleton c) .value false [])
        else
          putBack c?
          return d.add (.plain '$')
      | none => return d.add (.plain '$')

/-- Reads a word that begins with `c?`. -/
def readWord : Nat → Option Char → Read Token
  | 0, _ => pure .eof
  | fuel + 1, c? => do
    let (d, c?) ← readParts none fuel ⟨[], [], [{ context := .bare }], false⟩ c?
    let level := d.level
    if level.context = .arithmetic then fail "Syntax error: Missing '))'"
    if level.context != .bare then fail "Syntax error: Unterminated quoted string"
    if level.braces != 0 then fail "Syntax error: Missing '\x7d'"
    let word := d.parts.reverse
    let descriptor? : Option (Option Nat) := match word with
      | [] => some none
      | [.plain c] => if c.isDigit then some (some (c.toNat - 48)) else none
      | _ => none
    match c?, descriptor? with
    | some c, some descriptor =>
      if (c == '>' || c == '<') && !d.isQuoted then
        readRedirection descriptor c
        modify fun r => { r with token := .redirection }
        return .redirection
      else
        putBack c?
        modify fun r => { r with token := .word, word := word, isQuoted := d.isQuoted }
        return .word
    | _, _ =>
      putBack c?
      modify fun r => { r with token := .word, word := word, isQuoted := d.isQuoted }
      return .word

/-- Reads a token without a look at reserved words. -/
def readRawToken : Nat → Read Token
  | 0 => pure .eof
  | fuel + 1 => do
    let r ← get
    if r.isPushedBack then
      set { r with isPushedBack := false }
      return r.token
    else
      let give (t : Token) : Read Token := do
        modify fun r => { r with token := t }
        return t
      let double (c : Char) (two one : Token) : Read Token := do
        let n? ← nextJoined
        if n? == some c then give two
        else
          putBack n?
          give one
      let c? ← nextJoined
      match c? with
      | some ' ' => readRawToken fuel
      | some '\t' => readRawToken fuel
      | some '#' =>
        skipComment fuel
        readRawToken fuel
      | some '\n' =>
        countLine
        give .newline
      | none => give .eof
      | some '&' => double '&' .and .background
      | some '|' => double '|' .or .pipe
      | some ';' => double ';' .endClause .semicolon
      | some '(' => give .opening
      | some ')' => give .closing
      | c? => readWord fuel c?

/-- Passes over a comment. -/
def skipComment : Nat → Read Unit
  | 0 => pure ()
  | fuel + 1 => do
    match ← next with
    | none => pure ()
    | some '\n' => putBack (some '\n')
    | some _ => skipComment fuel

/-- Reads the texts that follow the line. -/
def readTexts : Nat → Read Unit
  | 0 => pure ()
  | fuel + 1 => do
    let r ← get
    match r.pending with
    | [] => pure ()
    | p :: rest =>
      set { r with pending := rest }
      let frame : TextFrame := ⟨p.mark, p.stripsTabs⟩
      let context := if p.isLiteral then .single else .double
      let c? ← if p.isLiteral then next else nextJoined
      let c? ← atLineStart (some frame) c?
      let level : Level := { context := context, isDouble := !p.isLiteral }
      let (d, _) ← readParts (some frame) fuel ⟨[], [], [level], false⟩ c?
      if d.level.context = .arithmetic then fail "Syntax error: Missing '))'"
      if d.level.braces != 0 then fail "Syntax error: Missing '\x7d'"
      modify fun r => { r with texts := (p.number, d.parts.reverse) :: r.texts }
      readTexts fuel

/-- Reads a token. -/
def readToken : Nat → Read Token
  | 0 => pure .eof
  | fuel + 1 => do
    let wanted := (← get).checks
    let t ← readRawToken fuel
    let t ← if wanted.newline then passNewlines fuel t else pure t
    let r ← get
    let settle (t : Token) : Read Token := do
      modify fun r => { r with token := t, checks := {} }
      return t
    if t != .word || r.isQuoted then settle t
    else
      match literalText? r.word with
      | none => settle t
      | some text =>
        let kept? := if wanted.reserved then reserved.find? fun x => x.1 == text else none
        match kept? with
        | some (_, t) => settle t
        | none =>
          if !r.checks.aliases then settle t
          else
            match r.aliases.findIdx? (·.1 == text) with
            | none => settle t
            | some i =>
              if r.inUse.contains i then settle t
              else
                let value := ((r.aliases[i]?.map (·.2)).getD "").toList
                if value.isEmpty then
                  readAgain fuel wanted
                else
                  set { r with
                    rest := value ++ Char.ofNat (aliasEnd + i) :: r.rest
                    inUse := i :: r.inUse }
                  readAgain fuel wanted

/-- Reads a token after an alias was put in its place; what may come is as it was. -/
def readAgain : Nat → Checks → Read Token
  | 0, _ => pure .eof
  | fuel + 1, wanted => do
    modify fun r => { r with checks := { wanted with aliases := true } }
    readToken fuel

/-- Passes over the ends of lines. -/
def passNewlines : Nat → Token → Read Token
  | 0, t => pure t
  | fuel + 1, t => do
    if t == .newline then
      readTexts fuel
      passNewlines fuel (← readRawToken fuel)
    else return t

/-- Reads the word that a redirection leads to. -/
def readTarget : Nat → Read Redirection
  | 0 => fail ""
  | fuel + 1 => do
    let r ← get
    match r.redirection? with
    | none => fail ""
    | some (.mk d target) =>
      match target with
      | .document number _ =>
        let strips := r.stripsTabs
        expect { textMark := true }
        if (← readToken fuel) != .word then unexpected none
        modify fun r =>
          { r with
              nextText := r.nextText + 1
              pending := r.pending ++ [⟨number, bareChars r.word, strips, r.isQuoted⟩] }
        return .mk d (.document number [])
      | target =>
        if (← readToken fuel) != .word then unexpected none
        let word := (← get).word
        match target with
        | .copyOf _ =>
          match word with
          | [.plain '-'] => return .mk d .closed
          | [.plain c] =>
            return .mk d (if c.isDigit then .copy (c.toNat - 48) else .copyOf word)
          | _ => return .mk d (.copyOf word)
        | .output _ => return .mk d (.output word)
        | .overwrite _ => return .mk d (.overwrite word)
        | .addition _ => return .mk d (.addition word)
        | .both _ => return .mk d (.both word)
        | _ => return .mk d (.input word)

/-- Reads the redirections after a command. -/
def readRedirections : Nat → List Redirection → Read (List Redirection)
  | 0, done => pure done.reverse
  | fuel + 1, done => do
    if (← readToken fuel) == .redirection then
      let r ← readTarget fuel
      readRedirections fuel (r :: done)
    else
      pushBack
      return done.reverse

/-- Reads a command with words of its own. -/
def readSimple (line : Nat) :
    Nat → Checks → List Word → List Word → List Redirection → Read Command
  | 0, _, _, _, _ => fail ""
  | fuel + 1, wanted, assignments, words, rs => do
    expect wanted
    match ← readToken fuel with
    | .word =>
      let r ← get
      if wanted.aliases && isAssignment r.word then
        readSimple line fuel wanted (r.word :: assignments) words rs
      else readSimple line fuel {} assignments (r.word :: words) rs
    | .redirection =>
      let redirection ← readTarget fuel
      readSimple line fuel wanted assignments words (redirection :: rs)
    | .opening =>
      match words, assignments, rs with
      | [name], [], [] =>
        if (← readToken fuel) != .closing then unexpected (some .closing)
        match literalText? name with
        | some text =>
          if !isName text || (← get).specialNames.contains text then
            fail "Syntax error: Bad function name"
          else
            expect { newline := true, reserved := true, aliases := true }
            let line := (← get).line
            return .function line text (← readCommand fuel)
        | none => fail "Syntax error: Bad function name"
      | _, _, _ =>
        pushBack
        return .simple line assignments.reverse words.reverse rs.reverse
    | _ =>
      pushBack
      return .simple line assignments.reverse words.reverse rs.reverse

/-- Reads a list of commands that ends before a token of its own; with `mayBeEmpty` there need
not be any. -/
def readList : Nat → Bool → Read (Option Command)
  | 0, _ => fail ""
  | fuel + 1, mayBeEmpty => readListFrom fuel false mayBeEmpty none

/-- Reads more commands of a list; `isLine` tells whether the list is a line of the script. -/
def readListFrom : Nat → Bool → Bool → Option Command → Read (Option Command)
  | 0, _, _, before? => pure before?
  | fuel + 1, isLine, mayEnd, before? => do
    expect { newline := !isLine, reserved := true, aliases := true }
    let t ← readToken fuel
    if t == .newline then
      readTexts fuel
      return before?
    else if t == .eof then
      readTexts fuel
      modify fun r => { r with token := .eof, isPushedBack := true }
      return before?
    else
      pushBack
      if mayEnd && !isLine && t.endsList then return before?
      else
        let c ← readAndOr fuel
        let t ← readToken fuel
        let c := if t == .background then
            match c with
            | .pipeline commands _ => .pipeline commands true
            | .redirected line body rs => .background line body rs
            | c => .background 0 c []
          else c
        let whole := match before? with
          | none => c
          | some b => .sequence b c
        match t with
        | .eof =>
          readTexts fuel
          modify fun r => { r with token := .eof, isPushedBack := true }
          return some whole
        | .newline =>
          pushBack
          readListFrom fuel isLine true (some whole)
        | .background => readListFrom fuel isLine true (some whole)
        | .semicolon => readListFrom fuel isLine true (some whole)
        | _ =>
          if isLine then unexpected none
          pushBack
          return some whole

/-- Reads pipelines that depend on each other. -/
def readAndOr : Nat → Read Command
  | 0 => fail ""
  | fuel + 1 => do
    let first ← readPipeline fuel
    readAndOrFrom fuel first

/-- Reads more pipelines that depend on each other. -/
def readAndOrFrom : Nat → Command → Read Command
  | 0, c => pure c
  | fuel + 1, c => do
    let t ← readToken fuel
    if t == .and || t == .or then
      expect { newline := true, reserved := true, aliases := true }
      let second ← readPipeline fuel
      readAndOrFrom fuel (if t == .and then .and c second else .or c second)
    else
      pushBack
      return c

/-- Reads a pipeline. -/
def readPipeline : Nat → Read Command
  | 0 => fail ""
  | fuel + 1 => do
    let isNegated := (← readToken fuel) == .not
    if isNegated then expect { reserved := true, aliases := true } else pushBack
    let first ← readCommand fuel
    let all ← readPipelineFrom fuel [first]
    let c := match all with
      | [c] => c
      | cs => .pipeline cs false
    return if isNegated then .not c else c

/-- Reads more commands of a pipeline. -/
def readPipelineFrom : Nat → List Command → Read (List Command)
  | 0, done => pure done.reverse
  | fuel + 1, done => do
    if (← readToken fuel) == .pipe then
      expect { newline := true, reserved := true, aliases := true }
      let c ← readCommand fuel
      readPipelineFrom fuel (c :: done)
    else
      pushBack
      return done.reverse

/-- A list of commands that is not empty. -/
def readBody : Nat → Read Command
  | 0 => fail ""
  | fuel + 1 => do
    match ← readList fuel false with
    | some c => return c
    | none => return .simple 0 [] [] []

/-- Reads the rest of a conditional after its first word. -/
def readConditional : Nat → Read Command
  | 0 => fail ""
  | fuel + 1 => do
    let test ← readBody fuel
    if (← readToken fuel) != .then then unexpected (some .then)
    let body ← readBody fuel
    match ← readToken fuel with
    | .elif => return .conditional test body (some (← readConditional fuel))
    | .else => return .conditional test body (some (← readBody fuel))
    | _ =>
      pushBack
      return .conditional test body none

/-- Reads the patterns of a clause. -/
def readPatterns : Nat → List Word → Read (List Word)
  | 0, done => pure done.reverse
  | fuel + 1, done => do
    let word := (← get).word
    if (← readToken fuel) == .pipe then
      let _ ← readToken fuel
      readPatterns fuel (word :: done)
    else return (word :: done).reverse

/-- Reads the clauses of a distinction of cases. -/
def readClauses : Nat → List Clause → Read (List Clause)
  | 0, done => pure done.reverse
  | fuel + 1, done => do
    expect { newline := true, reserved := true }
    let t ← readToken fuel
    if t == .esac then return done.reverse
    else
      if t == .opening then
        let _ ← readToken fuel
      let patterns ← readPatterns fuel []
      if (← get).token != .closing then unexpected (some .closing)
      let body? ← readList fuel true
      let done := .mk patterns body? :: done
      expect { newline := true, reserved := true }
      let t ← readToken fuel
      if t == .esac then return done.reverse
      else if t != .endClause then unexpected (some .endClause)
      else readClauses fuel done

/-- Reads the words of a loop over words. -/
def readWords : Nat → List Word → Read (List Word)
  | 0, done => pure done.reverse
  | fuel + 1, done => do
    if (← readToken fuel) == .word then
      let word := (← get).word
      readWords fuel (word :: done)
    else return done.reverse

/-- Reads a command. -/
def readCommand : Nat → Read Command
  | 0 => fail ""
  | fuel + 1 => do
    let line := (← get).line
    let close (t : Token) : Read Unit := do
      if (← readToken fuel) != t then unexpected (some t)
    let finish (c : Command) : Read Command := do
      expect { reserved := true, aliases := true }
      let rs ← readRedirections fuel []
      return match c, rs with
        | c, [] => c
        | .subshell line body _, rs => .subshell line body rs
        | c, rs => .redirected line c rs
    match ← readToken fuel with
    | .if =>
      let c ← readConditional fuel
      close .fi
      finish c
    | .while =>
      let test ← readBody fuel
      if (← readToken fuel) != .do then unexpected (some .do)
      let body ← readBody fuel
      close .done
      finish (.loop line false test body)
    | .until =>
      let test ← readBody fuel
      if (← readToken fuel) != .do then unexpected (some .do)
      let body ← readBody fuel
      close .done
      finish (.loop line true test body)
    | .for =>
      let t ← readToken fuel
      let r ← get
      match (if t == .word && !r.isQuoted then literalText? r.word else none) with
      | none => fail "Syntax error: Bad for loop variable"
      | some name =>
        if !isName name then fail "Syntax error: Bad for loop variable"
        expect { newline := true, reserved := true, aliases := true }
        let words ← do
          if (← readToken fuel) == .in then
            let words ← readWords fuel []
            let t := (← get).token
            if t != .newline && t != .semicolon then unexpected none
            pure words
          else
            if (← get).token != .semicolon then pushBack
            pure [[.mark, .parameter "@" .value false [], .mark]]
        expect { newline := true, reserved := true, aliases := true }
        if (← readToken fuel) != .do then unexpected (some .do)
        let body ← readBody fuel
        close .done
        finish (.each line name words body)
    | .case =>
      if (← readToken fuel) != .word then unexpected (some .word)
      let word := (← get).word
      expect { newline := true, reserved := true, aliases := true }
      if (← readToken fuel) != .in then unexpected (some .in)
      let clauses ← readClauses fuel []
      finish (.cases line word clauses)
    | .opening =>
      let body ← readBody fuel
      close .closing
      finish (.subshell line body [])
    | .begin =>
      let body ← readBody fuel
      close .end
      finish body
    | .word =>
      pushBack
      readSimple (← get).line fuel { aliases := true } [] [] []
    | .redirection =>
      pushBack
      readSimple (← get).line fuel { aliases := true } [] [] []
    | _ => unexpected none

end

/-! ## Lines of a script -/

/-- What a line of a script came to. -/
inductive Line where
  /-- The script is over. -/
  | finished
  /-- The line has a command, or is empty. -/
  | command (c? : Option Command)

/-- How deep reading goes. -/
def readingDepth : Nat := 1000000000000

/-- Reads the next line of a script. -/
def readLine : Read Line := do
  modify fun r =>
    { r with isPushedBack := false, checks := {}, pending := [], texts := [], nextText := 0, inUse := [] }
  let t ← readToken readingDepth
  match t with
  | .eof => return .finished
  | .newline => return .command none
  | _ =>
    pushBack
    let c? ← readListFrom readingDepth true false none
    let r ← get
    return .command (c?.map fun c => c.filled r.texts)

/-- Whether a reader has found the end of its script behind the last line. -/
def Reader.isAtEnd (r : Reader) : Bool := r.isPushedBack && r.token == .eof

/-- The word that a text is in which nothing but dollar signs, backquotes and backslashes has a
meaning. -/
def wordOfText? (text : String) : Option Word :=
  let frame : TextFrame := ⟨[Char.ofNat aliasEnd], false⟩
  let level : Level := { context := .double, isDouble := true }
  let reading : Read Word := do
    let c? ← nextJoined
    let (d, _) ← readParts (some frame) readingDepth ⟨[], [], [level], false⟩ c?
    return d.parts.reverse
  match reading.run (Reader.ofText [] text true) with
  | .ok (word, _) => some word
  | .error _ => none

end LintLedger.Shell
