import LintLedger.Regex.Basic
import LintLedger.Text.Integer

/-!
# Reading regular expressions

Programs write regular expressions in dialects that differ in which characters have a meaning
by themselves and which have one after a backslash, and in what they make of an operator that
stands where there is nothing for it to apply to.

## Main Definitions

* `Regex.Dialect` -- the dialects
* `Regex.Fault` -- why a text is no regular expression
* `Regex.read` -- the regular expression that a text is
-/

namespace LintLedger.Regex

/-- What is made of an operator with nothing before it. -/
inductive Lone where
  | refused
  /-- It stands for itself. -/
  | literal
  | ignored
deriving DecidableEq, Repr

/-- A way of writing regular expressions. -/
structure Dialect where
  /-- Whether operators have their meaning without a backslash. -/
  isExtended : Bool
  /-- What is made of an asterisk, a plus sign or a question mark with nothing before it. -/
  loneSign : Lone
  /-- What is made of an interval with nothing before it. -/
  loneInterval : Lone
  /-- Whether the end of a group that never began is refused. -/
  refusesClose : Bool
  /-- Whether a brace that begins no interval is refused. -/
  refusesBrace : Bool
  /-- Whether a backslash writes characters that cannot be seen, in sets too. -/
  hasEscapes : Bool := false

/-- Why a text is no regular expression. -/
inductive Fault where
  | malformed
  | unmatchedBracket
  | unmatchedOpen
  | unmatchedClose
  | unmatchedBrace
  | badInterval
  | badRange
  | badClass
  | badCollation
  | classOutside
  | trailingBackslash
  | badReference
  | missingOperand
  | tooBig
deriving DecidableEq, Repr

/-- What programs say about a fault. -/
def Fault.words : Fault → String
  | .malformed => "Invalid regular expression"
  | .unmatchedBracket => "Unmatched [, [^, [:, [., or [="
  | .unmatchedOpen => "Unmatched ( or \\("
  | .unmatchedClose => "Unmatched ) or \\)"
  | .unmatchedBrace => "Unmatched \\\x7b"
  | .badInterval => "Invalid content of \\\x7b\\\x7d"
  | .badRange => "Invalid range end"
  | .badClass => "Invalid character class name"
  | .badCollation => "Invalid collation character"
  | .classOutside => "character class syntax is [[:space:]], not [:space:]"
  | .trailingBackslash => "Trailing backslash"
  | .badReference => "Invalid back reference"
  | .missingOperand => "Invalid preceding regular expression"
  | .tooBig => "Regular expression too big"

/-- What is left of a text, and what was found so far. -/
structure Reading where
  rest : List Char
  /-- How many groups have begun. -/
  groups : Nat
  /-- The groups that are over. -/
  closed : List Nat
  /-- The operators that were ignored, the last one first. -/
  ignored : List String

/-- An activity of the reader. -/
abbrev Read := StateT Reading (Except Fault)

/-- Goes on after so many characters. -/
def skip (n : Nat) : Read Unit := modify fun r => { r with rest := r.rest.drop n }

/-! ## Sets -/

/-- The classes of characters by their names. -/
def classes : List (String × Text.Ranges) :=
  let digits := [(0x30, 0x39)]
  let upper := [(0x41, 0x5a)]
  let lower := [(0x61, 0x7a)]
  [("alnum", digits ++ upper ++ lower), ("alpha", upper ++ lower),
   ("blank", [(0x09, 0x09), (0x20, 0x20)]), ("cntrl", [(0x00, 0x1f), (0x7f, 0x7f)]),
   ("digit", digits), ("graph", [(0x21, 0x7e)]), ("lower", lower), ("print", [(0x20, 0x7e)]),
   ("punct", [(0x21, 0x2f), (0x3a, 0x40), (0x5b, 0x60), (0x7b, 0x7e)]),
   ("space", [(0x09, 0x0d), (0x20, 0x20)]), ("upper", upper),
   ("xdigit", digits ++ [(0x41, 0x46), (0x61, 0x66)])]

/-- The characters of words. -/
def wordRuns : Text.Ranges := [(0x30, 0x39), (0x41, 0x5a), (0x5f, 0x5f), (0x61, 0x7a)]

/-- The characters that are blank. -/
def spaceRuns : Text.Ranges := [(0x09, 0x0d), (0x20, 0x20)]

/-- The character of an octal number at the begin of a text, and how long the number is. -/
def octalAt (cs : List Char) : Char × Nat :=
  let digits := (cs.take 3).takeWhile fun c => '0' ≤ c && c ≤ '7'
  (Char.ofNat (digits.foldl (fun n c => 8 * n + Text.digitValue c) 0 % 256), digits.length)

/-- The character that a backslash before some text writes, and how much of the text it takes;
`slash` tells whether a slash or a quotation mark may be written so. -/
def escapeAt? (cs : List Char) : Option (Char × Nat) :=
  match cs with
  | 'n' :: _ => some ('\n', 1)
  | 't' :: _ => some ('\t', 1)
  | 'r' :: _ => some ('\r', 1)
  | 'f' :: _ => some ('\x0c', 1)
  | 'v' :: _ => some ('\x0b', 1)
  | 'a' :: _ => some ('\x07', 1)
  | 'b' :: _ => some ('\x08', 1)
  | c :: _ => if '0' ≤ c && c ≤ '7' then some (octalAt cs) else none
  | [] => none

/-- The name between two marks and a bracket, and how much of the text is before its end. -/
def namedIn (mark : Char) : List Char → Option (List Char × List Char)
  | c :: ']' :: rest => if c == mark then some ([], rest) else
      (namedIn mark (']' :: rest)).map fun (name, more) => (c :: name, more)
  | c :: rest => (namedIn mark rest).map fun (name, more) => (c :: name, more)
  | [] => none

/-- A member of a set that may be an end of a range, if the set goes on with one. -/
def memberChar (d : Dialect) : Read Char := do
  match (← get).rest with
  | [] => throw .unmatchedBracket
  | '[' :: '.' :: more =>
    match namedIn '.' more with
    | none => throw .unmatchedBracket
    | some ([c], rest) =>
      modify fun r => { r with rest := rest }
      return c
    | some _ => throw .badCollation
  | '\\' :: more =>
    if d.hasEscapes then
      match escapeAt? more, more with
      | some (c, n), _ =>
        skip (n + 1)
        return c
      | none, c :: _ =>
        skip 2
        return c
      | none, [] => throw .unmatchedBracket
    else
      skip 1
      return '\\'
  | c :: _ =>
    skip 1
    return c

/-- Reads the members of a set up to its end. -/
def readMembers (d : Dialect) : Nat → Bool → Text.Ranges → Read Text.Ranges
  | 0, _, _ => throw .tooBig
  | fuel + 1, isFirst, runs => do
    match (← get).rest with
    | [] => throw .unmatchedBracket
    | ']' :: rest =>
      if isFirst then
        skip 1
        readRange fuel ']' runs
      else
        modify fun r => { r with rest := rest }
        return runs
    | '[' :: ':' :: more =>
      match namedIn ':' more with
      | none => throw .unmatchedBracket
      | some (name, rest) =>
        match classes.find? fun c => c.1 == String.ofList name with
        | some (_, members) =>
          modify fun r => { r with rest := rest }
          readMembers d fuel false (members ++ runs)
        | none => throw .badClass
    | '[' :: '=' :: more =>
      match namedIn '=' more with
      | none => throw .unmatchedBracket
      | some ([c], rest) =>
        modify fun r => { r with rest := rest }
        readMembers d fuel false ((c.toNat, c.toNat) :: runs)
      | some _ => throw .badCollation
    | _ =>
      let c ← memberChar d
      readRange fuel c runs
where
  /-- Reads on after a member that may be the begin of a range. -/
  readRange (fuel : Nat) (c : Char) (runs : Text.Ranges) : Read Text.Ranges := do
    match fuel, (← get).rest with
    | fuel + 1, '-' :: last :: _ =>
      if last == ']' then readMembers d fuel false ((c.toNat, c.toNat) :: runs)
      else
        skip 1
        let last ← memberChar d
        if last < c then
          if d.hasEscapes then readMembers d fuel false runs else throw .badRange
        else readMembers d fuel false ((c.toNat, last.toNat) :: runs)
    | fuel, _ => readMembers d fuel false ((c.toNat, c.toNat) :: runs)

/-- Reads a set after its opening bracket. -/
def readSet (d : Dialect) : Read Regex := do
  let whole := (← get).rest
  if whole.isEmpty then throw .malformed
  let others := whole.head? = some '^'
  if others then skip 1
  let fuel := 2 * whole.length + 2
  let runs ← readMembers d fuel true []
  let inner := (whole.take (whole.length - (← get).rest.length)).dropLast
  if !d.hasEscapes && 1 < inner.length && inner.head? = some ':' && inner.getLast? = some ':' then
    throw .classOutside
  return .one others runs

/-! ## Intervals -/

/-- An interval at the begin of a text, after its brace: its ends, and what comes after it. -/
def intervalAt? (d : Dialect) (cs : List Char) :
    Option (Option Nat × Bool × Option Nat × List Char) :=
  let first := cs.takeWhile Char.isDigit
  let rest := cs.drop first.length
  let (hasComma, rest) : Bool × List Char := match rest with
    | ',' :: rest => (true, rest)
    | rest => (false, rest)
  let last := if hasComma then rest.takeWhile Char.isDigit else []
  let rest := rest.drop last.length
  let closed? : Option (List Char) :=
    match d.isExtended, rest with
    | true, '\x7d' :: rest => some rest
    | false, '\\' :: '\x7d' :: rest => some rest
    | _, _ => none
  match closed? with
  | some rest =>
    if first.isEmpty && !hasComma then none
    else some (Text.natOf? first, hasComma, Text.natOf? last, rest)
  | none => none

/-- The greatest number in an interval. -/
def intervalLimit : Nat := 32767

/-- Reads an interval after its brace, if it is one. -/
def readInterval (d : Dialect) (inner : List Char) : Read (Option (Nat × Option Nat)) := do
  match intervalAt? d inner with
  | some (first?, hasComma, last?, rest) =>
    let least := first?.getD 0
    let most? := if hasComma then last? else some least
    if most?.any (· < least) then throw .badInterval
    else if intervalLimit < least || most?.any (intervalLimit < ·) then throw .tooBig
    else
      modify fun r => { r with rest := rest }
      return some (least, most?)
  | none =>
    if !d.refusesBrace then return none
    else if inner.all fun c => c.isDigit || c == ',' then throw .unmatchedBrace
    else throw .badInterval

/-- An operator that says how often something comes. -/
inductive Operator where
  | sign (shown : Char) (least : Nat) (most? : Option Nat)
  | brace
deriving DecidableEq, Repr

/-- The operator at the begin of a text, and how much of the text it takes. -/
def operatorAt? (d : Dialect) (cs : List Char) : Option (Operator × Nat) :=
  match d.isExtended, cs with
  | _, '*' :: _ => some (.sign '*' 0 none, 1)
  | true, '+' :: _ => some (.sign '+' 1 none, 1)
  | true, '?' :: _ => some (.sign '?' 0 (some 1), 1)
  | true, '\x7b' :: _ => some (.brace, 1)
  | false, '\\' :: '+' :: _ => some (.sign '+' 1 none, 2)
  | false, '\\' :: '?' :: _ => some (.sign '?' 0 (some 1), 2)
  | false, '\\' :: '\x7b' :: _ => some (.brace, 2)
  | _, _ => none

/-- Reads the operators after something. -/
def readOperators (d : Dialect) : Nat → Regex → Read Regex
  | 0, _ => throw .tooBig
  | fuel + 1, a => do
    let cs := (← get).rest
    match operatorAt? d cs with
    | some (.sign _ least most?, n) =>
      skip n
      readOperators d fuel (.iterate a least most?)
    | some (.brace, n) =>
      match ← readInterval d (cs.drop n) with
      | some (least, most?) => readOperators d fuel (.iterate a least most?)
      | none => return a
    | none => return a

/-! ## Expressions -/

/-- What was just before something in an expression. -/
inductive Before where
  | nothing
  | place
  | something
deriving DecidableEq, Repr

/-- Whether a text begins with the end of a group. -/
def startsClose (d : Dialect) : List Char → Bool
  | ')' :: _ => d.isExtended
  | '\\' :: ')' :: _ => !d.isExtended
  | _ => false

/-- Whether a text begins with what stands between two choices. -/
def startsBar (d : Dialect) : List Char → Bool
  | '|' :: _ => d.isExtended
  | '\\' :: '|' :: _ => !d.isExtended
  | _ => false

/-- How many characters an operator other than an interval takes. -/
def signSize (d : Dialect) : Nat := if d.isExtended then 1 else 2

/-- What a character after a backslash means. -/
def escaped (d : Dialect) (c : Char) (rest : List Char) : Read Regex := do
  let known? : Option Regex := match c with
    | 'w' => some (.one false wordRuns)
    | 'W' => some (.one true wordRuns)
    | 's' => some (.one false spaceRuns)
    | 'S' => some (.one true spaceRuns)
    | 'b' => some (.place .boundary)
    | 'B' => some (.place .interior)
    | '<' => some (.place .wordStart)
    | '>' => some (.place .wordEnd)
    | '\x60' => some (.place .textStart)
    | '\'' => some (.place .textEnd)
    | _ => none
  if d.hasEscapes then
    match escapeAt? (c :: rest) with
    | some (x, n) =>
      skip (n + 1)
      return .char x
    | none =>
      skip 2
      return .char c
  else
    skip 2
    match known? with
    | some r => return r
    | none =>
      if '1' ≤ c && c ≤ '9' then
        if (← get).closed.contains (Text.digitValue c) then return .same (Text.digitValue c)
        else throw .badReference
      else return .char c

mutual

/-- Reads an expression up to the end of the group that it is in. -/
def readChoices (d : Dialect) : Nat → Nat → Read Regex
  | 0, _ => throw .tooBig
  | fuel + 1, depth => do
    let a ← readParts d fuel depth .nothing []
    if startsBar d (← get).rest then
      skip (signSize d)
      return .either a (← readChoices d fuel depth)
    else return a

/-- Reads the parts of an expression that follow each other; those that were read come last
first. -/
def readParts (d : Dialect) : Nat → Nat → Before → List Regex → Read Regex
  | 0, _, _, _ => throw .tooBig
  | fuel + 1, depth, before, parts => do
    let cs := (← get).rest
    let finished : Regex := match parts with
      | [] => .nothing
      | last :: others => others.foldl (fun after part => .sequence part after) last
    let add (r : Regex) (before : Before) : Read Regex := do
      let r ← readOperators d (cs.length + 1) r
      readParts d fuel depth before (r :: parts)
    if cs.isEmpty || startsBar d cs then return finished
    else if startsClose d cs && (0 < depth || d.refusesClose) then
      if depth = 0 then throw .unmatchedClose else return finished
    else
      let isLone := before != .something
      match (if isLone then operatorAt? d cs else none), cs with
      | some (.sign shown _ _, n), _ =>
        match d.loneSign with
        | .refused => throw .missingOperand
        | .literal =>
          skip n
          add (.char shown) .something
        | .ignored =>
          modify fun r => { r with ignored := String.singleton shown :: r.ignored }
          skip n
          readParts d fuel depth before parts
      | some (.brace, n), _ =>
        match d.loneInterval with
        | .refused =>
          if d.refusesBrace then throw .missingOperand
          else
            match ← readInterval d (cs.drop n) with
            | some _ => throw .missingOperand
            | none =>
              skip n
              add (.char '\x7b') .something
        | .literal =>
          skip n
          add (.char '\x7b') .something
        | .ignored =>
          match ← readInterval d (cs.drop n) with
          | some _ =>
            modify fun r => { r with ignored := "\x7b...\x7d" :: r.ignored }
            readParts d fuel depth before parts
          | none =>
            skip n
            add (.char '\x7b') .something
      | none, '^' :: _ =>
        skip 1
        if d.isExtended || before = .nothing then readParts d fuel depth .place (.place .lineStart :: parts)
        else add (.char '^') .something
      | none, '$' :: rest =>
        skip 1
        if d.isExtended then readParts d fuel depth .place (.place .lineEnd :: parts)
        else if rest.isEmpty || startsBar d rest || startsClose d rest then
          readParts d fuel depth .something (.place .lineEnd :: parts)
        else add (.char '$') .something
      | none, '.' :: _ =>
        skip 1
        add .any .something
      | none, '[' :: _ =>
        skip 1
        let r ← readSet d
        add r .something
      | none, '\\' :: [] => throw .trailingBackslash
      | none, '\\' :: c :: rest =>
        if c == '(' && !d.isExtended then
          skip 2
          let r ← readGroup d fuel depth
          add r .something
        else
          match ← escaped d c rest with
          | .place p => readParts d fuel depth .place (.place p :: parts)
          | r => add r .something
      | none, '(' :: _ =>
        skip 1
        if d.isExtended then
          let r ← readGroup d fuel depth
          add r .something
        else add (.char '(') .something
      | none, c :: _ =>
        skip 1
        add (.char c) .something
      | none, [] => return finished

/-- Reads a group after its begin. -/
def readGroup (d : Dialect) : Nat → Nat → Read Regex
  | 0, _ => throw .tooBig
  | fuel + 1, depth => do
    let n := (← get).groups + 1
    modify fun r => { r with groups := n }
    let a ← readChoices d fuel (depth + 1)
    if startsClose d (← get).rest then
      skip (signSize d)
      modify fun r => { r with closed := n :: r.closed }
      return .group n a
    else throw .unmatchedOpen

end

/-- What was read of a regular expression. -/
structure Outcome where
  regex : Regex
  /-- How many groups it has. -/
  groups : Nat
  /-- The operators that were ignored. -/
  ignored : List String

/-- The regular expression that a text is. -/
def read (d : Dialect) (text : List Char) : Except Fault Outcome := do
  let (r, s) ← (readChoices d (4 * text.length + 8) 0).run ⟨text, 0, [], []⟩
  return ⟨r, s.groups, s.ignored.reverse⟩

end LintLedger.Regex
