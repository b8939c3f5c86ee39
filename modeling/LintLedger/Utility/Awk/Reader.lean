import LintLedger.Regex.Reader
import LintLedger.Utility.Awk.Value

/-!
# Reading scripts of rules

## Main Definitions

* `Token`, `lex` -- what a script is made of
* `Fault` -- why a text is no script
* `readScript` -- the script that a text is

## Design Notes

A slash begins a regular expression where a value is expected, and only there; so the token
after the slash is read again in that case.  Whether a parameter of a function is a table shows
in how the function uses it, or in what it hands it on to; that is settled when all functions
have been read.
-/

namespace LintLedger.Utility.Awk

/-! ## Tokens -/

/-- What a script is made of. -/
inductive Token where
  | number (x : Float)
  | text (s : String)
  | name (s : String)
  /-- A name right before a parenthesis. -/
  | callee (s : String)
  | builtin (b : Builtin) (s : String)
  | keyword (s : String)
  | sign (s : String)
  | newline
  | finish
deriving BEq

/-- Why a text is no script. -/
inductive Fault where
  | words (line : Nat) (s : String)
  | character (line : Nat) (c : Char)
deriving DecidableEq, Repr

/-- What is said of a fault, after the name of the program. -/
def Fault.message : Fault → String
  | .words line s => "line " ++ toString line ++ ": " ++ s
  | .character line c => toString line ++ ": unexpected character '" ++ String.singleton c ++ "'"

/-- The keywords. -/
def keywords : List String :=
  ["BEGIN", "END", "function", "if", "else", "while", "for", "do", "break", "continue", "next",
   "nextfile", "delete", "in", "exit", "return", "print", "printf", "getline"]

/-- The functions that every script has, by their names, with how many arguments they take at
least and at most. -/
def builtins : List (String × Builtin × Nat × Nat) :=
  [("length", .length, 0, 1), ("substr", .substr, 2, 3), ("index", .index, 2, 2),
   ("split", .split, 2, 3), ("sub", .substitute false, 2, 3), ("gsub", .substitute true, 2, 3),
   ("match", .find, 2, 2), ("sprintf", .format, 1, 1000), ("sin", .sine, 1, 1),
   ("cos", .cosine, 1, 1), ("atan2", .arcTangent, 2, 2), ("exp", .exponential, 1, 1),
   ("log", .logarithm, 1, 1), ("sqrt", .squareRoot, 1, 1), ("int", .truncate, 1, 1),
   ("rand", .random, 0, 0), ("srand", .seed, 0, 1), ("tolower", .lower, 1, 1),
   ("toupper", .upper, 1, 1), ("system", .system, 1, 1), ("close", .close, 1, 1),
   ("fflush", .flush, 0, 1), ("systime", .time, 0, 0)]

/-- The signs; the longest that fits counts. -/
def signs : List String :=
  ["&&", "||", "!~", "!=", "==", "<=", ">=", ">>", "++", "--", "+=", "-=", "*=", "/=", "%=", "^=",
   "\x7b", "\x7d", "(", ")", "[", "]", ";", ",", "+", "-", "*", "/", "%", "^", "!", "<", ">", "|",
   "?", ":", "~", "$", "="]

/-- Whether a character may begin a name. -/
def startsName (c : Char) : Bool := c.isAlpha || c == '_'

/-- Whether a character may stand in a name. -/
def isNamePart (c : Char) : Bool := c.isAlphanum || c == '_'

/-- The character that a backslash and what follows it stand for, if they stand for one, and how
much follows. -/
def escapeIn? (cs : List Char) : Option (Char × Nat) :=
  match cs with
  | '"' :: _ => some ('"', 1)
  | '\\' :: _ => some ('\\', 1)
  | 'x' :: rest =>
    let digits := (rest.take 2).takeWhile fun c => (Text.digitIn? 16 c).isSome
    if digits.isEmpty then none
    else some (Char.ofNat (Text.digitsIn 16 0 digits).1, digits.length + 1)
  | cs => Regex.escapeAt? cs

/-- A text in which backslashes are replaced by what they stand for. -/
def unescaped : Nat → List Char → List Char
  | 0, _ => []
  | _, [] => []
  | fuel + 1, '\\' :: rest =>
    match escapeIn? rest with
    | some (c, n) => c :: unescaped fuel (rest.drop n)
    | none =>
      match rest with
      | c :: rest => '\\' :: c :: unescaped fuel rest
      | [] => ['\\']
  | fuel + 1, c :: rest => c :: unescaped fuel rest

/-- A text up to its closing quotation mark, the last character first, with how many lines it
takes and what comes after it; none if it is not closed. -/
def closeText : List Char → Nat → List Char → Option (List Char × Nat × List Char)
  | _, _, [] => none
  | _, _, '\n' :: _ => none
  | done, lines, '"' :: rest => some (done, lines, rest)
  | done, lines, '\\' :: '\n' :: rest => closeText done (lines + 1) rest
  | done, lines, '\\' :: c :: rest => closeText (c :: '\\' :: done) lines rest
  | done, lines, c :: rest => closeText (c :: done) lines rest

/-- A regular expression up to its closing slash, the last character first, and what comes after
it; none if it is not closed. -/
def closeRegex : Bool → List Char → List Char → Option (List Char × List Char)
  | _, _, [] => none
  | _, _, '\n' :: _ => none
  | false, done, '/' :: rest => some (done, rest)
  | inSet, done, '\\' :: '/' :: rest => closeRegex inSet ('/' :: done) rest
  | inSet, done, '\\' :: c :: rest => closeRegex inSet (c :: '\\' :: done) rest
  | false, done, '[' :: '^' :: ']' :: rest => closeRegex true (']' :: '^' :: '[' :: done) rest
  | false, done, '[' :: ']' :: rest => closeRegex true (']' :: '[' :: done) rest
  | false, done, '[' :: rest => closeRegex true ('[' :: done) rest
  | true, done, ']' :: rest => closeRegex false (']' :: done) rest
  | inSet, done, c :: rest => closeRegex inSet (c :: done) rest

/-- How much is shown of what has no end. -/
def shownSize : Nat := 10

/-- What is shown of what has no end. -/
def runaway (cs : List Char) : String :=
  String.ofList ((cs.takeWhile (· != '\n')).take shownSize) ++ " ..."

/-- The number at the begin of a text, and what comes after it. -/
def numberAt (cs : List Char) : Float × List Char :=
  match Decimal.readDecimal cs with
  | some r => (floatOf r.value, r.rest)
  | none => (0.0, cs)

/-- The next token of a text, the line after it, and what comes after it. -/
def lex : Nat → Nat → List Char → Except Fault (Token × Nat × List Char)
  | 0, line, _ => .ok (.finish, line, [])
  | _, line, [] => .ok (.finish, line, [])
  | fuel + 1, line, c :: rest =>
    if c == ' ' || c == '\t' || c == '\r' || c == '\x0c' then lex fuel line rest
    else if c == '\n' then .ok (.newline, line + 1, rest)
    else if c == '#' then lex fuel line (rest.dropWhile (· != '\n'))
    else if c == '"' then
      match closeText [] 0 rest with
      | some (s, lines, rest) =>
        .ok (.text (String.ofList (unescaped (s.length + 1) s.reverse)), line + lines, rest)
      | none => .error (.words line ("runaway string constant \"" ++ runaway rest))
    else if c.isDigit || (c == '.' && rest.head?.any Char.isDigit) then
      let (x, rest) := numberAt (c :: rest)
      .ok (.number x, line, rest)
    else if startsName c then
      let name := (c :: rest).takeWhile isNamePart
      let rest := (c :: rest).drop name.length
      let s := String.ofList name
      if keywords.contains s then .ok (.keyword s, line, rest)
      else
        match builtins.find? fun b => b.1 == s with
        | some (_, b, _) => .ok (.builtin b s, line, rest)
        | none => .ok (if rest.head? = some '(' then .callee s else .name s, line, rest)
    else
      match c, rest with
      | '\\', '\n' :: rest => lex fuel (line + 1) rest
      | '\\', '\r' :: '\n' :: rest => lex fuel (line + 1) rest
      | _, _ =>
        match signs.find? fun s => s.toList.isPrefixOf (c :: rest) with
        | some s => .ok (.sign s, line, (c :: rest).drop s.length)
        | none => .error (.character line c)

/-! ## Reading -/

/-- A parameter of a function: the number of the function, and its own. -/
abbrev Parameter := Nat × Nat

/-- Where the reader is. -/
structure Reading where
  rest : List Char
  line : Nat
  token : Token
  /-- The line on which the token is. -/
  tokenLine : Nat
  /-- How many parentheses and braces are open. -/
  parens : Nat
  braces : Nat
  /-- How many parentheses were open where values to be printed began. -/
  printing? : Option Nat
  /-- The variables, and whether they are known as tables or as none. -/
  names : Array (String × Option Bool)
  functions : Array (String × Option Function)
  /-- The function that is read, and its parameters. -/
  current? : Option (Nat × List String)
  loops : Nat
  /-- Whether lines are at hand where the reader is. -/
  hasLines : Bool
  /-- The parameters that are tables. -/
  tables : List Parameter
  /-- The parameters that are tables if others are. -/
  links : List (Parameter × Parameter)
  /-- The variables that are tables if parameters are. -/
  sharedLinks : List (Nat × Parameter)
  /-- How many arguments functions were called with, and on which lines. -/
  calls : List (Nat × Nat × Nat)

/-- An activity of the reader. -/
abbrev Read := StateT Reading (Except Fault)

/-- A fault on the line of the token. -/
def refuse {α : Type} (s : String) : Read α := do throw (.words (← get).tokenLine s)

/-- Goes on to the next token. -/
def advance : Read Unit := do
  let s ← get
  let parens := if s.token == .sign "(" then s.parens + 1
    else if s.token == .sign ")" then s.parens - 1 else s.parens
  let braces := if s.token == .sign "\x7b" then s.braces + 1
    else if s.token == .sign "\x7d" then s.braces - 1 else s.braces
  let (token, line, rest) ← lex (s.rest.length + 1) s.line s.rest
  set { s with
    token := token
    tokenLine := if token == Token.newline then line - 1 else line
    line := line
    rest := rest
    parens := parens
    braces := braces }

/-- How a token is shown. -/
def Token.shown : Token → String
  | .number x => numberText "%.6g" x
  | .text s => s
  | .name s => s
  | .callee s => s
  | .builtin _ s => s
  | .keyword s => s
  | .sign s => s
  | .newline => "end of line"
  | .finish => "end of line"

/-- The token cannot stand where it stands. -/
def unexpected {α : Type} : Read α := do
  let s ← get
  if s.token == .finish && 0 < s.braces then
    throw (.words s.line "missing \x7d near end of file")
  else if s.token == .sign ")" && s.parens = 0 then refuse "extra ')'"
  else if 0 < s.parens && [.sign "\x7d", .sign "\x7b", .sign ";", .newline, .finish].contains s.token then
    refuse ("missing ) near " ++ s.token.shown)
  else refuse ("syntax error at or near " ++ s.token.shown)

/-- Whether the token is a sign. -/
def isSign (s : String) : Read Bool := do return (← get).token == .sign s

/-- Goes on after a sign, which must be there. -/
def expect (s : String) : Read Unit := do
  if ← isSign s then advance else unexpected

/-- Goes on after a sign if it is there; the value is whether it was. -/
def took (s : String) : Read Bool := do
  if ← isSign s then
    advance
    return true
  else return false

/-- Goes on to the next token that is no end of a line, in at most so many turns. -/
def skipNewlinesWithin : Nat → Read Unit
  | 0 => pure ()
  | turns + 1 => do
    if (← get).token == .newline then
      advance
      skipNewlinesWithin turns

/-- Goes on to the next token that is no end of a line. -/
def skipNewlines : Read Unit := do skipNewlinesWithin ((← get).rest.length + 1)

/-- Values in which a greater sign only has its own meaning within parentheses. -/
def printing {α : Type} (m : Read α) : Read α := do
  let before := (← get).printing?
  modify fun s => { s with printing? := some s.parens }
  let a ← m
  modify fun s => { s with printing? := before }
  return a

/-- Whether the token tells where printed text goes, if it is a sign that can do so. -/
def isOutlet : Read Bool := do
  let s ← get
  return s.printing? = some s.parens

/-! ## Names -/

/-- The place of a variable, which is known from now on as a table or as none if that shows. -/
def placeOf (name : String) (isTable? : Option Bool) : Read Place := do
  let s ← get
  let own? : Option Nat := s.current?.bind fun (_, parameters) => parameters.findIdx? (· == name)
  match own? with
  | some i =>
    match s.current?, isTable? with
    | some (f, _), some true => set { s with tables := (f, i) :: s.tables }
    | _, _ => pure ()
    return .own i
  | none =>
    match s.names.findIdx? fun n => n.1 == name with
    | none =>
      set { s with names := s.names.push (name, isTable?) }
      return .shared s.names.size
    | some i =>
      match (s.names[i]?).bind (·.2), isTable? with
      | some true, some false => refuse ("illegal reference to array " ++ name)
      | some false, some true => refuse ("illegal reference to variable " ++ name)
      | none, some isTable =>
        set { s with names := s.names.set! i (name, some isTable) }
      | _, _ => pure ()
      return .shared i

/-- The number of a function. -/
def functionOf (name : String) : Read Nat := do
  let s ← get
  match s.functions.findIdx? fun f => f.1 == name with
  | some i => return i
  | none =>
    set { s with functions := s.functions.push (name, none) }
    return s.functions.size

/-- Remembers with which arguments a function is called. -/
def rememberCall (f : Nat) (args : List Term) : Read Unit := do
  modify fun s => { s with calls := (f, args.length, s.tokenLine) :: s.calls }
  for (a, k) in args.zipIdx do
    match a, (← get).current? with
    | .variable (.own i), some (g, _) =>
      modify fun s => { s with links := ((g, i), (f, k)) :: s.links }
    | .variable (.shared i), _ =>
      modify fun s => { s with sharedLinks := (i, (f, k)) :: s.sharedLinks }
    | _, _ => pure ()

/-! ## Values -/

/-- Regular expressions as scripts write them. -/
def dialect : Regex.Dialect :=
  { isExtended := true
    loneSign := .refused
    loneInterval := .refused
    refusesClose := false
    refusesBrace := false
    hasEscapes := true }

/-- What is said of a text that is no regular expression. -/
def regexFault (text : List Char) (e : Regex.Fault) : String :=
  let why : String := match e with
    | .missingOperand => "missing operand"
    | .unmatchedOpen => "missing ')'"
    | .unmatchedClose => "missing '('"
    | .unmatchedBracket => "bad class -- [], [^] or ["
    | .malformed => "bad class -- [], [^] or ["
    | .badClass => "bad class -- [], [^] or ["
    | .badInterval => "bad interval expression"
    | .tooBig => "resource exhaustion -- regular expression too large"
    | e => e.words
  "regular expression compile failed (" ++ why ++ ")\n" ++ String.ofList text

/-- Reads a regular expression, of which the first slash is the token. -/
def readRegex : Read Term := do
  let s ← get
  let cs := if s.token == .sign "/=" then '=' :: s.rest else s.rest
  match closeRegex false [] cs with
  | none => throw (.words s.line ("runaway regular expression /" ++ runaway cs))
  | some (done, rest) =>
    set { s with rest := rest }
    let text := done.reverse
    match Regex.read dialect text with
    | .error e => refuse (regexFault text e)
    | .ok r =>
      advance
      return .regex r.regex

/-- The operation of a sign of assignment. -/
def assignment? : Token → Option (Option Operation)
  | .sign "=" => some none
  | .sign "+=" => some (some .plus)
  | .sign "-=" => some (some .minus)
  | .sign "*=" => some (some .times)
  | .sign "/=" => some (some .over)
  | .sign "%=" => some (some .modulo)
  | .sign "^=" => some (some .power)
  | _ => none

/-- What a sign between two terms makes of them, on each level of how loosely signs bind. -/
def connective? (level : Nat) (token : Token) (isOutlet : Bool) : Option (Term → Term → Term) :=
  match level, token with
  | 0, .sign "||" => some .or
  | 1, .sign "&&" => some .and
  | 3, .sign "~" => some (.fits false)
  | 3, .sign "!~" => some (.fits true)
  | 4, .sign "<" => some (.compare .less)
  | 4, .sign "<=" => some (.compare .lessEqual)
  | 4, .sign "==" => some (.compare .equal)
  | 4, .sign "!=" => some (.compare .unequal)
  | 4, .sign ">" => if isOutlet then none else some (.compare .greater)
  | 4, .sign ">=" => some (.compare .greaterEqual)
  | 6, .sign "+" => some (.operate .plus)
  | 6, .sign "-" => some (.operate .minus)
  | 7, .sign "*" => some (.operate .times)
  | 7, .sign "/" => some (.operate .over)
  | 7, .sign "%" => some (.operate .modulo)
  | _, _ => none

/-- The level on which texts are joined. -/
def joinLevel : Nat := 5

/-- The level after that of all signs between terms. -/
def lastLevel : Nat := 8

/-- Whether a token can begin what is joined with something before it. -/
def startsJoined : Token → Bool
  | .number _ => true
  | .text _ => true
  | .name _ => true
  | .callee _ => true
  | .builtin _ _ => true
  | .keyword s => s == "getline"
  | .sign s => ["(", "$", "!", "++", "--"].contains s
  | _ => false

/-- Whether a token can begin what can be given a value. -/
def startsTarget : Token → Bool
  | .name _ => true
  | .sign s => s == "$"
  | _ => false

mutual

/-- Reads a term. -/
def readTerm : Nat → Read Term
  | 0 => unexpected
  | fuel + 1 => do
    let c ← readLevel fuel 0
    if ← took "?" then
      skipNewlines
      let a ← readTerm fuel
      skipNewlines
      expect ":"
      skipNewlines
      return .choose c a (← readTerm fuel)
    else return c

/-- Reads terms with signs between them, of one level of how loosely signs bind. -/
def readLevel : Nat → Nat → Read Term
  | 0, _ => unexpected
  | fuel + 1, level => do
    if lastLevel ≤ level then readSigned fuel
    else
      let a ← readLevel fuel (level + 1)
      if level = joinLevel && a.isTarget then
        match assignment? (← get).token with
        | some o? =>
          advance
          skipNewlines
          return .assign a o? (← readTerm fuel)
        | none => readMore fuel level a
      else readMore fuel level a

/-- Reads on after a term of a level. -/
def readMore : Nat → Nat → Term → Read Term
  | 0, _, _ => unexpected
  | fuel + 1, level, a => do
    let token := (← get).token
    if level = joinLevel then
      if startsJoined token then
        let b ← readLevel fuel (level + 1)
        readMore fuel level (.join a b)
      else return a
    else if level = 2 then
      if token == .keyword "in" then
        advance
        match (← get).token with
        | .name s =>
          let t ← placeOf s (some true)
          advance
          readMore fuel level (.has t [a])
        | _ => unexpected
      else return a
    else
      match connective? level token (← isOutlet) with
      | some f =>
        advance
        if level ≤ 1 then skipNewlines
        let b ← readLevel fuel (level + 1)
        readMore fuel level (f a b)
      | none => return a

/-- Reads a term with a sign in front of it, or none. -/
def readSigned : Nat → Read Term
  | 0 => unexpected
  | fuel + 1 => do
    if ← took "!" then return .not (← readSigned fuel)
    else if ← took "-" then return .negate (← readSigned fuel)
    else if ← took "+" then return .positive (← readSigned fuel)
    else
      let a ← readPower fuel
      readPiped fuel a

/-- Reads on after a term whose text may be a command of which a line is read. -/
def readPiped : Nat → Term → Read Term
  | 0, _ => unexpected
  | fuel + 1, a => do
    if (← isSign "|") && !(← isOutlet) then
      advance
      if (← get).token == .keyword "getline" then
        advance
        let target? ← readTarget? fuel
        readPiped fuel (.readLine target? (some (true, a)))
      else unexpected
    else return a

/-- Reads what can be given a value, if it is there. -/
def readTarget? : Nat → Read (Option Term)
  | 0 => unexpected
  | fuel + 1 => do
    if startsTarget (← get).token then return some (← readPrimary fuel) else return none

/-- Reads a term and what it is raised to. -/
def readPower : Nat → Read Term
  | 0 => unexpected
  | fuel + 1 => do
    let a ← readPrimary fuel
    let a ← do
      if a.isTarget then
        if ← took "++" then pure (Term.step a false true)
        else if ← took "--" then pure (Term.step a true true)
        else pure a
      else pure a
    if ← took "^" then return .operate .power a (← readExponent fuel) else return a

/-- Reads what a term is raised to. -/
def readExponent : Nat → Read Term
  | 0 => unexpected
  | fuel + 1 => do
    if ← took "!" then return .not (← readExponent fuel)
    else if ← took "-" then return .negate (← readExponent fuel)
    else if ← took "+" then return .positive (← readExponent fuel)
    else readPower fuel

/-- Reads the number of a field. -/
def readFieldNumber : Nat → Read Term
  | 0 => unexpected
  | fuel + 1 => do
    if ← took "!" then return .not (← readFieldNumber fuel)
    else if ← took "-" then return .negate (← readFieldNumber fuel)
    else if ← took "+" then return .positive (← readFieldNumber fuel)
    else readPrimary fuel

/-- Reads a term without signs between its parts. -/
def readPrimary : Nat → Read Term
  | 0 => unexpected
  | fuel + 1 => do
    let s ← get
    match s.token with
    | .number x =>
      advance
      return .number x
    | .text t =>
      advance
      return .text t
    | .name name =>
      advance
      let isCall := s.functions.any fun f => f.1 == name
      if isCall && (← isSign "(") then readCall fuel name
      else if ← isSign "[" then
        let t ← placeOf name (some true)
        advance
        let keys ← readTerms fuel
        expect "]"
        return .element t keys
      else
        let isArgument := [.sign ",", .sign ")"].contains (← get).token
        return .variable (← placeOf name (if isArgument then none else some false))
    | .callee name =>
      advance
      let isKnown := s.names.any (fun n => n.1 == name) ||
        s.current?.any fun (_, parameters) => parameters.contains name
      if isKnown then return .variable (← placeOf name (some false))
      else readCall fuel name
    | .builtin b name =>
      advance
      if b = .length && !(← isSign "(") then return .builtin .length []
      else
        expect "("
        skipNewlines
        let args ← if ← isSign ")" then pure [] else readTerms fuel
        expect ")"
        let counts? := (builtins.find? fun x => x.1 == name).map (·.2.2)
        match counts? with
        | some (least, most) =>
          if args.length < least || most < args.length then
            refuse ("wrong number of arguments in call to " ++ name)
        | none => pure ()
        match b, args with
        | .split, a :: .variable p :: rest =>
          match p, (← get).current? with
          | .own i, some (f, _) => modify fun s => { s with tables := (f, i) :: s.tables }
          | .shared i, _ =>
            modify fun s =>
              { s with names := s.names.modify i fun n => (n.1, some true) }
          | _, _ => pure ()
          return .builtin b (a :: .variable p :: rest)
        | b, args => return .builtin b args
    | .keyword "getline" =>
      advance
      let target? ← readTarget? fuel
      if ← took "<" then
        let path ← readPower fuel
        return .readLine target? (some (false, path))
      else return .readLine target? none
    | .sign "/" => readRegex
    | .sign "/=" => readRegex
    | .sign "$" =>
      advance
      return .field (← readFieldNumber fuel)
    | .sign "++" =>
      advance
      let a ← readPrimary fuel
      if a.isTarget then return .step a false false else unexpected
    | .sign "--" =>
      advance
      let a ← readPrimary fuel
      if a.isTarget then return .step a true false else unexpected
    | .sign "!" => readSigned fuel
    | .sign "-" => readSigned fuel
    | .sign "+" => readSigned fuel
    | .sign "(" =>
      advance
      skipNewlines
      let all ← readTerms fuel
      skipNewlines
      expect ")"
      match all with
      | [a] => return .group a
      | keys =>
        if (← get).token == .keyword "in" then
          advance
          match (← get).token with
          | .name s =>
            let t ← placeOf s (some true)
            advance
            return .has t keys
          | _ => unexpected
        else unexpected
    | _ => unexpected

/-- Reads a call of a function after its name. -/
def readCall : Nat → String → Read Term
  | 0, _ => unexpected
  | fuel + 1, name => do
    let f ← functionOf name
    expect "("
    skipNewlines
    let args ← if ← isSign ")" then pure [] else readTerms fuel
    skipNewlines
    expect ")"
    rememberCall f args
    return .call f args

/-- Reads terms with commas between them. -/
def readTerms : Nat → Read (List Term)
  | 0 => unexpected
  | fuel + 1 => do
    let a ← readTerm fuel
    if ← took "," then
      skipNewlines
      return a :: (← readTerms fuel)
    else return [a]

end

/-! ## Statements -/

/-- A bound on how deep the rest of a script goes. -/
def depthBound : Read Nat := do return 20 * ((← get).rest.length + 10)

/-- Reads one term. -/
def readValue : Read Term := do readTerm (← depthBound)

/-- Whether the token ends a simple statement. -/
def isEnd : Read Bool := do
  return [.sign ";", .sign "\x7d", .newline, .finish].contains (← get).token

/-- Goes on after the end of a simple statement. -/
def endStatement : Read Unit := do
  match (← get).token with
  | .sign ";" =>
    advance
    skipNewlines
  | .newline => skipNewlines
  | .sign "\x7d" => if 0 < (← get).parens then unexpected
  | _ => unexpected

/-- The values in parentheses that are printed, if that is what the parentheses are for. -/
def readPrintedGroup? : Read (Option (List Term)) := do
  let before ← get
  let attempt : Read (Option (List Term)) := do
    expect "("
    skipNewlines
    let all ← readTerms (← depthBound)
    skipNewlines
    expect ")"
    let isOver := (← isEnd) || (← isSign ">") || (← isSign ">>") || (← isSign "|")
    return if isOver then some all else none
  match ← tryCatch attempt fun _ => pure none with
  | some all => return some all
  | none =>
    set before
    return none

/-- Reads what is printed and where it goes. -/
def readPrinted : Read (List Term × Option (Outlet × Term)) := do
  let args ← printing do
    if (← isEnd) || (← isSign ">") || (← isSign ">>") || (← isSign "|") then return []
    else
      let group? ← if ← isSign "(" then readPrintedGroup? else pure none
      match group? with
      | some all => return all
      | none => readTerms (← depthBound)
  let outlet? : Option Outlet := match (← get).token with
    | .sign ">" => some .file
    | .sign ">>" => some .fileEnd
    | .sign "|" => some .command
    | _ => none
  match outlet? with
  | some o =>
    advance
    return (args, some (o, ← readValue))
  | none => return (args, none)

/-- Reads the key and the table of a loop over keys, if the loop is one. -/
def readKeysHead? : Read (Option (Place × Place)) := do
  let before ← get
  let attempt : Read (Option (Place × Place)) := do
    match (← get).token with
    | .name key =>
      advance
      if (← get).token == .keyword "in" then
        advance
        match (← get).token with
        | .name table =>
          advance
          if ← took ")" then
            return some (← placeOf key (some false), ← placeOf table (some true))
          else return none
        | _ => return none
      else return none
    | _ => return none
  match ← attempt with
  | some x => return some x
  | none =>
    set before
    return none

mutual

/-- Reads a statement and what ends it. -/
def readStatement : Nat → Read Statement
  | 0 => unexpected
  | fuel + 1 => do
    let ended (m : Read Statement) : Read Statement := do
      let x ← m
      endStatement
      return x
    let jump (x : Statement) : Read Statement := do
      advance
      endStatement
      return x
    let condition : Read Term := do
      expect "("
      skipNewlines
      let c ← readValue
      skipNewlines
      expect ")"
      skipNewlines
      return c
    let body : Read Statement := do
      modify fun s => { s with loops := s.loops + 1 }
      let x ← readStatement fuel
      modify fun s => { s with loops := s.loops - 1 }
      return x
    match (← get).token with
    | .sign "\x7b" => readBlock fuel
    | .sign ";" =>
      endStatement
      return .nothing
    | .newline =>
      endStatement
      return .nothing
    | .keyword "if" =>
      advance
      let c ← condition
      let a ← readStatement fuel
      if (← get).token == .keyword "else" then
        advance
        skipNewlines
        return .branch c a (← readStatement fuel)
      else return .branch c a .nothing
    | .keyword "while" =>
      advance
      let c ← condition
      return .whileLoop c (← body)
    | .keyword "do" =>
      advance
      skipNewlines
      let x ← body
      if (← get).token == .keyword "while" then
        advance
        expect "("
        let c ← readValue
        expect ")"
        endStatement
        return .doLoop x c
      else unexpected
    | .keyword "for" =>
      advance
      expect "("
      match ← readKeysHead? with
      | some (key, table) =>
        skipNewlines
        return .forKeys key table (← body)
      | none =>
        let first ← if ← isSign ";" then pure Statement.nothing else do pure (.value (← readValue))
        expect ";"
        skipNewlines
        let c? ← if ← isSign ";" then pure none else do pure (some (← readValue))
        expect ";"
        skipNewlines
        let step ← if ← isSign ")" then pure Statement.nothing else do pure (.value (← readValue))
        expect ")"
        skipNewlines
        return .forLoop first c? step (← body)
    | .keyword "break" =>
      if (← get).loops = 0 then refuse "break statement outside of loop" else jump .leaveLoop
    | .keyword "continue" =>
      if (← get).loops = 0 then refuse "continue statement outside of loop" else jump .nextTurn
    | .keyword "next" =>
      if (← get).hasLines then jump .nextLine else refuse "improper use of next"
    | .keyword "nextfile" =>
      if (← get).hasLines then jump .nextFile else refuse "improper use of nextfile"
    | .keyword "exit" => ended do
      advance
      if ← isEnd then return .exit none else return .exit (some (← readValue))
    | .keyword "return" => ended do
      if (← get).current?.isNone then refuse "return outside function body"
      advance
      if ← isEnd then return .answer none else return .answer (some (← readValue))
    | .keyword "delete" => ended do
      advance
      match (← get).token with
      | .name s =>
        let t ← placeOf s (some true)
        advance
        if ← took "[" then
          let keys ← readTerms (← depthBound)
          expect "]"
          return .delete t (some keys)
        else return .delete t none
      | _ => unexpected
    | .keyword "print" => ended do
      advance
      let (args, goal?) ← readPrinted
      return .print args goal?
    | .keyword "printf" => ended do
      advance
      let (args, goal?) ← readPrinted
      if args.isEmpty then refuse "no arguments in call to printf"
      return .printFormat args goal?
    | _ => ended do return .value (← readValue)

/-- Reads a block. -/
def readBlock : Nat → Read Statement
  | 0 => unexpected
  | fuel + 1 => do
    expect "\x7b"
    skipNewlines
    let all ← readStatements fuel
    expect "\x7d"
    skipNewlines
    return .block all

/-- Reads statements up to the end of the block that they are in. -/
def readStatements : Nat → Read (List Statement)
  | 0 => unexpected
  | fuel + 1 => do
    if ← isSign "\x7d" then return []
    else if (← get).token == .finish then unexpected
    else
      let x ← readStatement fuel
      return x :: (← readStatements fuel)

end

/-- Reads a block, with lines at hand in it or not. -/
def readWhole (hasLines : Bool) : Read Statement := do
  modify fun s => { s with hasLines := hasLines, loops := 0 }
  let x ← readBlock (← depthBound)
  modify fun s => { s with hasLines := true }
  return x

/-! ## Rules -/

/-- What is read of a script. -/
structure Parts where
  begins : List Statement := []
  ends : List Statement := []
  rules : List Rule := []

/-- Reads the names of parameters. -/
def readParameters : Nat → Read (List String)
  | 0 => unexpected
  | fuel + 1 => do
    match (← get).token with
    | .name s =>
      advance
      if ← took "," then
        skipNewlines
        return s :: (← readParameters fuel)
      else return [s]
    | _ => unexpected

/-- Reads a function after its keyword. -/
def readFunction : Read Unit := do
  let name ← match (← get).token with
    | .name s => pure s
    | .callee s => pure s
    | _ => unexpected
  advance
  let f ← functionOf name
  if ((← get).functions[f]?).any (·.2.isSome) then
    refuse ("redefinition of " ++ name)
  expect "("
  skipNewlines
  let parameters ← if ← isSign ")" then pure [] else readParameters (← depthBound)
  expect ")"
  skipNewlines
  modify fun s => { s with current? := some (f, parameters) }
  let body ← readWhole false
  modify fun s =>
    { s with
      current? := none
      functions := s.functions.modify f fun x =>
        (x.1, some ⟨(parameters.map fun _ => false).toArray, body⟩) }

/-- Reads rules and functions up to the end. -/
def readParts : Nat → Parts → Read Parts
  | 0, x => pure x
  | fuel + 1, x => do
    skipNewlines
    match (← get).token with
    | .finish => return x
    | .keyword "BEGIN" =>
      advance
      let s ← readWhole false
      let _ ← took ";"
      readParts fuel { x with begins := s :: x.begins }
    | .keyword "END" =>
      advance
      let s ← readWhole false
      let _ ← took ";"
      readParts fuel { x with ends := s :: x.ends }
    | .keyword "function" =>
      advance
      readFunction
      let _ ← took ";"
      readParts fuel x
    | token =>
      let selection ← do
        if token == .sign "\x7b" then pure Selection.all
        else
          let first ← readValue
          if ← took "," then
            skipNewlines
            pure (Selection.range first (← readValue))
          else pure (Selection.one first)
      if ← isSign "\x7b" then
        let s ← readWhole true
        let _ ← took ";"
        readParts fuel { x with rules := ⟨selection, some s⟩ :: x.rules }
      else if (← isEnd) && !(← isSign "\x7d") then
        if !((← get).token == .finish) then advance
        readParts fuel { x with rules := ⟨selection, none⟩ :: x.rules }
      else unexpected

/-- The parameters that are tables, given those that are known to be and which are if others
are, after so many turns. -/
def settleTables (links : List (Parameter × Parameter)) : Nat → List Parameter → List Parameter
  | 0, known => known
  | turns + 1, known =>
    let more := (links.filter fun l => known.contains l.2 && !known.contains l.1).map (·.1)
    if more.isEmpty then known else settleTables links turns (more.eraseDups ++ known)

/-- The script that a text is. -/
def readScript (text : String) : Except Fault Script := do
  let start : Reading :=
    { rest := text.toList ++ ['\n']
      line := 1
      token := .newline
      tokenLine := 1
      parens := 0
      braces := 0
      printing? := none
      names := specialNames.map fun n => (n, if n = "ENVIRON" || n = "ARGV" then some true else some false)
      functions := #[]
      current? := none
      loops := 0
      hasLines := true
      tables := []
      links := []
      sharedLinks := []
      calls := [] }
  let (x, s) ← (readParts (text.length + 2) {}).run start
  let known := settleTables s.links (s.links.length + 1) s.tables.eraseDups
  let functions ← s.functions.toList.zipIdx.mapM fun ((name, f?), i) =>
    match f? with
    | none => .error (Fault.words s.line ("function " ++ name ++ " never defined"))
    | some f => .ok { f with parameters := f.parameters.mapIdx fun k _ => known.contains (i, k) }
  let excess? := s.calls.reverse.find? fun (f, count, _) =>
    (functions[f]?).any fun x => x.parameters.size < count
  match excess? with
  | some (f, _, line) =>
    throw (.words line ("too many arguments in call to " ++ ((s.functions[f]?).map (·.1)).getD ""))
  | none => pure ()
  let shared := (s.names.toList.zipIdx.filter fun (n, _) => n.2 == some true).map (·.2)
  let handed := (s.sharedLinks.filter fun l => known.contains l.2).map (·.1)
  return {
    begins := x.begins.reverse
    ends := x.ends.reverse
    rules := x.rules.reverse.toArray
    functions := functions.toArray
    names := s.names.map (·.1)
    tables := (shared ++ handed).eraseDups }

end LintLedger.Utility.Awk
