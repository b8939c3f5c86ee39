import LintLedger.Text.Directive

/-!
# Formatted output

Two commands print text with escapes: one joins its arguments with blanks, the other fills a
format with them, beginning anew while arguments are left.  All text is bytewise.

## Main Definitions

* `unescaped` -- a text with its escapes replaced
* `echoed` -- the joined arguments
* `Formatted`, `format` -- a format filled with arguments
-/

namespace LintLedger.Shell

/-! ## Escapes -/

/-- The value of at most so many octal digits, and the rest after them. -/
def octalDigits (value : Nat) : Nat → List Char → Nat × List Char
  | 0, cs => (value, cs)
  | _, [] => (value, [])
  | n + 1, c :: rest =>
    match Text.digitIn? 8 c with
    | some d => octalDigits (8 * value + d) n rest
    | none => (value, c :: rest)

/-- The byte of an octal escape. -/
def octalChar (value : Nat) : Char := Char.ofNat (value % 256)

/-- The character of an escape with one letter. -/
def letterEscape? : Char → Option Char
  | 'a' => some '\x07'
  | 'b' => some '\x08'
  | 'e' => some '\x1b'
  | 'f' => some '\x0c'
  | 'n' => some '\n'
  | 'r' => some '\x0d'
  | 't' => some '\t'
  | 'v' => some '\x0b'
  | '\\' => some '\\'
  | _ => none

/-- The character of an escape after its backslash, and what comes after it; a backslash that
begins no escape stands for itself. -/
def escapeAt (cs : List Char) : Char × List Char :=
  match cs with
  | [] => ('\\', [])
  | c :: rest =>
    match letterEscape? c with
    | some x => (x, rest)
    | none =>
      if (Text.digitIn? 8 c).isSome then
        let (value, rest) := octalDigits 0 3 cs
        (octalChar value, rest)
      else ('\\', cs)

/-- A text with its escapes replaced.  An octal escape begins with a zero more. -/
def unescapedWithin : Nat → List Char → List Char
  | 0, _ => []
  | _, [] => []
  | fuel + 1, '\\' :: rest =>
    let (x, rest) := match rest with
      | '0' :: digits =>
        let (value, rest) := octalDigits 0 3 digits
        (octalChar value, rest)
      | rest => escapeAt rest
    x :: unescapedWithin fuel rest
  | fuel + 1, c :: rest =>
    c :: unescapedWithin fuel rest

/-- The characters before the escape that ends all output, if it is there. -/
def untilEnd : List Char → List Char × Bool
  | [] => ([], false)
  | '\\' :: 'c' :: _ => ([], true)
  | '\\' :: c :: rest =>
    let (more, ended) := untilEnd rest
    ('\\' :: c :: more, ended)
  | c :: rest =>
    let (more, ended) := untilEnd rest
    (c :: more, ended)

/-- A text with its escapes replaced, and whether one of them ends all output. -/
def unescaped (text : String) : String × Bool :=
  let (cs, ended) := untilEnd text.toList
  (String.ofList (unescapedWithin (cs.length + 1) cs), ended)

/-- The arguments with blanks between them up to the one that ends all output, if there is. -/
def echoedWords : List String → List String × Bool
  | [] => ([], false)
  | w :: rest =>
    let (text, ended) := unescaped w
    if ended then ([text], true)
    else
      let (more, ended) := echoedWords rest
      (text :: more, ended)

/-- The arguments joined, with a line feed at the end unless the first asks for none. -/
def echoed (args : List String) : String :=
  let (args, newline) := match args with
    | "-n" :: rest => (rest, false)
    | all => (all, true)
  let (words, ended) := echoedWords args
  " ".intercalate words ++ (if newline && !ended then "\n" else "")

/-! ## Formats -/

/-- A piece of what filling a format came to. -/
inductive Piece where
  | text (s : String)
  /-- What is wrong with an argument that should be a number. -/
  | warning (s : String)
deriving DecidableEq, Repr

/-- What filling a format came to. -/
structure Formatted where
  pieces : List Piece
  /-- What is wrong with the format, if anything. -/
  fault? : Option String

/-- The text of a filled format. -/
def Formatted.output (f : Formatted) : String :=
  String.join (f.pieces.map fun
    | .text s => s
    | .warning _ => "")

/-- What is wrong with arguments that should be numbers. -/
def Formatted.warnings (f : Formatted) : List String :=
  f.pieces.filterMap fun
    | .text _ => none
    | .warning s => some s

/-- Where a format is being filled. -/
structure Filling where
  /-- The pieces so far, the last one first. -/
  done : List Piece := []
  args : List String
  /-- Whether any argument was taken. -/
  hasTaken : Bool := false

namespace Filling

/-- The next argument, if there is one. -/
def take (f : Filling) : Option String × Filling :=
  match f.args with
  | [] => (none, f)
  | a :: rest => (some a, { f with args := rest, hasTaken := true })

/-- More text. -/
def add (f : Filling) (s : String) : Filling := { f with done := .text s :: f.done }

/-- More to be warned of. -/
def warn (f : Filling) (s : String) : Filling := { f with done := .warning s :: f.done }

/-- What is wrong with a number that ended before `rest`. -/
def checked (f : Filling) (arg : String) (rest : List Char) (outOfRange : Bool) : Filling :=
  if !rest.isEmpty then
    if rest.length = arg.length then f.warn (arg ++ ": expected numeric value")
    else f.warn (arg ++ ": not completely converted")
  else if outOfRange then f.warn (arg ++ ": Numerical result out of range")
  else f

/-- The code of the character after a quote. -/
def quotedCode? (arg : String) : Option Nat :=
  match arg.toList with
  | '\'' :: c :: _ => some c.toNat
  | '"' :: c :: _ => some c.toNat
  | ['\''] => some 0
  | ['"'] => some 0
  | _ => none

/-- The next argument as an integer of 64 bits, with a sign or without. -/
def integer (f : Filling) (signed : Bool) : Int × Filling :=
  match f.take with
  | (none, f) => (0, f)
  | (some arg, f) =>
    match quotedCode? arg with
    | some n => (n, f)
    | none =>
      let r := Text.readInteger none arg.toList
      let v := if signed then Text.clamp64 r.value
        else if Nat.pow 2 64 ≤ r.value.natAbs then Nat.pow 2 64 - 1
        else r.value % Nat.pow 2 64
      let lost := if signed then v != r.value else Nat.pow 2 64 ≤ r.value.natAbs
      (v, f.checked arg r.rest lost)

/-- The next argument as a number. -/
def quantity (f : Filling) : Decimal.Quantity × Filling :=
  match f.take with
  | (none, f) => (.finite false 0 1, f)
  | (some arg, f) =>
    match quotedCode? arg with
    | some n => (.finite false n 1, f)
    | none =>
      match Decimal.readQuantity arg.toList with
      | none => (.finite false 0 1, f.checked arg arg.toList false)
      | some r => (r.value, f.checked arg r.rest r.outOfRange)

end Filling

/-- A width or a precision: digits, or the next argument in the place of an asterisk. -/
def numberOrNext (f : Filling) (cs : List Char) : Int × List Char × Filling :=
  match cs with
  | '*' :: rest =>
    let (v, f) := f.integer true
    (v, rest.dropWhile Char.isDigit, f)
  | cs =>
    let digits := cs.takeWhile Char.isDigit
    (Int.ofNat (Text.natOfDigits digits), cs.drop digits.length, f)

/-- What a place in a format comes to. -/
inductive Step where
  | goesOn (f : Filling) (rest : List Char)
  /-- All output ends. -/
  | ends (f : Filling)
  | fails (f : Filling) (fault : String)

/-- Fills the directive after a percent sign. -/
def fillDirective (f : Filling) (cs : List Char) : Step :=
  let isFlag (c : Char) : Bool := "#-+ 0".toList.contains c
  let flags := cs.takeWhile isFlag
  let (width, rest, f) := numberOrNext f (cs.drop flags.length)
  let (precision?, rest, f) : Option Int × List Char × Filling := match rest with
    | '.' :: r =>
      let (p, r, f) := numberOrNext f r
      (some p, r, f)
    | r => (none, r, f)
  match rest with
  | [] => .fails f "missing format character"
  | kind :: after =>
    let d : Text.Directive :=
      { left := flags.contains '-' || width < 0
        plus := flags.contains '+'
        blank := flags.contains ' '
        full := flags.contains '#'
        zero := flags.contains '0'
        width := width.natAbs
        precision? := precision?.bind fun p => if p < 0 then none else some p.toNat
        kind := kind }
    if kind == 'b' then
      let (arg?, f) := f.take
      let (text, ended) := unescaped (arg?.getD "")
      let f := f.add (d.text text)
      if ended then .ends f else .goesOn f after
    else if kind == 'c' then
      let (arg?, f) := f.take
      let first := match arg? with
        | none => "\x00"
        | some a => match a.toList with
          | [] => "\x00"
          | c :: _ => String.singleton c
      .goesOn (f.add (d.padded first)) after
    else if kind == 's' then
      let (arg?, f) := f.take
      .goesOn (f.add (d.text (arg?.getD ""))) after
    else if kind == 'd' || kind == 'i' then
      let (v, f) := f.integer true
      .goesOn (f.add (d.integer v)) after
    else if "ouxX".toList.contains kind then
      let (v, f) := f.integer false
      .goesOn (f.add (d.integer v)) after
    else if "aAeEfFgG".toList.contains kind then
      let (q, f) := f.quantity
      .goesOn (f.add (d.quantity q)) after
    else
      let shown := String.ofList ('%' :: cs.take (cs.length - after.length))
      .fails f (shown ++ ": invalid directive")

/-- One pass over a format. -/
def fillOnce : Nat → Filling → List Char → Step
  | 0, f, _ => .goesOn f []
  | _, f, [] => .goesOn f []
  | fuel + 1, f, '%' :: '%' :: rest => fillOnce fuel (f.add "%") rest
  | fuel + 1, f, '%' :: rest =>
    match fillDirective f rest with
    | .goesOn f rest => fillOnce fuel f rest
    | step => step
  | fuel + 1, f, '\\' :: rest =>
    let (c, rest) := escapeAt rest
    fillOnce fuel (f.add (String.singleton c)) rest
  | fuel + 1, f, c :: rest =>
    let bare := rest.takeWhile fun c => c != '%' && c != '\\'
    fillOnce fuel (f.add (String.ofList (c :: bare))) (rest.drop bare.length)

/-- What was filled. -/
def Filling.formatted (f : Filling) (fault? : Option String) : Formatted :=
  ⟨f.done.reverse, fault?⟩

/-- Passes over a format while arguments are left and are taken. -/
def fillAll (format : List Char) : Nat → Filling → Formatted
  | 0, f => f.formatted none
  | turns + 1, f =>
    match fillOnce (format.length + 1) f format with
    | .goesOn f _ =>
      if f.hasTaken && !f.args.isEmpty then fillAll format turns f else f.formatted none
    | .ends f => f.formatted none
    | .fails f fault => f.formatted (some fault)

/-- A format filled with arguments. -/
def format (form : String) (args : List String) : Formatted :=
  fillAll form.toList (args.length + 1) { args := args }

end LintLedger.Shell
