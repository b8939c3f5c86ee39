import LintLedger.Text.Bytes

/-!
# Patterns of a shell

A pattern is a row of characters, some of which stand for others: a question mark for any one,
an asterisk for any row, a set in brackets for any of its members.  A backslash takes this from
the character after it.

## Main Definitions

* `matchSet` -- a set in brackets
* `matches` -- whether a text fits a pattern
* `trimmed` -- a text without a part at one of its ends that fits a pattern
-/

namespace LintLedger.Shell.Pattern

/-- The place of a character among the others; the bytes beyond the first half come first. -/
def rank (c : Char) : Int := if c.toNat < 128 then c.toNat else (c.toNat : Int) - 256

/-- The classes of characters by their names. -/
def classes : List (String × (Char → Bool)) :=
  let isPunct (c : Char) : Bool := '!' ≤ c && c ≤ '~' && !c.isAlphanum
  let isSpace (c : Char) : Bool := c == ' ' || ('\t' ≤ c && c ≤ '\r')
  [("alnum", Char.isAlphanum),
   ("cntrl", fun c => c < ' ' || c == '\x7f'),
   ("lower", Char.isLower),
   ("space", isSpace),
   ("alpha", Char.isAlpha),
   ("digit", Char.isDigit),
   ("print", fun c => ' ' ≤ c && c ≤ '~'),
   ("upper", Char.isUpper),
   ("blank", fun c => c == ' ' || c == '\t'),
   ("graph", fun c => '!' ≤ c && c ≤ '~'),
   ("punct", isPunct),
   ("xdigit", fun c => c.isDigit || ('a' ≤ c && c ≤ 'f') || ('A' ≤ c && c ≤ 'F'))]

/-- A class that a pattern names after its opening bracket, and what comes after it. -/
def classAt? (p : List Char) : Option ((Char → Bool) × List Char) :=
  classes.findSome? fun (name, member) =>
    let full := ":".toList ++ name.toList ++ ":]".toList
    if full.isPrefixOf p then some (member, p.drop full.length) else none

/-- Reads the members of a set up to its end.  The value is whether `x` is one of them, and
what comes after the set; there is none if the set has no end. -/
def matchMembers (x : Char) : Nat → Bool → List Char → Option (Bool × List Char)
  | 0, _, _ => none
  | _, _, [] => none
  | fuel + 1, found, c :: p =>
    let next (found : Bool) (p : List Char) : Option (Bool × List Char) :=
      match p with
      | ']' :: rest => some (found, rest)
      | p => matchMembers x fuel found p
    let single (c : Char) (p : List Char) : Option (Bool × List Char) :=
      match p with
      | '-' :: q =>
        if q.head? = some ']' then next (found || x == c) p
        else
          match (match q with
            | '\\' :: r => r
            | q => q) with
          | [] => none
          | last :: rest => next (found || (rank c ≤ rank x && rank x ≤ rank last)) rest
      | p => next (found || x == c) p
    if c == '[' then
      match classAt? p with
      | some (member, rest) => next (found || member x) rest
      | none => single c p
    else if c == '\\' then
      match p with
      | [] => none
      | e :: rest => single e rest
    else single c p

/-- A set after its opening bracket: whether `x` fits it, and what comes after it. -/
def matchSet (x : Char) (p : List Char) : Option (Bool × List Char) :=
  match p with
  | '!' :: q => (matchMembers x (q.length + 1) false q).map fun m => (!m.1, m.2)
  | p => matchMembers x (p.length + 1) false p

/-- A text and all that is left of it when characters are taken from its begin. -/
def suffixes : List Char → List (List Char)
  | [] => [[]]
  | c :: rest => (c :: rest) :: suffixes rest

/-- Whether a text fits a pattern that takes at most so many steps. -/
def matchesWithin : Nat → List Char → List Char → Bool
  | 0, p, s => p.isEmpty && s.isEmpty
  | fuel + 1, p, s =>
    let literal (c : Char) (p : List Char) : Bool :=
      match s with
      | x :: rest => x == c && matchesWithin fuel p rest
      | [] => false
    match p with
    | [] => s.isEmpty
    | '\\' :: c :: p => literal c p
    | '?' :: p =>
      match s with
      | _ :: rest => matchesWithin fuel p rest
      | [] => false
    | '*' :: p =>
      match p.dropWhile (· == '*') with
      | [] => true
      | p => (suffixes s).any fun rest => matchesWithin fuel p rest
    | '[' :: p =>
      match s with
      | [] => false
      | x :: rest =>
        match matchSet x p with
        | some (fits, p) => fits && matchesWithin fuel p rest
        | none => literal '[' p
    | c :: p => literal c p

/-- Whether a text fits a pattern. -/
def fits (p s : List Char) : Bool := matchesWithin (p.length + 1) p s

/-- The characters before the first zero character, where a row of texts has the end of its
first text. -/
def firstText (s : List Char) : List Char := s.takeWhile (· != '\x00')

/-- A text without a part at its begin, or else at its end, that fits a pattern: the longest
such part, or else the shortest.  Of a row of texts, each is looked at by itself. -/
def trimmed (atStart longest : Bool) (p s : List Char) : List Char :=
  let cuts := List.range (s.length + 1)
  let fromLeft := atStart != longest
  let cuts := if fromLeft then cuts.take ((firstText s).length + 1) else cuts.reverse
  let cut? := cuts.find? fun n =>
    if atStart then fits p (firstText (s.take n)) else fits p (firstText (s.drop n))
  match cut? with
  | some n => if atStart then s.drop n else s.take n
  | none => s

end LintLedger.Shell.Pattern
