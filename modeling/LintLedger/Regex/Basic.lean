import LintLedger.Text.Ranges

/-!
# Regular expressions

A regular expression stands for the texts that it fits.  Where it fits several parts of a text
that begin at one place, the longest counts; and so, from left to right, for each of its own
parts.

## Main Definitions

* `Regex` -- regular expressions
* `Regex.Subject` -- a text that is looked at
* `Regex.spans` -- the parts of a text that an expression fits, the longest first
* `Regex.find?` -- the first part of a text that an expression fits

## Design Notes

The parts that an expression fits are kept by where they end.  Two parts with the same end are
the same for whatever comes after them, unless it asks what a group has fitted, so that one of
them is enough and no expression takes long.
-/

namespace LintLedger

/-- What lies around a place in a text. -/
inductive Regex.Place where
  | lineStart
  | lineEnd
  | textStart
  | textEnd
  /-- The begin or the end of a word. -/
  | boundary
  /-- No begin and no end of a word. -/
  | interior
  | wordStart
  | wordEnd
deriving DecidableEq, Repr

/-- Regular expressions. -/
inductive Regex where
  | nothing
  /-- One character of some runs, or one of all others. -/
  | one (others : Bool) (runs : Text.Ranges)
  | place (p : Regex.Place)
  | sequence (a b : Regex)
  | either (a b : Regex)
  /-- At least so many times, and at most so many if there is a limit. -/
  | iterate (a : Regex) (least : Nat) (most? : Option Nat)
  | group (n : Nat) (a : Regex)
  /-- What a group has fitted. -/
  | same (n : Nat)
deriving Repr

namespace Regex

/-- One character. -/
def char (c : Char) : Regex := .one false [(c.toNat, c.toNat)]

/-- Any character. -/
def any : Regex := .one true []

/-- Whether an expression asks what a group has fitted. -/
def looksBack : Regex → Bool
  | .sequence a b => looksBack a || looksBack b
  | .either a b => looksBack a || looksBack b
  | .iterate a _ _ => looksBack a
  | .group _ a => looksBack a
  | .same _ => true
  | _ => false

/-- A text that is looked at. -/
structure Subject where
  chars : Array Char
  /-- Whether a letter may stand for itself in the other case. -/
  foldsCase : Bool := false
  /-- Whether lines begin and end within the text. -/
  hasLines : Bool := false

/-- A part of a text by its end, with what groups have fitted: the number, the begin and the end
of each, the last one first. -/
structure Span where
  finish : Nat
  groups : List (Nat × Nat × Nat)
deriving DecidableEq, Repr

/-- The part that a group has fitted. -/
def Span.group? (p : Span) (n : Nat) : Option (Nat × Nat) :=
  (p.groups.find? fun g => g.1 == n).map (·.2)

/-! ## Single characters and places -/

/-- A character in the other case. -/
def otherCase (c : Char) : Char := if c.isLower then c.toUpper else c.toLower

/-- Whether a character is one of some runs, or else one of all others. -/
def isOne (s : Subject) (others : Bool) (runs : Text.Ranges) (c : Char) : Bool :=
  let inRuns := runs.has c || (s.foldsCase && runs.has (otherCase c))
  inRuns != others

/-- Whether a character is part of a word. -/
def isWordChar (c : Char) : Bool := c.isAlphanum || c == '_'

/-- Whether there is such a place. -/
def isPlace (s : Subject) (at' : Nat) (p : Place) : Bool :=
  let before? := if at' = 0 then none else s.chars[at' - 1]?
  let after? := s.chars[at']?
  let inWord (c? : Option Char) : Bool := c?.any isWordChar
  match p with
  | .lineStart => before?.isNone || (s.hasLines && before? == some '\n')
  | .lineEnd => after?.isNone || (s.hasLines && after? == some '\n')
  | .textStart => before?.isNone
  | .textEnd => after?.isNone
  | .boundary => inWord before? != inWord after?
  | .interior => inWord before? == inWord after?
  | .wordStart => !inWord before? && inWord after?
  | .wordEnd => inWord before? && !inWord after?

/-! ## Parts by their ends -/

/-- Whether two parts are the same for whatever comes after them. -/
def areSame (looksBack : Bool) (p q : Span) : Bool :=
  p.finish == q.finish && (!looksBack || p.groups == q.groups)

/-- Parts without those that are the same as one just before them. -/
def thin (looksBack : Bool) (last : Span) : List Span → List Span
  | [] => []
  | p :: rest =>
    if areSame looksBack last p then thin looksBack last rest else p :: thin looksBack p rest

/-- Two rows of parts, the longest first, as one; of two that are the same, that of the first
row is kept. -/
def merge (looksBack : Bool) (a b : List Span) : List Span :=
  match a, b with
  | [], b => b
  | a, [] => a
  | a, b =>
    match a.merge b fun p q => q.finish ≤ p.finish with
    | [] => []
    | p :: rest => p :: thin looksBack p rest

/-- What is fitted after each of some parts. -/
def after (looksBack : Bool) (step : Span → List Span) (ps : List Span) : List Span :=
  match ps with
  | [p] => step p
  | ps => ps.foldr (fun p done => merge looksBack (step p) done) []

/-- What is fitted after so many steps. -/
def afterSteps (looksBack : Bool) (step : Span → List Span) : Nat → List Span → List Span
  | 0, ps => ps
  | n + 1, ps => afterSteps looksBack step n (after looksBack step ps)

/-- What is fitted after at most so many steps that lead on. -/
def withinSteps (looksBack : Bool) (step : Span → List Span) : Nat → List Span → List Span
  | 0, ps => ps
  | n + 1, ps =>
    let next := after looksBack (fun p => (step p).filter fun q => p.finish < q.finish) ps
    if next.isEmpty then ps
    else merge looksBack (withinSteps looksBack step n next) ps

/-- What is fitted after any number of steps that lead on: the parts still to be looked at come
first, and those that were found, the last one first, come second. -/
def closure (looksBack : Bool) (step : Span → List Span) :
    Nat → List Span → List Span → List Span
  | 0, _, found => found
  | _, [], found => found
  | fuel + 1, p :: waiting, found =>
    if found.any (areSame looksBack p) then closure looksBack step fuel waiting found
    else
      let next := (step p).filter fun q => p.finish < q.finish
      closure looksBack step fuel (next ++ waiting) (p :: found)

/-- More steps than are taken in any text. -/
def stepLimit : Nat := 1000000000000

/-- The end of a run of characters that begins somewhere, of at most so many. -/
def runEnd (s : Subject) (others : Bool) (runs : Text.Ranges) : Nat → Nat → Nat
  | 0, i => i
  | n + 1, i =>
    match s.chars[i]? with
    | some c => if isOne s others runs c then runEnd s others runs n (i + 1) else i
    | none => i

/-- The parts of a text that an expression fits where another part ends, the longest first. -/
def spans (s : Subject) (looksBack : Bool) : Regex → Span → List Span
  | .nothing, p => [p]
  | .one others runs, p =>
    match s.chars[p.finish]? with
    | some c => if isOne s others runs c then [⟨p.finish + 1, p.groups⟩] else []
    | none => []
  | .place kind, p => if isPlace s p.finish kind then [p] else []
  | .sequence a b, p => after looksBack (spans s looksBack b) (spans s looksBack a p)
  | .either a b, p => merge looksBack (spans s looksBack a p) (spans s looksBack b p)
  | .iterate (.one others runs) least most?, p =>
    let limit := most?.getD s.chars.size
    let finish := runEnd s others runs (min limit (s.chars.size - p.finish)) p.finish
    let first := p.finish + least
    (List.range (finish + 1 - first)).map fun k => ⟨finish - k, p.groups⟩
  | .iterate a least most?, p =>
    let step := spans s looksBack a
    let begun := afterSteps looksBack step least [p]
    match most? with
    | some most => withinSteps looksBack step (most - least) begun
    | none =>
      match begun with
      | [] => []
      | begun =>
        ((closure looksBack step stepLimit begun []).reverse).mergeSort fun p q =>
          q.finish ≤ p.finish
  | .group n a, p =>
    (spans s looksBack a p).map fun q => ⟨q.finish, (n, p.finish, q.finish) :: q.groups⟩
  | .same n, p =>
    match p.group? n with
    | none => []
    | some (first, last) =>
      let length := last - first
      let fits := (List.range length).all fun k =>
        match s.chars[first + k]?, s.chars[p.finish + k]? with
        | some x, some y => x == y || (s.foldsCase && otherCase x == y)
        | _, _ => false
      if fits then [⟨p.finish + length, p.groups⟩] else []

/-- The longest part of a text that begins somewhere and that an expression fits. -/
def at? (r : Regex) (s : Subject) (start : Nat) : Option Span :=
  (spans s r.looksBack r ⟨start, []⟩).head?

/-- The first part of a text that an expression fits, looked for in so many places from one on;
the value is where it begins, and the part. -/
def findWithin (r : Regex) (s : Subject) : Nat → Nat → Option (Nat × Span)
  | 0, _ => none
  | places + 1, start =>
    match r.at? s start with
    | some p => some (start, p)
    | none => findWithin r s places (start + 1)

/-- The first part of a text from a place on that an expression fits. -/
def find? (r : Regex) (s : Subject) (start : Nat) : Option (Nat × Span) :=
  findWithin r s (s.chars.size + 1 - start) start

/-- Whether an expression fits any part of a text. -/
def occursIn (r : Regex) (s : Subject) : Bool := (r.find? s 0).isSome

end Regex

end LintLedger
