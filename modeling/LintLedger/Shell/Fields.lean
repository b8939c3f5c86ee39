import LintLedger.Shell.Pattern

/-!
# Fields of expanded words

What a word expands to is a row of glyphs: characters, some of them guarded by quotes, and the
quotes themselves.  Only within some stretches of the row do separators divide it into fields.

## Main Definitions

* `Glyph`, `Stretch`, `Expanded` -- what a word has expanded to
* `Expanded.fields` -- its fields
* `textOf`, `patternOf` -- glyphs as text and as a pattern
-/

namespace LintLedger.Shell

/-- What a glyph is. -/
inductive GlyphKind where
  | bare
  /-- A character that stands for itself whatever it is. -/
  | guarded
  /-- The begin or the end of a quoted stretch. -/
  | mark
deriving DecidableEq, Repr

/-- A glyph. -/
structure Glyph where
  char : Char
  kind : GlyphKind
deriving DecidableEq, Repr

/-- A quote. -/
def Glyph.quote : Glyph := ⟨'"', .mark⟩

/-- A stretch in which separators divide. -/
structure Stretch where
  start : Nat
  stop : Nat
  /-- Whether nothing divides but the zero character. -/
  zeroOnly : Bool
deriving DecidableEq, Repr

/-- What a word has expanded to so far. -/
structure Expanded where
  glyphs : Array Glyph
  stretches : Array Stretch

/-- Nothing yet. -/
def Expanded.empty : Expanded := ⟨#[], #[]⟩

namespace Expanded

/-- How many glyphs there are. -/
def size (d : Expanded) : Nat := d.glyphs.size

/-- More glyphs. -/
def append (d : Expanded) (gs : List Glyph) : Expanded := { d with glyphs := d.glyphs ++ gs }

/-- One more stretch, from `start` to the end. -/
def divide (d : Expanded) (start : Nat) (zeroOnly : Bool) : Expanded :=
  { d with stretches := d.stretches.push ⟨start, d.size, zeroOnly⟩ }

/-- No stretch beyond a place. -/
def undivide (d : Expanded) (place : Nat) : Expanded :=
  let first? := d.stretches[0]?
  match first? with
  | none => d
  | some first =>
    if place < first.stop then
      { d with stretches :=
          if place < first.start then #[] else #[{ first with stop := place }] }
    else
      let kept := d.stretches.toList.zipIdx.takeWhile fun (s, i) => i == 0 || s.start < place
      { d with stretches := (kept.map fun (s, _) => { s with stop := min s.stop place }).toArray }

/-- Only the glyphs before a place. -/
def cut (d : Expanded) (place : Nat) : Expanded := { d with glyphs := d.glyphs.take place }

/-- The glyphs from a place on. -/
def glyphsFrom (d : Expanded) (place : Nat) : List Glyph := (d.glyphs.drop place).toList

end Expanded

/-! ## Texts and patterns -/

/-- The text of glyphs, without quotes. -/
def charsOf (gs : List Glyph) : List Char := (gs.filter fun g => g.kind != .mark).map (·.char)

/-- The text of glyphs, without quotes. -/
def textOf (gs : List Glyph) : String := String.ofList (charsOf gs)

/-- The pattern of glyphs: a backslash before each guarded character, unless one is there. -/
def patternFrom : Bool → List Glyph → List Char
  | _, [] => []
  | isFree, g :: rest =>
    match g.kind with
    | .mark => patternFrom true rest
    | .guarded =>
      if isFree then '\\' :: g.char :: patternFrom true rest else g.char :: patternFrom true rest
    | .bare => g.char :: patternFrom (g.char != '\\' || !isFree) rest

/-- The pattern of glyphs. -/
def patternOf (gs : List Glyph) : List Char := patternFrom true gs

/-! ## Fields -/

/-- Where the division into fields is. -/
structure Division where
  /-- Where the field begins that is being read. -/
  start : Nat := 0
  /-- Whether blanks after a field are being passed over. -/
  inBlanks : Bool := false
  /-- Where the end of the last field might be. -/
  last? : Option Nat := none
  /-- How many fields may still be made; none if there is no limit. -/
  left? : Option Nat
  fields : List (Nat × Nat) := []
  /-- Whether the stretch before had only zero characters divide it. -/
  zeroOnly : Bool := false

/-- The separators that are blanks. -/
def blankSeparators : List Char := [' ', '\t', '\n']

/-- One glyph at a place within a stretch. -/
def Division.step (separators : List Char) (afterZero zeroOnly : Bool) (place : Nat) (g : Glyph)
    (x : Division) : Division :=
  let c := g.char
  let divides := g.kind != .mark && (c == '\x00' || separators.contains c)
  let isBlank := divides && (c == '\x00' || blankSeparators.contains c)
  if x.left? = some 0 then
    if isBlank then { x with last? := some (x.last?.getD place) }
    else
      { x with
          last? := if divides && x.inBlanks then x.last? else none
          inBlanks := false }
  else
    let start := if x.inBlanks then (if divides then place + 1 else place) else x.start
    if x.inBlanks && isBlank then { x with start := start }
    else
      let divides := divides && !x.inBlanks
      let x := { x with start := start }
      if divides then
        let inBlanks := if afterZero || zeroOnly then x.inBlanks else isBlank
        if place = start && inBlanks then { x with start := place + 1, inBlanks := false }
        else
          let x := { x with inBlanks := inBlanks }
          match x.left? with
          | some 1 => { x with left? := some 0, last? := some place }
          | left? =>
            { x with
                left? := left?.map (· - 1)
                fields := (start, place) :: x.fields
                start := place + 1 }
      else { x with inBlanks := false }

/-- All glyphs of a stretch. -/
def Division.stretch (separators : List Char) (glyphs : Array Glyph) (s : Stretch)
    (x : Division) : Division :=
  let used := if s.zeroOnly then [] else separators
  let afterZero := x.zeroOnly
  let begun := { x with zeroOnly := s.zeroOnly, inBlanks := false }
  (List.range (s.stop - s.start)).foldl (fun x i =>
    match glyphs[s.start + i]? with
    | some g => x.step used afterZero s.zeroOnly (s.start + i) g
    | none => x) begun

/-- The fields of what a word has expanded to, at most so many if there is a limit. -/
def Expanded.fields (d : Expanded) (separators : List Char) (limit? : Option Nat) :
    List (List Glyph) :=
  let begun : Division := { left? := limit? }
  let x := d.stretches.foldl (fun x s => x.stretch separators d.glyphs s) begun
  let hasStretches := !d.stretches.isEmpty
  let ending := d.size
  let all :=
    if hasStretches && x.zeroOnly then (x.start, ending) :: x.fields
    else
      let stop := x.last?.getD ending
      if stop ≤ x.start then x.fields else (x.start, stop) :: x.fields
  all.reverse.map fun (start, stop) => (d.glyphs.extract start stop).toList

end LintLedger.Shell
