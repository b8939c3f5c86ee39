/-!
# White space, trimming and lines

White space is the Unicode property `White_Space`, twenty-five code points.  Trimming, word
splitting and the line rule of the library all rest on it.

## Main Definitions

* `isBlank` -- the property
* `trim` -- cuts blanks from both ends
* `words` -- the pieces between runs of blanks
* `lines` -- the pieces before each line feed, one carriage return before it dropped
-/

namespace LintLedger.Text

/-- Unicode `White_Space`. -/
def isBlank (c : Char) : Bool :=
  let n := c.toNat
  (0x09 ≤ n && n ≤ 0x0d) || n == 0x20 || n == 0x85 || n == 0xa0 || n == 0x1680 ||
  (0x2000 ≤ n && n ≤ 0x200a) || n == 0x2028 || n == 0x2029 || n == 0x202f ||
  n == 0x205f || n == 0x3000

/-- Drops the elements at the end that satisfy `p`. -/
def dropTail {α : Type} (p : α → Bool) (xs : List α) : List α :=
  (xs.reverse.dropWhile p).reverse

/-- Characters without the blanks at both ends. -/
def trimChars (cs : List Char) : List Char := dropTail isBlank (cs.dropWhile isBlank)

/-- Text without the blanks at both ends. -/
def trim (s : String) : String := String.ofList (trimChars s.toList)

/-- Text without the characters at its end that satisfy `p`. -/
def trimEndOf (p : Char → Bool) (s : String) : String := String.ofList (dropTail p s.toList)

/-- Whether nothing but blanks stands in the text. -/
def isBlankText (s : String) : Bool := s.toList.all isBlank

/-- Cuts a list at every element that satisfies `p`; there is always one piece more than
there are cuts. -/
def splitAll {α : Type} (p : α → Bool) : List α → List (List α)
  | [] => [[]]
  | c :: rest =>
    if p c then [] :: splitAll p rest
    else
      match splitAll p rest with
      | [] => [[c]]
      | piece :: pieces => (c :: piece) :: pieces

/-- The nonempty pieces between runs of blanks. -/
def words (s : String) : List String :=
  ((splitAll isBlank s.toList).filter (fun w => !w.isEmpty)).map String.ofList

/-- The pieces of a text cut at a separator character. -/
def splitOnChar (p : Char → Bool) (s : String) : List String :=
  (splitAll p s.toList).map String.ofList

/-- Drops a carriage return at the end of a line that a line feed ended. -/
def dropReturn (cs : List Char) : List Char :=
  match cs.reverse with
  | '\r' :: rest => rest.reverse
  | _ => cs

/-- Lines of a list of characters: a line feed ends a line, a carriage return before it
belongs to the ending, and an empty rest after the last line feed is no line. -/
def linesOf (cs : List Char) : List (List Char) :=
  match (splitAll (· == '\n') cs).reverse with
  | [] => []
  | last :: before =>
    let ended := before.reverse.map dropReturn
    if last.isEmpty then ended else ended ++ [last]

/-- The lines of a text. -/
def lines (s : String) : List String := (linesOf s.toList).map String.ofList

/-- The last `n` characters of a text. -/
def tail (n : Nat) (s : String) : String :=
  let cs := s.toList
  String.ofList (cs.drop (cs.length - n))

/-- What follows `front`, if the list begins with it. -/
def afterFront? : List Char → List Char → Option (List Char)
  | [], cs => some cs
  | f :: front, c :: cs => if f = c then afterFront? front cs else none
  | _ :: _, [] => none

/-- Whether `needle` stands somewhere in `hay`. -/
def containsChars (needle : List Char) : List Char → Bool
  | [] => needle.isEmpty
  | c :: rest => needle.isPrefixOf (c :: rest) || containsChars needle rest

/-- Whether the text `needle` stands somewhere in `hay`. -/
def contains (hay needle : String) : Bool := containsChars needle.toList hay.toList

end LintLedger.Text
