/-!
# Bytes and text

Output of a process is bytes.  As text, each maximal part that is no well-formed UTF-8 is
replaced by one replacement character; a file that must be text is refused instead.  Programs that
know nothing of characters see a text as a row of bytes.  Such a row is kept as text too, in which
each character stands for the byte of its code.

## Main Definitions

* `encode` -- the bytes of a text
* `decodeStep` -- the first character of a byte list, or how many bytes to replace
* `decodeLossy` -- text with replacements
* `decodeStrict?` -- text, if every byte belongs to a well-formed character
* `bytewise` -- the bytes of a text, one character each
* `ofBytewise` -- the text of such a row, malformed parts replaced
* `bytesOf`, `bytewiseOf` -- such a row as a list of bytes, and back
-/

namespace LintLedger.Text

/-- The UTF-8 bytes of a character. -/
def encodeChar (c : Char) : List UInt8 :=
  let n := c.toNat
  if n < 0x80 then [UInt8.ofNat n]
  else if n < 0x800 then [UInt8.ofNat (0xc0 + n / 64), UInt8.ofNat (0x80 + n % 64)]
  else if n < 0x10000 then
    [UInt8.ofNat (0xe0 + n / 4096), UInt8.ofNat (0x80 + n / 64 % 64), UInt8.ofNat (0x80 + n % 64)]
  else
    [UInt8.ofNat (0xf0 + n / 262144), UInt8.ofNat (0x80 + n / 4096 % 64),
     UInt8.ofNat (0x80 + n / 64 % 64), UInt8.ofNat (0x80 + n % 64)]

/-- The UTF-8 bytes of a text. -/
def encode (s : String) : List UInt8 := s.toList.flatMap encodeChar

/-- Whether a byte continues a character. -/
def isContinuation (b : UInt8) : Bool := 0x80 ≤ b.toNat && b.toNat < 0xc0

/-- Least and greatest second byte after a lead byte, and the number of bytes of the
character; `none` for a byte that begins no character of several bytes. -/
def leadRange (b : UInt8) : Option (Nat × Nat × Nat) :=
  let n := b.toNat
  if 0xc2 ≤ n && n ≤ 0xdf then some (0x80, 0xbf, 2)
  else if n == 0xe0 then some (0xa0, 0xbf, 3)
  else if (0xe1 ≤ n && n ≤ 0xec) || n == 0xee || n == 0xef then some (0x80, 0xbf, 3)
  else if n == 0xed then some (0x80, 0x9f, 3)
  else if n == 0xf0 then some (0x90, 0xbf, 4)
  else if 0xf1 ≤ n && n ≤ 0xf3 then some (0x80, 0xbf, 4)
  else if n == 0xf4 then some (0x80, 0x8f, 4)
  else none

/-- The head of a byte list: a character, or nothing, and the bytes after it.  A malformed
head takes the longest part that begins some character, at least one byte. -/
def decodeStep (b : UInt8) (rest : List UInt8) : Option Char × List UInt8 :=
  let n := b.toNat
  if n < 0x80 then (some (Char.ofNat n), rest)
  else
    match leadRange b with
    | none => (none, rest)
    | some (lo, hi, size) =>
      match rest with
      | [] => (none, [])
      | b1 :: rest1 =>
        if b1.toNat < lo || hi < b1.toNat then (none, rest)
        else
          let m1 := b1.toNat % 64
          if size = 2 then (some (Char.ofNat (n % 32 * 64 + m1)), rest1)
          else
            match rest1 with
            | [] => (none, [])
            | b2 :: rest2 =>
              if !isContinuation b2 then (none, rest1)
              else
                let m2 := b2.toNat % 64
                if size = 3 then (some (Char.ofNat ((n % 16 * 64 + m1) * 64 + m2)), rest2)
                else
                  match rest2 with
                  | [] => (none, [])
                  | b3 :: rest3 =>
                    if !isContinuation b3 then (none, rest2)
                    else
                      let m3 := b3.toNat % 64
                      (some (Char.ofNat (((n % 8 * 64 + m1) * 64 + m2) * 64 + m3)), rest3)

theorem length_decodeStep (b : UInt8) (rest : List UInt8) :
    (decodeStep b rest).2.length ≤ rest.length := by
  unfold decodeStep
  dsimp only
  repeat' split
  all_goals simp only [List.length_cons, List.length_nil]
  all_goals omega

/-- The characters of a byte list, `none` where bytes were malformed. -/
def decodeAll : List UInt8 → List (Option Char)
  | [] => []
  | b :: rest =>
    let step := decodeStep b rest
    step.1 :: decodeAll step.2
termination_by bytes => bytes.length
decreasing_by
  have := length_decodeStep b rest
  simp only [List.length_cons]
  omega

/-- The replacement character. -/
def replacement : Char := Char.ofNat 0xfffd

/-- Text of a byte list with one replacement character per malformed part. -/
def decodeLossy (bytes : List UInt8) : String :=
  String.ofList ((decodeAll bytes).map (·.getD replacement))

/-- Text of a byte list that is well formed throughout. -/
def decodeStrict? (bytes : List UInt8) : Option String :=
  ((decodeAll bytes).mapM id).map String.ofList

/-! ## Text byte by byte -/

/-- The character that stands for a byte. -/
def byteChar (b : UInt8) : Char := Char.ofNat b.toNat

/-- A list of bytes, one character each. -/
def bytewiseOf (bytes : List UInt8) : String := String.ofList (bytes.map byteChar)

/-- The bytes that the characters stand for. -/
def bytesOf (s : String) : List UInt8 := s.toList.map fun c => UInt8.ofNat c.toNat

/-- The bytes of a text, one character each. -/
def bytewise (s : String) : String :=
  if s.toList.all fun c => c.toNat < 0x80 then s else bytewiseOf (encode s)

/-- The text of a row of bytes, malformed parts replaced. -/
def ofBytewise (s : String) : String :=
  if s.toList.all fun c => c.toNat < 0x80 then s else decodeLossy (bytesOf s)

end LintLedger.Text
