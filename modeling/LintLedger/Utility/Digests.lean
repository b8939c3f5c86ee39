import LintLedger.Digest.Sha256
import LintLedger.Utility.Paths

/-!
# Digests and encodings of files

## Main Definitions

* `Md5.hexOf`, `Sha1.hexOf` -- the digests of sixteen and of twenty bytes in hexadecimal
* `digests` -- prints digests, or checks them
* `cksum` -- prints checksums
* `base64` -- writes bytes in letters, and reads them
-/

namespace LintLedger.Md5

/-- The words of the rounds: the whole parts of the sines of one, two and so on, times 2^32. -/
def roundWords : Array UInt32 := #[
  0xd76aa478, 0xe8c7b756, 0x242070db, 0xc1bdceee, 0xf57c0faf, 0x4787c62a,
  0xa8304613, 0xfd469501, 0x698098d8, 0x8b44f7af, 0xffff5bb1, 0x895cd7be,
  0x6b901122, 0xfd987193, 0xa679438e, 0x49b40821, 0xf61e2562, 0xc040b340,
  0x265e5a51, 0xe9b6c7aa, 0xd62f105d, 0x02441453, 0xd8a1e681, 0xe7d3fbc8,
  0x21e1cde6, 0xc33707d6, 0xf4d50d87, 0x455a14ed, 0xa9e3e905, 0xfcefa3f8,
  0x676f02d9, 0x8d2a4c8a, 0xfffa3942, 0x8771f681, 0x6d9d6122, 0xfde5380c,
  0xa4beea44, 0x4bdecfa9, 0xf6bb4b60, 0xbebfbc70, 0x289b7ec6, 0xeaa127fa,
  0xd4ef3085, 0x04881d05, 0xd9d4d039, 0xe6db99e5, 0x1fa27cf8, 0xc4ac5665,
  0xf4292244, 0x432aff97, 0xab9423a7, 0xfc93a039, 0x655b59c3, 0x8f0ccc92,
  0xffeff47d, 0x85845dd1, 0x6fa87e4f, 0xfe2ce6e0, 0xa3014314, 0x4e0811a1,
  0xf7537e82, 0xbd3af235, 0x2ad7d2bb, 0xeb86d391
]

/-- By how much each round rotates, for each of the four rows of rounds. -/
def rotations : Array (Array UInt32) :=
  #[#[7, 12, 17, 22], #[5, 9, 14, 20], #[4, 11, 16, 23], #[6, 10, 15, 21]]

/-- The state between blocks. -/
structure State where
  a : UInt32
  b : UInt32
  c : UInt32
  d : UInt32

/-- The state before the first block. -/
def State.initial : State := ⟨0x67452301, 0xefcdab89, 0x98badcfe, 0x10325476⟩

/-- The message followed by a one bit, zeros and its length in bits, in whole blocks. -/
def pad (bytes : List UInt8) : List UInt8 :=
  let size := bytes.length
  let fill := (119 - size % 64) % 64
  let bits := 8 * size
  bytes ++ 0x80 :: List.replicate fill 0 ++
    (List.range 8).map fun i => UInt8.ofNat (bits / Nat.pow 2 (8 * i))

/-- Little-endian words of a byte list whose length is a multiple of four. -/
def wordsOf : List UInt8 → List UInt32
  | a :: b :: c :: d :: rest =>
    (d.toUInt32 <<< 24 ||| c.toUInt32 <<< 16 ||| b.toUInt32 <<< 8 ||| a.toUInt32) :: wordsOf rest
  | _ => []

/-- A round of that number. -/
def round (w : Array UInt32) (s : State) (i : Nat) : State :=
  let (f, k) : UInt32 × Nat := match i / 16 with
    | 0 => ((s.b &&& s.c) ||| ((~~~s.b) &&& s.d), i)
    | 1 => ((s.d &&& s.b) ||| ((~~~s.d) &&& s.c), (5 * i + 1) % 16)
    | 2 => (s.b ^^^ s.c ^^^ s.d, (3 * i + 5) % 16)
    | _ => (s.c ^^^ (s.b ||| (~~~s.d)), 7 * i % 16)
  let n := (rotations.getD (i / 16) #[]).getD (i % 4) 0
  let x := s.a + f + roundWords.getD i 0 + w.getD k 0
  { a := s.d, b := s.b + ((x <<< n) ||| (x >>> (32 - n))), c := s.b, d := s.c }

/-- The state after a block. -/
def compress (s : State) (block : List UInt32) : State :=
  let t := (List.range 64).foldl (round block.toArray) s
  ⟨s.a + t.a, s.b + t.b, s.c + t.c, s.d + t.d⟩

/-- The state after all blocks; the length of the list bounds the blocks. -/
def absorb : Nat → State → List UInt32 → State
  | 0, s, _ => s
  | _, s, [] => s
  | fuel + 1, s, words => absorb fuel (compress s (words.take 16)) (words.drop 16)

/-- The hexadecimal digits of a word, its first byte first. -/
def hexWord (w : UInt32) : List Char :=
  (List.range 4).flatMap fun i =>
    let byte := w.toNat / Nat.pow 256 i % 256
    [Sha256.hexDigit (byte / 16), Sha256.hexDigit (byte % 16)]

/-- The digest of bytes, in hexadecimal. -/
def hexOf (bytes : List UInt8) : String :=
  let words := wordsOf (pad bytes)
  let s := absorb words.length State.initial words
  String.ofList ([s.a, s.b, s.c, s.d].flatMap hexWord)

end LintLedger.Md5

namespace LintLedger.Sha1

/-- The state between blocks. -/
structure State where
  a : UInt32
  b : UInt32
  c : UInt32
  d : UInt32
  e : UInt32

/-- The state before the first block. -/
def State.initial : State := ⟨0x67452301, 0xefcdab89, 0x98badcfe, 0x10325476, 0xc3d2e1f0⟩

/-- Rotation to the left by fewer than 32 places. -/
def rotate (x n : UInt32) : UInt32 := (x <<< n) ||| (x >>> (32 - n))

/-- The 80 words of a block of sixteen. -/
def schedule (block : List UInt32) : Array UInt32 :=
  (List.range 64).foldl (fun w _ =>
    let n := w.size
    let x := w.getD (n - 3) 0 ^^^ w.getD (n - 8) 0 ^^^ w.getD (n - 14) 0 ^^^ w.getD (n - 16) 0
    w.push (rotate x 1)) block.toArray

/-- A round of that number. -/
def round (w : Array UInt32) (s : State) (i : Nat) : State :=
  let (f, k) : UInt32 × UInt32 := match i / 20 with
    | 0 => ((s.b &&& s.c) ||| ((~~~s.b) &&& s.d), 0x5a827999)
    | 1 => (s.b ^^^ s.c ^^^ s.d, 0x6ed9eba1)
    | 2 => ((s.b &&& s.c) ||| (s.b &&& s.d) ||| (s.c &&& s.d), 0x8f1bbcdc)
    | _ => (s.b ^^^ s.c ^^^ s.d, 0xca62c1d6)
  { a := rotate s.a 5 + f + s.e + k + w.getD i 0, b := s.a, c := rotate s.b 30, d := s.c, e := s.d }

/-- The state after a block. -/
def compress (s : State) (block : List UInt32) : State :=
  let t := (List.range 80).foldl (round (schedule block)) s
  ⟨s.a + t.a, s.b + t.b, s.c + t.c, s.d + t.d, s.e + t.e⟩

/-- The state after all blocks; the length of the list bounds the blocks. -/
def absorb : Nat → State → List UInt32 → State
  | 0, s, _ => s
  | _, s, [] => s
  | fuel + 1, s, words => absorb fuel (compress s (words.take 16)) (words.drop 16)

/-- The digest of bytes, in hexadecimal. -/
def hexOf (bytes : List UInt8) : String :=
  let words := Sha256.wordsOf (Sha256.pad bytes)
  let s := absorb words.length State.initial words
  String.ofList ([s.a, s.b, s.c, s.d, s.e].flatMap Sha256.hexWord)

end LintLedger.Sha1

namespace LintLedger.Utility

open LintLedger.Machine

/-! ## Digests -/

/-- The name of a file in a line with its digest, and what stands in front of the line. -/
def digestName (name : String) : String × String :=
  if name.toList.any fun c => c == '\\' || c == '\n' then
    ("\\", (name.replace "\\" "\\\\").replace "\n" "\\n")
  else ("", name)

/-- A line with a digest taken apart: the digest, and the name of the file. -/
def digestLine? (size : Nat) (line : List Char) : Option (String × String) :=
  let digest := line.take size
  let isHex (c : Char) : Bool := (Text.digitIn? 16 c).isSome
  match line.drop size with
  | ' ' :: c :: name =>
    if digest.length = size && digest.all isHex && (c == ' ' || c == '*') && !name.isEmpty then
      some (String.ofList (digest.map Char.toLower), String.ofList name)
    else none
  | _ => none

/-- What checking came to. -/
structure Checked where
  good : Nat := 0
  bad : Nat := 0
  unread : Nat := 0
  malformed : Nat := 0

/-- Checks the digests in a file. -/
def checkDigests (hexOf : List UInt8 → String) (isQuiet isSilent : Bool) (path : String) :
    Work Unit := do
  match ← act (readInput path) with
  | .error e => warnFile path e
  | .ok text =>
    let size := (hexOf []).length
    let mut x : Checked := {}
    for l in linesOf '\n' text do
      match digestLine? size l.chars with
      | none => x := { x with malformed := x.malformed + 1 }
      | some (digest, name) =>
        match ← act (readInput name) with
        | .error e =>
          complain (Text.quotedIfNeeded name ++ ": " ++ e.words)
          if !isSilent then putLine (name ++ ": FAILED open or read")
          x := { x with unread := x.unread + 1 }
        | .ok content =>
          if hexOf (Text.bytesOf content) = digest then
            if !isQuiet && !isSilent then putLine (name ++ ": OK")
            x := { x with good := x.good + 1 }
          else
            if !isSilent then putLine (name ++ ": FAILED")
            x := { x with bad := x.bad + 1 }
    flush
    let shown := if path = "-" then "'standard input'" else Text.quotedIfNeeded path
    let tell (n : Nat) (one many : String) : Work Unit := do
      if n != 0 && !isSilent then
        complain ("WARNING: " ++ toString n ++ " " ++ (if n = 1 then one else many))
    if x.good + x.bad + x.unread = 0 then
      warn (shown ++ ": no properly formatted checksum lines found")
    else
      tell x.malformed "line is improperly formatted" "lines are improperly formatted"
      tell x.unread "listed file could not be read" "listed files could not be read"
      tell x.bad "computed checksum did NOT match" "computed checksums did NOT match"
      if x.bad + x.unread != 0 then fails

/-- Prints the digests of files, or checks them. -/
def digests (title : String) (hexOf : List UInt8 → String) (words : List String) : Work Unit := do
  let g := grammar "bctwz" [("binary", 'b'), ("check", 'c'), ("text", 't'), ("warn", 'w'), ("zero", 'z')]
  let g := { g with names := ("tag", '\x01', .nothing) :: ("quiet", '\x02', .nothing) ::
    ("status", '\x03', .nothing) :: ("strict", '\x04', .nothing) ::
    ("ignore-missing", '\x05', .nothing) :: g.names }
  let t ← readOptions g words
  let paths := if t.operands.isEmpty then ["-"] else t.operands
  if t.has 'c' then
    paths.forM (checkDigests hexOf (t.has '\x02') (t.has '\x03'))
  else
    paths.forM fun path => do
      match ← act (readInput path) with
      | .error e => warnFile path e
      | .ok text =>
        let digest := hexOf (Text.bytesOf text)
        let stop := if t.has 'z' then "\x00" else "\n"
        let (front, name) := if t.has 'z' then ("", path) else digestName path
        if t.has '\x01' then put (front ++ title ++ " (" ++ name ++ ") = " ++ digest ++ stop)
        else
          let mark := if t.last? ['b', 't'] = some 'b' then " *" else "  "
          put (front ++ digest ++ mark ++ name ++ stop)

/-- The remainder of a row of bits, from a byte on, by the polynomial of checksums. -/
def checksumStep (c : UInt32) (byte : UInt8) : UInt32 :=
  (List.range 8).foldl (fun c _ =>
    if c &&& 0x80000000 != 0 then (c <<< 1) ^^^ 0x04c11db7 else c <<< 1)
    (c ^^^ (byte.toUInt32 <<< 24))

/-- The bytes of a length, the least first. -/
def lengthBytes : Nat → Nat → List UInt8
  | 0, _ => []
  | fuel + 1, n => if n = 0 then [] else UInt8.ofNat (n % 256) :: lengthBytes fuel (n / 256)

/-- The checksum of bytes, which counts their number too. -/
def checksum (bytes : List UInt8) : UInt32 :=
  ~~~((bytes ++ lengthBytes 16 bytes.length).foldl checksumStep 0)

/-- Prints the checksums of files. -/
def cksum (words : List String) : Work Unit := do
  let t ← readOptions { letters := [] } words
  let paths := if t.operands.isEmpty then [none] else t.operands.map some
  paths.forM fun path? => do
    match ← act (readInput (path?.getD "-")) with
    | .error e => warnFile (path?.getD "-") e
    | .ok text =>
      let bytes := Text.bytesOf text
      let name := match path? with
        | some path => " " ++ path
        | none => ""
      putLine (toString (checksum bytes).toNat ++ " " ++ toString bytes.length ++ name)

/-! ## Letters for bytes -/

/-- The letters for six bits. -/
def sixBitLetters : Array Char :=
  "ABCDEFGHIJKLMNOPQRSTUVWXYZabcdefghijklmnopqrstuvwxyz0123456789+/".toList.toArray

/-- Bytes as letters. -/
def encodeSixBits : List Char → List Char
  | a :: b :: c :: rest =>
    let n := 65536 * a.toNat + 256 * b.toNat + c.toNat
    letter (n / 262144) :: letter (n / 4096) :: letter (n / 64) :: letter n :: encodeSixBits rest
  | [a, b] =>
    let n := 65536 * a.toNat + 256 * b.toNat
    [letter (n / 262144), letter (n / 4096), letter (n / 64), '=']
  | [a] =>
    let n := 65536 * a.toNat
    [letter (n / 262144), letter (n / 4096), '=', '=']
  | [] => []
where
  /-- The letter for the last six bits of a number. -/
  letter (n : Nat) : Char := sixBitLetters[n % 64]?.getD 'A'

/-- The bytes that letters stand for, and whether all letters are such letters. -/
def decodeSixBits : List Char → List Char × Bool
  | a :: b :: c :: d :: rest =>
    match valueOf a, valueOf b, valueOf c, valueOf d with
    | some x, some y, some z, some w =>
      let n := 262144 * x + 4096 * y + 64 * z + w
      let (more, isFine) := decodeSixBits rest
      (byte (n / 65536) :: byte (n / 256) :: byte n :: more, isFine)
    | some x, some y, some z, none =>
      let n := 262144 * x + 4096 * y + 64 * z
      if d == '=' then
        let (more, isFine) := decodeSixBits rest
        (byte (n / 65536) :: byte (n / 256) :: more, isFine)
      else ([byte (n / 65536), byte (n / 256)], false)
    | some x, some y, none, _ =>
      let n := 262144 * x + 4096 * y
      if c == '=' && d == '=' then
        let (more, isFine) := decodeSixBits rest
        (byte (n / 65536) :: more, isFine)
      else ([byte (n / 65536)], false)
    | _, _, _, _ => ([], false)
  | [] => ([], true)
  | [a, b] =>
    match valueOf a, valueOf b with
    | some x, some y => ([byte ((262144 * x + 4096 * y) / 65536)], false)
    | _, _ => ([], false)
  | [a, b, c] =>
    match valueOf a, valueOf b, valueOf c with
    | some x, some y, some z =>
      let n := 262144 * x + 4096 * y + 64 * z
      ([byte (n / 65536), byte (n / 256)], false)
    | _, _, _ => ([], false)
  | _ => ([], false)
where
  /-- What a letter stands for. -/
  valueOf (c : Char) : Option Nat := sixBitLetters.findIdx? (· == c)
  /-- The character of the last byte of a number. -/
  byte (n : Nat) : Char := Char.ofNat (n % 256)

/-- A text in lines of so many characters, or in one. -/
def wrapped (width : Nat) : Nat → List Char → String
  | 0, _ => ""
  | _, [] => ""
  | fuel + 1, cs =>
    if width = 0 then String.ofList cs
    else String.ofList (cs.take width) ++ "\n" ++ wrapped width fuel (cs.drop width)

/-- Writes bytes in letters, or reads them. -/
def base64 (words : List String) : Work Unit := do
  let g := grammar "diw:" [("decode", 'd'), ("ignore-garbage", 'i'), ("wrap", 'w')]
  let t ← readOptions g words
  let width ← match t.word? 'w' with
    | none => pure 76
    | some w =>
      match decimal? w with
      | some n => pure n
      | none => die ("invalid wrap size: " ++ quoted w)
  match t.operands with
  | _ :: extra :: _ => extraOperand extra
  | operands =>
    let path := operands.headD "-"
    match ← act (readInput path) with
    | .error .isDirectory => die "read error: Is a directory"
    | .error e => die (Text.quotedIfNeeded path ++ ": " ++ e.words)
    | .ok text =>
      if t.has 'd' then
        let isLetter (c : Char) : Bool := sixBitLetters.contains c || c == '='
        let letters := text.toList.filter fun c => if t.has 'i' then isLetter c else c != '\n'
        let (bytes, isFine) := decodeSixBits letters
        put (String.ofList bytes)
        if !isFine then
          flush
          die "invalid input"
      else put (wrapped width (text.length + 2) (encodeSixBits text.toList))

end LintLedger.Utility
