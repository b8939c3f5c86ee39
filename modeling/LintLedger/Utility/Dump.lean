import LintLedger.Utility.Paths
import LintLedger.Utility.Stream

/-!
# Bytes made visible

The bytes of files are shown in lines of some of them each, in one way or in several below each
other, with how many bytes came before.

## Main Definitions

* `Shape`, `View` -- ways to show bytes
* `View.shown` -- some bytes shown
* `od` -- shows the bytes of files
-/

namespace LintLedger.Utility.Dump

open LintLedger.Machine

/-- What is shown of some bytes together. -/
inductive Shape where
  | name
  | char
  | signed
  | unsigned
  | octal
  | hex
deriving DecidableEq, Repr

/-- A way to show bytes. -/
structure View where
  shape : Shape
  /-- How many bytes are shown together. -/
  size : Nat
  /-- Whether the bytes are also shown as text at the end of a line. -/
  hasText : Bool := false
deriving DecidableEq, Repr

/-- How wide a field is. -/
def View.width (v : View) : Nat :=
  let bits := 8 * v.size
  let digits (n : Nat) : Nat := (toString n).length
  match v.shape with
  | .name => 3
  | .char => 3
  | .signed => digits (Nat.pow 2 (bits - 1)) + 1
  | .unsigned => digits (Nat.pow 2 bits - 1)
  | .octal => (bits + 2) / 3
  | .hex => 2 * v.size

/-- The names of the characters that cannot be seen. -/
def charNames : List String :=
  ["nul", "soh", "stx", "etx", "eot", "enq", "ack", "bel", "bs", "ht", "nl", "vt", "ff", "cr", "so",
   "si", "dle", "dc1", "dc2", "dc3", "dc4", "nak", "syn", "etb", "can", "em", "sub", "esc", "fs",
   "gs", "rs", "us", "sp"]

/-- The number that bytes are, the first of them the least. -/
def numberOf (bytes : List Char) : Nat := bytes.foldr (fun c n => 256 * n + c.toNat) 0

/-- Digits with zeros in front of them. -/
def padded (width : Nat) (digits : List Char) : String :=
  "".pushn '0' (width - digits.length) ++ String.ofList digits

/-- Some bytes shown together. -/
def View.field (v : View) (bytes : List Char) : String :=
  let n := numberOf bytes
  match v.shape with
  | .name =>
    let n := n % 128
    if n = 127 then "del" else charNames[n]?.getD (String.singleton (Char.ofNat n))
  | .char =>
    match bytes with
    | ['\x00'] => "\\0"
    | ['\x07'] => "\\a"
    | ['\x08'] => "\\b"
    | ['\x0c'] => "\\f"
    | ['\n'] => "\\n"
    | ['\r'] => "\\r"
    | ['\t'] => "\\t"
    | ['\x0b'] => "\\v"
    | [c] => if Text.isPrintable c then String.singleton c else padded 3 (Nat.toDigits 8 n)
    | _ => ""
  | .signed =>
    let half := Nat.pow 2 (8 * v.size - 1)
    if half ≤ n then toString (Int.ofNat n - 2 * Int.ofNat half) else toString n
  | .unsigned => toString n
  | .octal => padded v.width (Nat.toDigits 8 n)
  | .hex => padded v.width (Nat.toDigits 16 n)

/-- The rows of a list, each of so many elements. -/
def rowsOf {α : Type} (size : Nat) : Nat → List α → List (List α)
  | 0, _ => []
  | _, [] => []
  | fuel + 1, xs => xs.take size :: rowsOf size fuel (xs.drop size)

/-- A line of bytes shown, of at most so many, in columns of that width altogether. -/
def View.shown (v : View) (perLine total : Nat) (bytes : List Char) : String :=
  let fields := perLine / v.size
  let blanks := total - (v.width + 1) * fields
  let rows := rowsOf v.size (bytes.length + 1) bytes
  let rows := rows.map fun r => r ++ List.replicate (v.size - r.length) '\x00'
  let cells := rows.zipIdx.map fun (r, k) =>
    let left := fields - k
    let width := v.width + blanks * left / fields - blanks * (left - 1) / fields
    let text := v.field r
    " " ++ "".pushn ' ' (width - text.length) ++ text
  let line := String.join cells
  if v.hasText then
    let text := bytes.map fun c => if Text.isPrintable c then c else '.'
    line ++ "".pushn ' ' (total - line.length) ++ "  >" ++ String.ofList text ++ "<"
  else line

/-! ## Ways to show bytes, as words tell them -/

/-- The size that begins a text, or a size that is taken without one. -/
def sizeAt (standard : Nat) (cs : List Char) : Except String (Nat × List Char) :=
  match cs with
  | 'C' :: rest => .ok (1, rest)
  | 'S' :: rest => .ok (2, rest)
  | 'I' :: rest => .ok (4, rest)
  | 'L' :: rest => .ok (8, rest)
  | cs =>
    let digits := cs.takeWhile Char.isDigit
    if digits.isEmpty then .ok (standard, cs)
    else
      let n := Text.natOfDigits digits
      if [1, 2, 4, 8].contains n then .ok (n, cs.drop digits.length)
      else .error (toString n)

/-- The views that a text tells. -/
def viewsOf (whole : String) : Nat → List Char → Except String (List View)
  | 0, _ => .ok []
  | _, [] => .ok []
  | fuel + 1, c :: rest => do
    let (view, rest) : View × List Char ← match c with
      | 'a' => pure (⟨.name, 1, false⟩, rest)
      | 'c' => pure (⟨.char, 1, false⟩, rest)
      | c =>
        let shape? : Option Shape := match c with
          | 'd' => some .signed
          | 'u' => some .unsigned
          | 'o' => some .octal
          | 'x' => some .hex
          | _ => none
        match shape? with
        | none =>
          .error ("invalid character '" ++ String.singleton c ++ "' in type string " ++
            Text.alwaysQuoted whole)
        | some shape =>
          match sizeAt 4 rest with
          | .ok (n, rest) => pure (⟨shape, n, false⟩, rest)
          | .error n =>
            .error ("invalid type string " ++ Text.alwaysQuoted whole ++
              ";\nthis system doesn't provide a " ++ n ++ "-byte integral type")
    let (view, rest) : View × List Char := match rest with
      | 'z' :: rest => ({ view with hasText := true }, rest)
      | rest => (view, rest)
    return view :: (← viewsOf whole fuel rest)

/-- The view that an option by itself asks for. -/
def viewFor? : Char → Option View
  | 'a' => some ⟨.name, 1, false⟩
  | 'b' => some ⟨.octal, 1, false⟩
  | 'c' => some ⟨.char, 1, false⟩
  | 'd' => some ⟨.unsigned, 2, false⟩
  | 'i' => some ⟨.signed, 4, false⟩
  | 'l' => some ⟨.signed, 8, false⟩
  | 'o' => some ⟨.octal, 2, false⟩
  | 's' => some ⟨.signed, 2, false⟩
  | 'x' => some ⟨.hex, 2, false⟩
  | 'h' => some ⟨.hex, 2, false⟩
  | 'B' => some ⟨.octal, 2, false⟩
  | 'D' => some ⟨.unsigned, 4, false⟩
  | 'H' => some ⟨.hex, 4, false⟩
  | 'I' => some ⟨.signed, 8, false⟩
  | 'L' => some ⟨.signed, 8, false⟩
  | 'O' => some ⟨.octal, 4, false⟩
  | 'X' => some ⟨.hex, 4, false⟩
  | _ => none

/-- A number of bytes before a line, by the letter of its base. -/
def addressText (radix : Char) (n : Nat) : String :=
  match radix with
  | 'o' => padded 7 (Nat.toDigits 8 n)
  | 'd' => padded 7 (Nat.toDigits 10 n)
  | 'x' => padded 6 (Nat.toDigits 16 n)
  | _ => ""

/-- Bytes as lines: where each begins, and what is in it; lines like the one before are left out,
a line with an asterisk for all of them. -/
def dumpLines (views : List View) (radix : Char) (perLine : Nat) (keepsAll : Bool) :
    Nat → Nat → Option (List Char) → Bool → List Char → List String
  | 0, _, _, _, _ => []
  | _, _, _, _, [] => []
  | fuel + 1, start, last?, wasLeftOut, bytes =>
    let here := bytes.take perLine
    let go := dumpLines views radix perLine keepsAll fuel (start + here.length) (some here)
    if !keepsAll && last? = some here && here.length = perLine then
      (if wasLeftOut then [] else ["*"]) ++ go true (bytes.drop perLine)
    else
      let total := (views.map fun v => (v.width + 1) * (perLine / v.size)).foldl max 0
      let address := addressText radix start
      let shown := views.zipIdx.map fun (v, k) =>
        (if k = 0 then address else "".pushn ' ' address.length) ++ v.shown perLine total here
      shown ++ go false (bytes.drop perLine)

/-- All bytes of some files. -/
def gather : List String → List String → Bool → Work (Option String)
  | [], done, isAny => return if isAny then some (String.join done.reverse) else none
  | path :: rest, done, isAny => do
    match ← act (readInput path) with
    | .ok text => gather rest (text :: done) true
    | .error .isDirectory =>
      warnFile path .isDirectory
      gather rest done true
    | .error e =>
      warnFile path e
      gather rest done isAny

/-- Shows the bytes of files. -/
def od (words : List String) : Work Unit := do
  let g := grammar "A:j:N:t:vw::abcdilosxhBDHILOX"
    [("address-radix", 'A'), ("skip-bytes", 'j'), ("read-bytes", 'N'), ("format", 't'),
     ("output-duplicates", 'v'), ("width", 'w')]
  let t ← readOptions g words
  let radix ← match (t.word? 'A').map String.toList with
    | none => pure 'o'
    | some (c :: _) =>
      if ['d', 'o', 'x', 'n'].contains c then pure c
      else die ("invalid output address radix '" ++ String.singleton c ++
        "'; it must be one character from [doxn]")
    | some [] => pure 'o'
  let amountOf (letter : Char) : Work (Option Nat) := do
    match t.word? letter with
    | none => return none
    | some w =>
      let digits := (Text.readInteger none w.toList)
      match (if digits.rest.isEmpty && !digits.isNone then some digits.value.toNat else amount? "bEGKkMmPQRTYZ" w) with
      | some n => return some n
      | none => die ("invalid -" ++ String.singleton letter ++ " argument " ++ quoted w)
  let skipped := (← amountOf 'j').getD 0
  let limit? ← amountOf 'N'
  let views ← t.options.mapM fun o => do
    match o.key, o.word? with
    | 't', some w =>
      match viewsOf w (w.length + 1) w.toList with
      | .ok all => pure all
      | .error message => die message
    | key, _ => pure (viewFor? key).toList
  let views := if views.flatten.isEmpty then [View.mk .octal 2 false] else views.flatten
  let unit := (views.map (·.size)).foldl max 1
  let standard := 16
  let perLine ← if t.has 'w' then do
      match t.word? 'w' with
      | none => pure 32
      | some w =>
        match decimal? w with
        | some n =>
          if n = 0 || n % unit != 0 then
            complain ("warning: invalid width " ++ toString n ++ "; using " ++ toString unit ++ " instead")
            pure unit
          else pure n
        | none => die ("invalid -w argument " ++ quoted w)
    else pure standard
  match ← gather (if t.operands.isEmpty then ["-"] else t.operands) [] false with
  | none => pure ()
  | some text =>
    if text.length < skipped then die "cannot skip past end of combined input"
    let bytes := text.toList.drop skipped
    let bytes := match limit? with
      | some n => bytes.take n
      | none => bytes
    (dumpLines views radix perLine (t.has 'v') (bytes.length + 1) skipped none false bytes).forM putLine
    if radix != 'n' then putLine (addressText radix (skipped + bytes.length))

end LintLedger.Utility.Dump
