import LintLedger.Text.Integer

/-!
# Permissions in words

Permissions are told as an octal number, or as changes: for whom, a sign, and which ones.

## Main Definitions

* `Change`, `ModeChange` -- changes of permissions
* `readModeChange?` -- the changes that a word tells
* `ModeChange.apply` -- permissions after changes
* `modeText` -- permissions in letters
-/

namespace LintLedger.Utility

/-- Which permissions a change names. -/
inductive Named where
  /-- These bits, for all. -/
  | bits (n : Nat)
  /-- Those that somebody else has: how far their bits lie from the last ones. -/
  | likeThoseAt (shift : Nat)
  /-- To enter, if it is a directory or somebody may already. -/
  | enterIfAny (n : Nat)
deriving DecidableEq, Repr

/-- One change. -/
structure Change where
  /-- The bits of those for whom it is, if that is told. -/
  whom? : Option Nat
  sign : Char
  named : List Named

/-- A mode, or changes of one. -/
inductive ModeChange where
  | octal (mode : Nat)
  | changes (cs : List Change)

/-- The bits of those whom a letter names. -/
def whomBits (c : Char) : Nat :=
  match c with
  | 'u' => 0o4700
  | 'g' => 0o2070
  | 'o' => 0o1007
  | _ => 0o7777

/-- The permissions that letters name. -/
def namedOf (cs : List Char) : List Named :=
  cs.map fun
    | 'r' => .bits 0o444
    | 'w' => .bits 0o222
    | 'x' => .bits 0o111
    | 's' => .bits 0o6000
    | 't' => .bits 0o1000
    | 'X' => .enterIfAny 0o111
    | 'u' => .likeThoseAt 6
    | 'g' => .likeThoseAt 3
    | _ => .likeThoseAt 0

/-- The changes that a text tells. -/
def changesOf : Nat → List Char → Option (List Change)
  | 0, _ => none
  | fuel + 1, cs =>
    let who := cs.takeWhile fun c => "ugoa".toList.contains c
    let whom? := if who.isEmpty then none
      else some (who.foldl (fun n c => n ||| whomBits c) 0)
    let rec signs : Nat → List Char → Option (List Change × List Char)
      | 0, _ => none
      | turns + 1, cs =>
        match cs with
        | sign :: rest =>
          if !"+-=".toList.contains sign then none
          else
            let isCopy := (rest.head?.map fun c => "ugo".toList.contains c).getD false
            let letters := if isCopy then rest.take 1
              else rest.takeWhile fun c => "rwxXst".toList.contains c
            let change : Change := ⟨whom?, sign, namedOf letters⟩
            match rest.drop letters.length with
            | [] => some ([change], [])
            | ',' :: after => some ([change], ',' :: after)
            | after => (signs turns after).map fun (more, left) => (change :: more, left)
        | [] => none
    match signs (cs.length + 1) (cs.drop who.length) with
    | none => none
    | some (here, []) => some here
    | some (here, _ :: rest) => (changesOf fuel rest).map (here ++ ·)

/-- The changes that a word tells. -/
def readModeChange? (word : String) : Option ModeChange :=
  let cs := word.toList
  if !cs.isEmpty && cs.all fun c => (Text.digitIn? 8 c).isSome then
    let n := (Text.digitsIn 8 0 cs).1
    if n ≤ 0o7777 then some (.octal n) else none
  else (changesOf (cs.length + 1) cs).map .changes

/-- Permissions after a change. -/
def Change.apply (mask : Nat) (isDir : Bool) (mode : Nat) (c : Change) : Nat :=
  let whom := c.whom?.getD 0o7777
  let named := c.named.foldl (fun n x => n ||| match x with
    | .bits b => b
    | .likeThoseAt shift => (mode >>> shift &&& 7) * 0o111
    | .enterIfAny b => if isDir || mode &&& 0o111 != 0 then b else 0) 0
  let free := if c.whom?.isNone then 0o7777 ^^^ mask else 0o7777
  let value := named &&& whom &&& free
  match c.sign with
  | '+' => mode ||| value
  | '-' => mode &&& (0o7777 ^^^ value)
  | _ =>
    let kept := if isDir then 0o6000 else 0
    (mode &&& ((0o7777 ^^^ whom) ||| kept)) ||| value

/-- Permissions after changes. -/
def ModeChange.apply (mask : Nat) (isDir : Bool) (mode : Nat) : ModeChange → Nat
  | .octal n => n
  | .changes cs => cs.foldl (Change.apply mask isDir) mode

/-- Three permissions in letters. -/
def threeLetters (n : Nat) (special : Bool) (mark : Char) : List Char :=
  [if n &&& 4 != 0 then 'r' else '-', if n &&& 2 != 0 then 'w' else '-',
   match n &&& 1 != 0, special with
   | true, false => 'x'
   | false, false => '-'
   | true, true => mark
   | false, true => mark.toUpper]

/-- Permissions in letters. -/
def modeText (mode : Nat) : String :=
  String.ofList (threeLetters (mode >>> 6) (mode &&& 0o4000 != 0) 's' ++
    threeLetters (mode >>> 3) (mode &&& 0o2000 != 0) 's' ++
    threeLetters mode (mode &&& 0o1000 != 0) 't')

end LintLedger.Utility
