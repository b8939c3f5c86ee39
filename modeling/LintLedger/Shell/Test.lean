import LintLedger.Machine.Program
import LintLedger.Text.Integer

/-!
# Conditions

A condition is a list of words that ask about files, texts and integers.  Questions are joined
by words for "and" and "or", of which the first binds closer; every question is asked, whatever
the others say.  A list of at most four words is first looked at as a whole, so that a word
which could be an operator may stand for itself.

## Main Definitions

* `TestToken` -- what a word can be in a condition
* `condition` -- whether a condition holds, or what is wrong with it
-/

namespace LintLedger.Shell

open LintLedger.Machine

/-- Questions to the machine, of which one may be malformed. -/
abbrev Questions (α : Type) := ExceptT String Act α

/-- The operators with one operand. -/
def unaryOperators : List String :=
  ["-n", "-z", "-e", "-f", "-d", "-r", "-w", "-x", "-s", "-h", "-L", "-t", "-b", "-c", "-g", "-k",
   "-p", "-u", "-O", "-G", "-S"]

/-- The operators between two operands. -/
def binaryOperators : List String :=
  ["=", "!=", "<", ">", "-eq", "-ne", "-lt", "-le", "-gt", "-ge", "-nt", "-ot", "-ef"]

/-- The integer of 64 bits that a text is, blanks around it not counted. -/
def integer? (text : String) : Option Int :=
  let r := Text.readInteger (some 10) text.toList
  if r.isNone || !r.rest.all Text.isNumberBlank || !Text.fitsInt64 r.value then none
  else some r.value

/-- An integer that is an operand. -/
def operandInteger (word : String) : Except String Int :=
  match integer? word with
  | some n => .ok n
  | none => .error ("Illegal number: " ++ word)

/-- What is known of a file, if it is there. -/
def file? (path : String) (keepLast : Bool) : Act (Option FileInfo) := do
  return (← Act.info (.look path keepLast)).toOption

/-- A question about one word. -/
def unaryTest (op word : String) : Questions Bool := do
  let about (f : FileInfo → Bool) : Questions Bool := do
    return ((← file? word false).map f).getD false
  let isKind (k : Disk.Kind) : Questions Bool := about fun i => i.kind = k
  match op with
  | "-n" => return word != ""
  | "-z" => return word == ""
  | "-f" => isKind .file
  | "-d" => isKind .dir
  | "-c" => isKind .device
  | "-p" => isKind .pipe
  | "-x" => about fun i => i.kind = .dir || i.mode &&& 0o111 != 0
  | "-s" => about fun i => i.size != 0
  | "-u" => about fun i => i.mode &&& 0o4000 != 0
  | "-g" => about fun i => i.mode &&& 0o2000 != 0
  | "-k" => about fun i => i.mode &&& 0o1000 != 0
  | "-b" => return false
  | "-S" => return false
  | "-h" => return ((← file? word true).map fun i => decide (i.kind = .link)).getD false
  | "-L" => return ((← file? word true).map fun i => decide (i.kind = .link)).getD false
  | "-t" =>
    match operandInteger word with
    | .ok _ => return false
    | .error e => throw e
  | _ => about fun _ => true

/-- A comparison of two integers. -/
def integerTest (f : Int → Int → Bool) (a b : String) : Except String Bool := do
  let x ← operandInteger a
  let y ← operandInteger b
  return f x y

/-- A question about two words. -/
def binaryTest (op a b : String) : Questions Bool := do
  let files (f : FileInfo → FileInfo → Bool) : Questions Bool := do
    match ← file? a false, ← file? b false with
    | some x, some y => return f x y
    | _, _ => return false
  match op with
  | "=" => return a == b
  | "!=" => return a != b
  | "<" => return decide (a < b)
  | ">" => return decide (b < a)
  | "-eq" => liftExcept (integerTest (· == ·) a b)
  | "-ne" => liftExcept (integerTest (· != ·) a b)
  | "-lt" => liftExcept (integerTest (fun x y => decide (x < y)) a b)
  | "-le" => liftExcept (integerTest (fun x y => decide (x ≤ y)) a b)
  | "-gt" => liftExcept (integerTest (fun x y => decide (y < x)) a b)
  | "-ge" => liftExcept (integerTest (fun x y => decide (y ≤ x)) a b)
  | "-nt" => files fun x y => y.modified < x.modified
  | "-ot" => files fun x y => x.modified < y.modified
  | _ => files fun x y => x.id == y.id
where
  /-- A result as questions that have it. -/
  liftExcept (r : Except String Bool) : Questions Bool :=
    match r with
    | .ok b => pure b
    | .error e => throw e

/-! ## Tokens -/

/-- What a word can be in a condition. -/
inductive TestToken where
  | nothing
  | operand
  | unary (op : String)
  | binary (op : String)
  | not
  | and
  | or
  | opening
  | closing
deriving DecidableEq, Repr

/-- What a word is by itself. -/
def TestToken.ofWord (word : String) : TestToken :=
  match word with
  | "!" => .not
  | "-a" => .and
  | "-o" => .or
  | "(" => .opening
  | ")" => .closing
  | word =>
    if unaryOperators.contains word then .unary word
    else if binaryOperators.contains word then .binary word
    else .operand

/-- Whether a word is an operator between two operands. -/
def isBinary (word : String) : Bool := TestToken.ofWord word = .binary word

/-- What the first of some words is.  An operator that has no operand after it, or the operator
of the next two words, stands for itself. -/
def TestToken.at : List String → TestToken
  | [] => .nothing
  | [word] =>
    match TestToken.ofWord word with
    | .unary _ => .operand
    | .opening => .operand
    | token => token
  | word :: next :: rest =>
    match TestToken.ofWord word with
    | .unary op => if !rest.isEmpty && isBinary next then .operand else .unary op
    | token => token

/-! ## Conditions -/

mutual

/-- Questions joined by "or", the first of which begins the words; the value is the answer, and
the words from the last one of the questions on. -/
def anyHolds : Nat → List String → Questions (Bool × List String)
  | 0, words => return (false, words)
  | fuel + 1, words => do
    let (first, rest) ← allHold fuel words
    match TestToken.at rest.tail with
    | .or =>
      let (second, rest') ← anyHolds fuel rest.tail.tail
      return (first || second, rest')
    | _ => return (first, rest)

/-- Questions joined by "and". -/
def allHold : Nat → List String → Questions (Bool × List String)
  | 0, words => return (false, words)
  | fuel + 1, words => do
    let (first, rest) ← holds fuel words
    match TestToken.at rest.tail with
    | .and =>
      let (second, rest') ← allHold fuel rest.tail.tail
      return (first && second, rest')
    | _ => return (first, rest)

/-- A question, perhaps with a word for "not" in front, which alone holds. -/
def holds : Nat → List String → Questions (Bool × List String)
  | 0, words => return (false, words)
  | fuel + 1, words => do
    match TestToken.at words with
    | .not =>
      if words.tail.isEmpty then return (true, words)
      else
        let (answer, rest) ← holds fuel words.tail
        return (!answer, rest)
    | .nothing => return (false, words)
    | .opening =>
      match TestToken.at words.tail with
      | .closing => return (false, words.tail)
      | _ =>
        let (answer, rest) ← anyHolds fuel words.tail
        match TestToken.at rest.tail with
        | .closing => return (answer, rest.tail)
        | _ => throw "closing paren expected"
    | .unary op =>
      let answer ← unaryTest op (words.tail.headD "")
      return (answer, words.tail)
    | _ =>
      match words with
      | a :: op :: rest =>
        if isBinary op then
          match rest with
          | b :: _ =>
            let answer ← binaryTest op a b
            return (answer, rest)
          | [] => throw (op ++ ": argument expected")
        else return (a != "", words)
      | words => return (words.headD "" != "", words)

end

/-- Whether all words of a condition together are questions that hold. -/
def wholeHolds (words : List String) : Questions Bool := do
  match ← anyHolds (4 * (words.length + 1)) words with
  | (_, last :: _ :: _) => throw ((if last = "" then "" else last ++ ": ") ++ "unexpected operator")
  | (answer, _) => return answer

/-- Whether a condition holds, or what is wrong with it. -/
def condition : List String → Questions Bool
  | [] => return false
  | [a, op, b] => do
    if isBinary op then binaryTest op a b
    else if a = "(" && b = ")" then wholeHolds [op]
    else if a = "!" then return !(← wholeHolds [op, b])
    else wholeHolds [a, op, b]
  | [a, b, c, d] => do
    if a = "(" && d = ")" then wholeHolds [b, c]
    else if a = "!" then return !(← condition [b, c, d])
    else wholeHolds [a, b, c, d]
  | words => wholeHolds words

end LintLedger.Shell
