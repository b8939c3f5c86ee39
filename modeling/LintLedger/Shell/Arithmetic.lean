import LintLedger.Text.Integer

/-!
# Arithmetic of a shell

Expressions over 64-bit words and variables, with the usual operators in the usual order.  An
expression is computed while it is read, so that a fault shows as soon as it is reached; what
does not count for the value is read but not computed.

## Main Definitions

* `Symbol`, `symbols` -- the symbols of an expression
* `Fault` -- why an expression has no value
* `Scope` -- the variables around an expression
* `evaluate` -- the value of an expression and its assignments
-/

namespace LintLedger.Shell.Arithmetic

/-- The operators between two words. -/
inductive Operator where
  | times
  | over
  | modulo
  | plus
  | minus
  | shiftLeft
  | shiftRight
  | less
  | lessEqual
  | greater
  | greaterEqual
  | equal
  | unequal
  | bitAnd
  | bitXor
  | bitOr
deriving DecidableEq, Repr

/-- How loosely an operator binds. -/
def Operator.level : Operator → Nat
  | .times | .over | .modulo => 0
  | .plus | .minus => 1
  | .shiftLeft | .shiftRight => 2
  | .less | .lessEqual | .greater | .greaterEqual => 3
  | .equal | .unequal => 4
  | .bitAnd => 5
  | .bitXor => 6
  | .bitOr => 7

/-- The symbols of an expression. -/
inductive Symbol where
  | number (value : Int64)
  | name (text : String)
  | operator (o : Operator)
  /-- An assignment, with an operation if there is one. -/
  | assign (o? : Option Operator)
  | opening
  | closing
  | not
  | complement
  | question
  | colon
  | and
  | or
  /-- A character that no symbol begins with. -/
  | bad
  | finish
deriving DecidableEq, Repr

/-- The symbols that begin with other symbols after them, so that the longest counts. -/
def signs : List (String × Symbol) :=
  [("<<=", .assign (some .shiftLeft)), (">>=", .assign (some .shiftRight)),
   ("*=", .assign (some .times)), ("/=", .assign (some .over)), ("%=", .assign (some .modulo)),
   ("+=", .assign (some .plus)), ("-=", .assign (some .minus)),
   ("&=", .assign (some .bitAnd)), ("^=", .assign (some .bitXor)),
   ("|=", .assign (some .bitOr)), ("<<", .operator .shiftLeft), (">>", .operator .shiftRight),
   ("<=", .operator .lessEqual), (">=", .operator .greaterEqual), ("==", .operator .equal),
   ("!=", .operator .unequal), ("&&", .and), ("||", .or), ("*", .operator .times),
   ("/", .operator .over), ("%", .operator .modulo), ("+", .operator .plus),
   ("-", .operator .minus), ("<", .operator .less), (">", .operator .greater),
   ("&", .operator .bitAnd), ("^", .operator .bitXor), ("|", .operator .bitOr),
   ("=", .assign none), ("(", .opening), (")", .closing), ("!", .not), ("~", .complement),
   ("?", .question), (":", .colon)]

/-- The symbols of a text. -/
def symbolsWithin : Nat → List Char → List Symbol
  | 0, _ => [.finish]
  | _, [] => [.finish]
  | fuel + 1, c :: rest =>
    if c == ' ' || c == '\t' || c == '\n' then symbolsWithin fuel rest
    else if c.isDigit then
      let r := Text.readInteger none (c :: rest)
      .number (Int64.ofInt (Text.clamp64 r.value)) :: symbolsWithin fuel r.rest
    else if c.isAlpha || c == '_' then
      let isPart (c : Char) : Bool := c.isAlphanum || c == '_'
      .name (String.ofList ((c :: rest).takeWhile isPart)) ::
        symbolsWithin fuel ((c :: rest).dropWhile isPart)
    else
      match signs.find? fun s => s.1.toList.isPrefixOf (c :: rest) with
      | some (text, symbol) => symbol :: symbolsWithin fuel ((c :: rest).drop text.length)
      | none => [.bad]

/-- The symbols of a text. -/
def symbols (text : String) : List Symbol := symbolsWithin (text.length + 1) text.toList

/-- Why an expression has no value. -/
inductive Fault where
  | noOperand
  | notClosed
  | noColon
  | divisionByZero
  | goesOn
  /-- The quotient is no word. -/
  | overflow
  /-- A variable holds no integer. -/
  | noInteger (value : String)
  /-- A variable that is assigned cannot be changed. -/
  | readOnly (name : String)
deriving DecidableEq, Repr

/-- What an expression sees of the variables around it. -/
structure Scope where
  value? : String → Option String
  isReadOnly : String → Bool

/-- Where the reader of an expression is. -/
structure State where
  rest : List Symbol
  /-- The symbol after what was read last. -/
  last : Symbol
  /-- The assignments, the last one first. -/
  assigned : List (String × Int64)

/-- Reading and computing. -/
abbrev Compute (α : Type) := StateT State (Except Fault) α

/-- The next symbol. -/
def next : Compute Symbol := do
  let s ← get
  match s.rest with
  | [] => return .finish
  | x :: rest =>
    set { s with rest := rest }
    return x

/-- Tells the symbol after what was read last. -/
def follow (x : Symbol) : Compute Unit := modify fun s => { s with last := x }

/-- The integer that a text is as a whole. -/
def integerOf (text : String) : Except Fault Int64 :=
  let r := Text.readInteger none text.toList
  let rest := if r.isNone then text.toList else r.rest
  if !Text.fitsInt64 r.value || !(rest.all Text.isNumberBlank) then .error (.noInteger text)
  else .ok (Int64.ofInt r.value)

/-- The value of a variable. -/
def valueOf (x : Scope) (name : String) : Compute Int64 := do
  match (← get).assigned.find? fun a => a.1 == name with
  | some (_, v) => return v
  | none =>
    match integerOf ((x.value? name).getD "") with
    | .ok v => return v
    | .error e => throw e

/-- The word for a truth value. -/
def truth (b : Bool) : Int64 := if b then 1 else 0

/-- The value of an operator between two words. -/
def apply (o : Operator) (a b : Int64) : Except Fault Int64 :=
  match o with
  | .times => .ok (a * b)
  | .over =>
    if b = 0 then .error .divisionByZero
    else if a = Int64.minValue && b = -1 then .error .overflow
    else .ok (a / b)
  | .modulo =>
    if b = 0 then .error .divisionByZero
    else if a = Int64.minValue && b = -1 then .error .overflow
    else .ok (a % b)
  | .plus => .ok (a + b)
  | .minus => .ok (a - b)
  | .shiftLeft => .ok (a <<< (b &&& 63))
  | .shiftRight => .ok (a >>> (b &&& 63))
  | .less => .ok (truth (a < b))
  | .lessEqual => .ok (truth (a ≤ b))
  | .greater => .ok (truth (b < a))
  | .greaterEqual => .ok (truth (b ≤ a))
  | .equal => .ok (truth (a == b))
  | .unequal => .ok (truth (a != b))
  | .bitAnd => .ok (a &&& b)
  | .bitXor => .ok (a ^^^ b)
  | .bitOr => .ok (a ||| b)

/-- The value of an operator in an expression. -/
def operate (o : Operator) (a b : Int64) : Compute Int64 :=
  match apply o a b with
  | .ok v => pure v
  | .error e => throw e

/-- The looseness that no operator has. -/
def loosest : Nat := 8

mutual

/-- An operand that begins with `x`, which `y` follows; what is `idle` does not count. -/
def operand (scope : Scope) (idle : Bool) : Nat → Symbol → Symbol → Compute Int64
  | 0, _, _ => throw .noOperand
  | fuel + 1, x, y => do
    match x with
    | .opening =>
      let v ← assignment scope idle fuel y
      if (← get).last != .closing then throw .notClosed
      follow (← next)
      return v
    | .number v =>
      follow y
      return v
    | .name text =>
      follow y
      if idle then return 0 else valueOf scope text
    | .operator .plus => operand scope idle fuel y (← next)
    | .operator .minus => return -(← operand scope idle fuel y (← next))
    | .not => return truth ((← operand scope idle fuel y (← next)) == 0)
    | .complement => return ~~~(← operand scope idle fuel y (← next))
    | _ => throw .noOperand

/-- What `a` comes to with the operators after it that bind more tightly than `level`. -/
def operations (scope : Scope) (idle : Bool) :
    Nat → Int64 → Operator → Nat → Compute Int64
  | 0, a, _, _ => pure a
  | fuel + 1, a, o, level => do
    let x ← next
    let b ← operand scope idle fuel x (← next)
    let b ← match (← get).last with
      | .operator o' =>
        if o'.level < o.level then operations scope idle fuel b o' o.level else pure b
      | _ => pure b
    let a ← if idle then pure b else operate o a b
    match (← get).last with
    | .operator o' => if o'.level < level then operations scope idle fuel a o' level else return a
    | _ => return a

/-- Operands with operators between them. -/
def calculation (scope : Scope) (idle : Bool) : Nat → Symbol → Symbol → Compute Int64
  | 0, _, _ => throw .noOperand
  | fuel + 1, x, y => do
    let a ← operand scope idle fuel x y
    match (← get).last with
    | .operator o => operations scope idle fuel a o loosest
    | _ => return a

/-- Calculations that all have to hold. -/
def conjunction (scope : Scope) (idle : Bool) : Nat → Symbol → Symbol → Compute Int64
  | 0, _, _ => throw .noOperand
  | fuel + 1, x, y => do
    let a ← calculation scope idle fuel x y
    if (← get).last != .and then return a
    else
      let x ← next
      let b ← conjunction scope (idle || a == 0) fuel x (← next)
      return truth (a != 0 && b != 0)

/-- Conjunctions of which one has to hold. -/
def disjunction (scope : Scope) (idle : Bool) : Nat → Symbol → Symbol → Compute Int64
  | 0, _, _ => throw .noOperand
  | fuel + 1, x, y => do
    let a ← conjunction scope idle fuel x y
    if (← get).last != .or then return a
    else
      let x ← next
      let b ← disjunction scope (idle || a != 0) fuel x (← next)
      return truth (a != 0 || b != 0)

/-- One of two values, by a third. -/
def choice (scope : Scope) (idle : Bool) : Nat → Symbol → Symbol → Compute Int64
  | 0, _, _ => throw .noOperand
  | fuel + 1, x, y => do
    let a ← disjunction scope idle fuel x y
    if (← get).last != .question then return a
    else
      let b ← assignment scope (idle || a == 0) fuel (← next)
      if (← get).last != .colon then throw .noColon
      let x ← next
      let c ← choice scope (idle || a != 0) fuel x (← next)
      return if a != 0 then b else c

/-- An assignment or a value that begins with `x`. -/
def assignment (scope : Scope) (idle : Bool) : Nat → Symbol → Compute Int64
  | 0, _ => throw .noOperand
  | fuel + 1, x => do
    let y ← next
    match x, y with
    | .name text, .assign o? =>
      let v ← assignment scope idle fuel (← next)
      if idle then return v
      else
        let v ← match o? with
          | none => pure v
          | some o => operate o (← valueOf scope text) v
        if scope.isReadOnly text then throw (.readOnly text)
        modify fun s => { s with assigned := (text, v) :: s.assigned }
        return v
    | x, y => choice scope idle fuel x y

end

/-- The value of an expression, and its assignments in their order. -/
def evaluate (scope : Scope) (text : String) : Except Fault (Int × List (String × Int)) :=
  let all := symbols text
  let whole : Compute Int64 := do
    let v ← assignment scope false (8 * (all.length + 1)) (← next)
    if (← get).last != .finish then throw .goesOn
    return v
  match whole.run ⟨all, .finish, []⟩ with
  | .error e => .error e
  | .ok (v, s) => .ok (v.toInt, s.assigned.reverse.map fun a => (a.1, a.2.toInt))

end LintLedger.Shell.Arithmetic
