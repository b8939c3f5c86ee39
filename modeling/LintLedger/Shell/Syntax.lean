/-!
# The syntax of scripts

A script is a row of commands.  A word of a command is a row of parts: characters, quotes, and
what is put in when the word is expanded.

## Main Definitions

* `Part`, `Word` -- the words of a script
* `Redirection`, `Command` -- its commands
* `Word.literal?`, `Word.name?` -- words that mean no more than their characters
-/

namespace LintLedger.Shell

/-- What is done with the value of a parameter. -/
inductive Operation where
  /-- The operation is none that there is. -/
  | unknown
  | value
  | default
  | alternative
  | require
  | assign
  | length
  | cutEnd
  | cutLongEnd
  | cutStart
  | cutLongStart
deriving DecidableEq, Repr

mutual

/-- A part of a word. -/
inductive Part where
  | plain (c : Char)
  /-- A character that stands for itself whatever it is. -/
  | escaped (c : Char)
  /-- The begin or the end of a quoted stretch. -/
  | mark
  /-- The value of a parameter; with `nullToo`, an empty value counts as none. -/
  | parameter (name : String) (operation : Operation) (nullToo : Bool) (word : List Part)
  /-- What a command prints. -/
  | output (body : Option Command)
  | arithmetic (text : List Part)

/-- What a descriptor is made to lead to. -/
inductive Target where
  | input (file : List Part)
  | both (file : List Part)
  | output (file : List Part)
  /-- As `output`, whether the file is there or not. -/
  | overwrite (file : List Part)
  | addition (file : List Part)
  | copy (descriptor : Nat)
  | closed
  | copyOf (word : List Part)
  /-- A text in the script, by its number until it has been read. -/
  | document (number : Nat) (text : List Part)

/-- A change of a descriptor. -/
inductive Redirection where
  | mk (descriptor : Nat) (target : Target)

/-- A command. -/
inductive Command where
  | simple (line : Nat) (assignments words : List (List Part)) (redirections : List Redirection)
  | pipeline (commands : List Command) (inBackground : Bool)
  | redirected (line : Nat) (body : Command) (redirections : List Redirection)
  | background (line : Nat) (body : Command) (redirections : List Redirection)
  | subshell (line : Nat) (body : Command) (redirections : List Redirection)
  | not (body : Command)
  | and (first second : Command)
  | or (first second : Command)
  | sequence (first second : Command)
  | conditional (test body : Command) (otherwise : Option Command)
  | loop (line : Nat) (isUntil : Bool) (test body : Command)
  | each (line : Nat) (name : String) (words : List (List Part)) (body : Command)
  | cases (line : Nat) (word : List Part) (clauses : List Clause)
  | function (line : Nat) (name : String) (body : Command)

/-- One clause of a distinction of cases. -/
inductive Clause where
  | mk (patterns : List (List Part)) (body : Option Command)

end

/-- A word of a script. -/
abbrev Word := List Part

/-- Whether a character can begin a name. -/
def isNameStart (c : Char) : Bool := c.isAlpha || c == '_'

/-- Whether a character can stand in a name. -/
def isNameChar (c : Char) : Bool := c.isAlphanum || c == '_'

/-- Whether a text is a name of a variable. -/
def isName (s : String) : Bool :=
  match s.toList with
  | [] => false
  | c :: rest => isNameStart c && rest.all isNameChar

/-- The characters of a word that has nothing but plain ones. -/
def literal? : Word → Option (List Char)
  | [] => some []
  | .plain c :: rest => (literal? rest).map (c :: ·)
  | _ => none

/-- The text of a word that has nothing but plain characters. -/
def literalText? (w : Word) : Option String := (literal? w).map String.ofList

/-- The characters of a word that is taken as it is, quotes removed. -/
def bareChars : Word → List Char
  | [] => []
  | .plain c :: rest => c :: bareChars rest
  | .escaped c :: rest => c :: bareChars rest
  | _ :: rest => bareChars rest

/-- Whether a word begins with a name and an equals sign. -/
def isAssignment (w : Word) : Bool :=
  let plainChar : Part → Option Char
    | .plain c => some c
    | _ => none
  let head := w.takeWhile fun p => ((plainChar p).map isNameChar).getD false
  match head with
  | .plain c :: _ =>
    isNameStart c && match w.drop head.length with
      | .plain '=' :: _ => true
      | _ => false
  | _ => false

/-! ## Texts within a script -/

mutual

/-- A part with the texts put in that were read after it. -/
def Part.filled (texts : List (Nat × Word)) : Part → Part
  | .parameter name op nullToo word => .parameter name op nullToo (filledParts texts word)
  | .output (some body) => .output (some (body.filled texts))
  | .arithmetic text => .arithmetic (filledParts texts text)
  | p => p

/-- The parts of a word with texts put in. -/
def filledParts (texts : List (Nat × Word)) : List Part → List Part
  | [] => []
  | p :: rest => p.filled texts :: filledParts texts rest

/-- A target with texts put in. -/
def Target.filled (texts : List (Nat × Word)) : Target → Target
  | .input w => .input (filledParts texts w)
  | .both w => .both (filledParts texts w)
  | .output w => .output (filledParts texts w)
  | .overwrite w => .overwrite (filledParts texts w)
  | .addition w => .addition (filledParts texts w)
  | .copyOf w => .copyOf (filledParts texts w)
  | .document n _ => .document n (((texts.find? fun t => t.1 == n).map (·.2)).getD [])
  | t => t

/-- Words with texts put in. -/
def filledWords (texts : List (Nat × Word)) : List (List Part) → List (List Part)
  | [] => []
  | w :: rest => filledParts texts w :: filledWords texts rest

/-- Redirections with texts put in. -/
def filledRedirections (texts : List (Nat × Word)) : List Redirection → List Redirection
  | [] => []
  | .mk d t :: rest => .mk d (t.filled texts) :: filledRedirections texts rest

/-- A command with the texts put in that were read after its words. -/
def Command.filled (texts : List (Nat × Word)) : Command → Command
  | .simple line assignments words rs =>
    .simple line (filledWords texts assignments) (filledWords texts words)
      (filledRedirections texts rs)
  | .pipeline commands inBackground => .pipeline (filledCommands texts commands) inBackground
  | .redirected line body rs => .redirected line (body.filled texts) (filledRedirections texts rs)
  | .background line body rs => .background line (body.filled texts) (filledRedirections texts rs)
  | .subshell line body rs => .subshell line (body.filled texts) (filledRedirections texts rs)
  | .not body => .not (body.filled texts)
  | .and a b => .and (a.filled texts) (b.filled texts)
  | .or a b => .or (a.filled texts) (b.filled texts)
  | .sequence a b => .sequence (a.filled texts) (b.filled texts)
  | .conditional test body none => .conditional (test.filled texts) (body.filled texts) none
  | .conditional test body (some c) =>
    .conditional (test.filled texts) (body.filled texts) (some (c.filled texts))
  | .loop line isUntil test body => .loop line isUntil (test.filled texts) (body.filled texts)
  | .each line name words body => .each line name (filledWords texts words) (body.filled texts)
  | .cases line word clauses => .cases line (filledParts texts word) (filledClauses texts clauses)
  | .function line name body => .function line name (body.filled texts)

/-- Commands with texts put in. -/
def filledCommands (texts : List (Nat × Word)) : List Command → List Command
  | [] => []
  | c :: rest => c.filled texts :: filledCommands texts rest

/-- Clauses with texts put in. -/
def filledClauses (texts : List (Nat × Word)) : List Clause → List Clause
  | [] => []
  | .mk patterns none :: rest =>
    .mk (filledWords texts patterns) none :: filledClauses texts rest
  | .mk patterns (some body) :: rest =>
    .mk (filledWords texts patterns) (some (body.filled texts)) :: filledClauses texts rest

end

end LintLedger.Shell
