import LintLedger.Regex.Basic

/-!
# Scripts of rules

A script is a row of rules: what is done for the lines that some condition selects, and what is
done before and after all lines.

## Main Definitions

* `Place` -- where the value of a variable is kept
* `Term` -- what has a value
* `Statement` -- what is done
* `Script` -- rules and functions
-/

namespace LintLedger.Utility.Awk

/-- Where the value of a variable is kept. -/
inductive Place where
  /-- For the whole script. -/
  | shared (i : Nat)
  /-- For one call of a function. -/
  | own (i : Nat)
deriving DecidableEq, Repr

/-- What two numbers come to. -/
inductive Operation where
  | plus
  | minus
  | times
  | over
  | modulo
  | power
deriving DecidableEq, Repr

/-- How two values are compared. -/
inductive Relation where
  | less
  | lessEqual
  | equal
  | unequal
  | greater
  | greaterEqual
deriving DecidableEq, Repr

/-- The functions that every script has. -/
inductive Builtin where
  | length
  | substr
  | index
  | split
  | substitute (all : Bool)
  | find
  | format
  | sine
  | cosine
  | arcTangent
  | exponential
  | logarithm
  | squareRoot
  | truncate
  | random
  | seed
  | lower
  | upper
  | system
  | close
  | flush
  | time
deriving DecidableEq, Repr

/-- What has a value. -/
inductive Term where
  | number (x : Float)
  | text (s : String)
  | regex (r : Regex)
  | variable (p : Place)
  | field (a : Term)
  | element (table : Place) (keys : List Term)
  /-- A term in parentheses. -/
  | group (a : Term)
  | assign (target : Term) (o? : Option Operation) (a : Term)
  /-- A variable one greater or less; the value is the one before or after that. -/
  | step (target : Term) (down before : Bool)
  | operate (o : Operation) (a b : Term)
  | compare (o : Relation) (a b : Term)
  | fits (isNot : Bool) (a b : Term)
  | join (a b : Term)
  | has (table : Place) (keys : List Term)
  | not (a : Term)
  | negate (a : Term)
  | positive (a : Term)
  | and (a b : Term)
  | or (a b : Term)
  | choose (c a b : Term)
  | builtin (b : Builtin) (args : List Term)
  | call (f : Nat) (args : List Term)
  /-- The next line: of all files, or of a file, or of what a command prints. -/
  | readLine (target? : Option Term) (source? : Option (Bool × Term))

/-- Whether a term can be given a value. -/
def Term.isTarget : Term → Bool
  | .variable _ => true
  | .field _ => true
  | .element _ _ => true
  | _ => false

/-- A term without parentheses around it. -/
def Term.bare : Term → Term
  | .group a => a.bare
  | a => a

/-- Where printed text goes. -/
inductive Outlet where
  | file
  | fileEnd
  | command
deriving DecidableEq, Repr

/-- What is done. -/
inductive Statement where
  | nothing
  | value (a : Term)
  | print (args : List Term) (goal? : Option (Outlet × Term))
  | printFormat (args : List Term) (goal? : Option (Outlet × Term))
  /-- A table forgets one of its keys, or all of them. -/
  | delete (table : Place) (keys? : Option (List Term))
  | block (all : List Statement)
  | branch (c : Term) (a b : Statement)
  | whileLoop (c : Term) (body : Statement)
  | doLoop (body : Statement) (c : Term)
  | forLoop (first : Statement) (c? : Option Term) (step : Statement) (body : Statement)
  | forKeys (key : Place) (table : Place) (body : Statement)
  | leaveLoop
  | nextTurn
  | nextLine
  | nextFile
  | exit (a? : Option Term)
  | answer (a? : Option Term)

/-- Which lines a rule is for. -/
inductive Selection where
  | all
  | one (c : Term)
  /-- From one line on up to another. -/
  | range (first last : Term)

/-- What is done for some lines. -/
structure Rule where
  selection : Selection
  /-- Without a statement, the line is printed. -/
  statement? : Option Statement

/-- A function. -/
structure Function where
  /-- Which of its parameters are tables. -/
  parameters : Array Bool
  body : Statement

/-- Rules and functions. -/
structure Script where
  /-- What is done before all lines. -/
  begins : List Statement
  /-- What is done after all lines. -/
  ends : List Statement
  rules : Array Rule
  functions : Array Function
  /-- The names of the variables. -/
  names : Array String
  /-- The variables that are tables. -/
  tables : List Nat

/-! ## Variables with a meaning of their own -/

/-- The variables with a meaning of their own, in the order in which they are kept. -/
def specialNames : Array String :=
  #["NF", "NR", "FNR", "FS", "OFS", "ORS", "RS", "FILENAME", "SUBSEP", "CONVFMT", "OFMT",
    "RSTART", "RLENGTH", "ENVIRON", "ARGC", "ARGV"]

/-- The place of how many fields there are. -/
def fieldCount : Nat := 0

/-- The place of how many lines were read. -/
def lineCount : Nat := 1

/-- The place of how many lines of the file were read. -/
def fileLineCount : Nat := 2

/-- The place of what separates fields. -/
def fieldMark : Nat := 3

/-- The place of what is printed between values. -/
def printedFieldMark : Nat := 4

/-- The place of what is printed after values. -/
def printedLineMark : Nat := 5

/-- The place of what ends lines. -/
def lineMark : Nat := 6

/-- The place of the name of the file that is read. -/
def fileName : Nat := 7

/-- The place of what stands between the keys of a key. -/
def keyMark : Nat := 8

/-- The place of how numbers become texts. -/
def textFormat : Nat := 9

/-- The place of how numbers are printed. -/
def printedFormat : Nat := 10

/-- The place of where a pattern was found. -/
def foundStart : Nat := 11

/-- The place of how long the text is that was found. -/
def foundLength : Nat := 12

/-- The place of the environment. -/
def environmentTable : Nat := 13

/-- The place of how many words the script has. -/
def wordCount : Nat := 14

/-- The place of the words of the script. -/
def wordTable : Nat := 15

end LintLedger.Utility.Awk
