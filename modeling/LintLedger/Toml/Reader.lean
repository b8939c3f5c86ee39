import LintLedger.Json.Basic
import LintLedger.Toml.Scalar

/-!
# Reading settings files

A settings file is a list of statements: headers that open a table or another table of a list,
and pairs of a key and a value.  A table may be made on the way to another one and opened
later, but it is opened only once, and dotted keys add only to tables that dotted keys made.

## Main Definitions

* `Toml.Item` -- a document under construction
* `Toml.Statement`, `Toml.build?` -- the document that statements make
* `Toml.value?` -- a value, lists and inline tables included
* `Toml.statements?` -- the statements of a file
* `Toml.parse?` -- the document of a file
-/

namespace LintLedger.Toml

/-! ## Documents under construction -/

/-- How a table came to be. -/
inductive TableKind where
  /-- On the way to a table with a header. -/
  | implicit
  /-- By a dotted key. -/
  | dotted
  /-- By a header. -/
  | explicit
deriving DecidableEq, Repr

/-- A document under construction. -/
inductive Item where
  | leaf (v : Json)
  | table (kind : TableKind) (entries : List (String × Item))
  /-- A list of tables, the current one first. -/
  | tables (all : List (List (String × Item)))

/-- The entries of a table under construction. -/
abbrev Entries := List (String × Item)

/-- The entries with one of them replaced or added. -/
def setEntry (key : String) (item : Item) : Entries → Entries
  | [] => [(key, item)]
  | (k, old) :: rest => if k = key then (k, item) :: rest else (k, old) :: setEntry key item rest

/-- Changes the table at the end of a path; tables that are missing on the way are made, and a
list of tables means its current one.  On the way of a dotted key a table with a header is
refused. -/
def descend (byDots : Bool) (change : TableKind → Entries → Option Entries) :
    List String → TableKind → Entries → Option Entries
  | [], kind, entries => change kind entries
  | key :: rest, _, entries =>
    match Assoc.find? key entries with
    | none =>
      let kind := if byDots then .dotted else .implicit
      (descend byDots change rest kind []).map fun made =>
        setEntry key (.table kind made) entries
    | some (.leaf _) => none
    | some (.tables []) => none
    | some (.tables (current :: others)) =>
      (descend byDots change rest .explicit current).map fun changed =>
        setEntry key (.tables (changed :: others)) entries
    | some (.table kind sub) =>
      if byDots && kind == .explicit then none
      else
        (descend byDots change rest kind sub).map fun changed =>
          setEntry key (.table kind changed) entries

/-- Adds a pair to a table, under a key that may be dotted: `path` leads to the last key. -/
def addPair? (path : List String) (key : String) (v : Json) (entries : Entries) :
    Option Entries :=
  descend true (fun kind es =>
    if (kind == .dotted) == path.isEmpty || (Assoc.find? key es).isSome then none
    else some (es ++ [(key, .leaf v)])) path .explicit entries

/-- Opens the table of a header. -/
def openTable? (path : List String) (key : String) (entries : Entries) : Option Entries :=
  descend false (fun _ es =>
    match Assoc.find? key es with
    | none => some (es ++ [(key, .table .explicit [])])
    | some (.table .implicit sub) => some (setEntry key (.table .explicit sub) es)
    | some _ => none) path .explicit entries

/-- Opens another table of a list. -/
def openListed? (path : List String) (key : String) (entries : Entries) : Option Entries :=
  descend false (fun _ es =>
    match Assoc.find? key es with
    | none => some (es ++ [(key, .tables [[]])])
    | some (.tables all) => some (setEntry key (.tables ([] :: all)) es)
    | some _ => none) path .explicit entries

mutual

/-- A finished item as a value. -/
def Item.toJson : Item → Json
  | .leaf v => v
  | .table _ entries => .obj (membersOf entries)
  | .tables all => .arr (tablesOf all).reverse

/-- Finished entries as members. -/
def membersOf : List (String × Item) → List (String × Json)
  | [] => []
  | (key, item) :: rest => (key, item.toJson) :: membersOf rest

/-- Finished tables of a list as values. -/
def tablesOf : List (List (String × Item)) → List Json
  | [] => []
  | entries :: rest => .obj (membersOf entries) :: tablesOf rest

end

/-- A statement; a path leads to the key after it. -/
inductive Statement where
  | header (path : List String) (key : String)
  | listHeader (path : List String) (key : String)
  | pair (path : List String) (key : String) (v : Json)

/-- The document so far and the path of the open table. -/
structure Building where
  entries : Entries
  table : List String

/-- The document after one more statement. -/
def Building.add? (b : Building) : Statement → Option Building
  | .header path key =>
    (openTable? path key b.entries).map fun es => ⟨es, path ++ [key]⟩
  | .listHeader path key =>
    (openListed? path key b.entries).map fun es => ⟨es, path ++ [key]⟩
  | .pair path key v =>
    (descend false (fun _ es => addPair? path key v es) b.table .explicit b.entries).map
      fun es => ⟨es, b.table⟩

/-- The document that statements make. -/
def build? (statements : List Statement) : Option Json :=
  (statements.foldlM Building.add? ⟨[], []⟩).map fun b => .obj (membersOf b.entries)

/-- The value of an inline table with the given pairs. -/
def inlineTable? (pairs : List (List String × String × Json)) : Option Json :=
  (pairs.foldlM (fun es (path, key, v) => addPair? path key v es) []).map fun es =>
    .obj (membersOf es)

/-! ## Texts -/

/-- How deep values may be nested, and how many parts a key may have. -/
def depthLimit : Nat := 80

/-- Whether a character may stand in a key without quotes. -/
def isKeyChar (c : Char) : Bool := c.isAlphanum || c == '-' || c == '_'

/-- One part of a key. -/
def keyPart? (cs : List Char) : Option (String × List Char) :=
  match cs with
  | '"' :: rest => basicRest? cs.length [] rest
  | '\'' :: rest => literalRest? [] rest
  | _ =>
    let name := cs.takeWhile isKeyChar
    if name.isEmpty then none else some (String.ofList name, cs.dropWhile isKeyChar)

/-- The parts of a key with dots between them; blanks around a dot do not matter. -/
def keyParts? : Nat → List Char → Option (List String × List Char)
  | 0, _ => none
  | fuel + 1, cs =>
    (keyPart? (skipSpace cs)).bind fun (part, rest) =>
      match skipSpace rest with
      | '.' :: more => (keyParts? fuel more).map fun (parts, after) => (part :: parts, after)
      | after => some ([part], after)

/-- A key: the parts that lead to it, and its last part. -/
def key? (cs : List Char) : Option ((List String × String) × List Char) :=
  (keyParts? (depthLimit - 1) cs).bind fun (parts, rest) =>
    parts.getLast?.map fun last => ((parts.dropLast, last), rest)

/-- A value that contains no others. -/
def scalarValue? (cs : List Char) : Option (Json × List Char) :=
  match cs with
  | 't' :: 'r' :: 'u' :: 'e' :: rest => some (.bool true, rest)
  | 'f' :: 'a' :: 'l' :: 's' :: 'e' :: rest => some (.bool false, rest)
  | _ =>
    ((string? cs).map fun (s, rest) => (Json.str s, rest)).or <|
    (dateTime? cs).or <|
    ((float? cs).map fun (x, rest) => (Json.num (.real x), rest)).or <|
    (integer? cs).map fun (i, rest) => (Json.ofInt i, rest)

mutual

/-- A value; `fuel` bounds the work and `depth` says how deep containers may still go. -/
def valueWithin? (fuel depth : Nat) (cs : List Char) : Option (Json × List Char) :=
  match fuel with
  | 0 => none
  | fuel + 1 =>
    match cs with
    | '[' :: rest =>
      if depth ≤ 1 then none
      else (itemsWithin? fuel (depth - 1) rest).map fun (vs, after) => (.arr vs, after)
    | '\x7b' :: rest =>
      if depth ≤ 1 then none
      else
        match skipSpace rest with
        | '\x7d' :: after => some (.obj [], after)
        | _ =>
          (pairsWithin? fuel (depth - 1) rest).bind fun (pairs, after) =>
            (inlineTable? pairs).map fun v => (v, after)
    | _ => scalarValue? cs

/-- The items of a list and its closing bracket; lines and comments between them do not
matter, and a comma may follow the last item. -/
def itemsWithin? (fuel depth : Nat) (cs : List Char) : Option (List Json × List Char) :=
  match fuel with
  | 0 => none
  | fuel + 1 =>
    match skipLines cs.length cs with
    | ']' :: after => some ([], after)
    | here =>
      (valueWithin? fuel depth here).bind fun (v, rest) =>
        match skipLines rest.length rest with
        | ',' :: more => (itemsWithin? fuel depth more).map fun (vs, after) => (v :: vs, after)
        | ']' :: after => some ([v], after)
        | _ => none

/-- The pairs of an inline table and its closing brace, all on one line. -/
def pairsWithin? (fuel depth : Nat) (cs : List Char) :
    Option (List (List String × String × Json) × List Char) :=
  match fuel with
  | 0 => none
  | fuel + 1 =>
    (key? cs).bind fun ((path, key), rest) =>
      (after? '=' rest).bind fun rest =>
        (valueWithin? fuel depth (skipSpace rest)).bind fun (v, rest) =>
          match skipSpace rest with
          | ',' :: more =>
            (pairsWithin? fuel depth more).map fun (ps, after) => ((path, key, v) :: ps, after)
          | '\x7d' :: after => some ([(path, key, v)], after)
          | _ => none

end

/-- A value. -/
def value? (cs : List Char) : Option (Json × List Char) :=
  valueWithin? (2 * cs.length + 2) depthLimit cs

/-- What follows the end of a line, blanks and a comment before it included; the end of the
file ends a line too. -/
def afterLine? (cs : List Char) : Option (List Char) :=
  match skipComment (skipSpace cs) with
  | [] => some []
  | rest => afterNewline? rest

/-- A statement without its line ending. -/
def statement? (cs : List Char) : Option (Statement × List Char) :=
  match cs with
  | '[' :: '[' :: rest =>
    (key? rest).bind fun ((path, key), rest) =>
      match rest with
      | ']' :: ']' :: after => some (.listHeader path key, after)
      | _ => none
  | '[' :: rest =>
    (key? rest).bind fun ((path, key), rest) =>
      match rest with
      | ']' :: after => some (.header path key, after)
      | _ => none
  | _ =>
    (key? cs).bind fun ((path, key), rest) =>
      (after? '=' rest).bind fun rest =>
        (value? (skipSpace rest)).map fun (v, after) => (.pair path key v, after)

/-- The statements of a file; `fuel` bounds their number. -/
def statements? : Nat → List Char → Option (List Statement)
  | 0, _ => none
  | fuel + 1, cs =>
    match skipLines cs.length cs with
    | [] => some []
    | here =>
      (statement? here).bind fun (s, rest) =>
        (afterLine? rest).bind fun after => (statements? fuel after).map (s :: ·)

/-- The document of a file; a byte order mark in front is passed over. -/
def parse? (text : String) : Option Json :=
  let cs := match text.toList with
    | c :: rest => if c.toNat = 0xfeff then rest else c :: rest
    | [] => []
  (statements? (cs.length + 1) cs).bind build?

end LintLedger.Toml
