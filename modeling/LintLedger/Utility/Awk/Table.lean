import LintLedger.Text.Integer
import Std.Data.HashMap

/-!
# Tables

A table holds values by keys.  A key is a text; one that is an integer can also be asked for by
its number.

## Main Definitions

* `Table` -- tables
* `Table.find?`, `Table.touch`, `Table.put`, `Table.erase` -- access to one value
* `Table.keys` -- the keys in the order in which they are gone through

## Design Notes

The keys are gone through bucket by bucket, in each bucket from the key that was asked for last
to the one that was asked for first.  The bucket of a key is told by a hash of its text.  As
long as a table was only ever asked for numbers, it has buckets by number, whose keys are
brought into those by text when these are needed.
-/

namespace LintLedger.Utility.Awk

/-- A key. -/
inductive Key where
  | number (i : Int)
  | text (s : String)
deriving DecidableEq, Repr

/-- A key as a text. -/
def Key.toText : Key → String
  | .number i => toString i
  | .text s => s

/-- A hash of a text. -/
def hashOf (s : String) : UInt32 :=
  s.toList.foldl (fun h c => (h ^^^ UInt32.ofNat c.toNat) * 16777619) 2166136261

/-- A table. -/
structure Table (α : Type) where
  values : Std.HashMap String α
  /-- The keys in their buckets by text, if there are any such buckets. -/
  byText : Array (List String)
  /-- The keys in their buckets by number. -/
  byNumber : Array (List Int)
  /-- Whether there are buckets by text. -/
  isNamed : Bool
  /-- How many keys there are if these are the numbers from one on and none has its bucket
  yet. -/
  row? : Option Nat

namespace Table

variable {α : Type}

/-- How many buckets a table has at first. -/
def firstBuckets : Nat := 64

/-- How many keys there are to a bucket before there are more buckets. -/
def bucketSize : Nat := 12

/-- A table without keys. -/
def empty : Table α :=
  { values := {}
    byText := Array.replicate firstBuckets []
    byNumber := Array.replicate firstBuckets []
    isNamed := false
    row? := none }

/-- How many keys a table has. -/
def size (t : Table α) : Nat := t.values.size

/-- The bucket of a text. -/
def textBucket (t : Table α) (s : String) : Nat := (hashOf s).toNat % t.byText.size

/-- The bucket of a number. -/
def numberBucket (t : Table α) (i : Int) : Nat := (i % Int.ofNat t.byNumber.size).toNat

/-- The key in front of all others in its bucket by text. -/
def raiseText (t : Table α) (s : String) : Table α :=
  let b := t.textBucket s
  { t with byText := t.byText.modify b fun ks => s :: ks.erase s }

/-- The key in front of all others in its bucket by number. -/
def raiseNumber (t : Table α) (i : Int) : Table α :=
  let b := t.numberBucket i
  { t with byNumber := t.byNumber.modify b fun ks => i :: ks.erase i }

/-- The table with the keys of a row in buckets. -/
def unrolled (t : Table α) : Table α :=
  match t.row? with
  | none => t
  | some n =>
    let buckets := (List.range 32).foldl
      (fun b _ => if b * bucketSize < n then 2 * b else b) firstBuckets
    let t := { t with
      row? := none
      byText := Array.replicate buckets []
      byNumber := Array.replicate buckets [] }
    (List.range n).foldl (fun t i => t.raiseNumber (Int.ofNat (i + 1))) t

/-- The table with buckets by text. -/
def named (t : Table α) : Table α :=
  let t := t.unrolled
  if t.isNamed then t
  else
    let keys := t.byNumber.toList.flatten
    { keys.foldl (fun t i => t.raiseText (toString i)) t with isNamed := true }

/-- Twice as many buckets, if there are too few for so many keys. -/
def grown (t : Table α) (keys : Nat) : Table α :=
  let n := t.byText.size
  if keys ≤ n * bucketSize then t
  else
    let wide : Table α := { t with
      byText := Array.replicate (2 * n) []
      byNumber := Array.replicate (2 * n) [] }
    let byText := t.byText.toList.flatten.foldr (fun s a =>
      a.modify (wide.textBucket s) fun ks => s :: ks) wide.byText
    let byNumber := t.byNumber.toList.flatten.foldr (fun i a =>
      a.modify (wide.numberBucket i) fun ks => i :: ks) wide.byNumber
    { t with byText := byText, byNumber := byNumber }

/-- The table after it was asked for a text, which is a key then. -/
def askText (t : Table α) (s : String) : Table α :=
  let t := t.named
  let t := if t.values.contains s then t else t.grown (t.size + 1)
  t.raiseText s

/-- The table after it was asked for a number, which is a key then. -/
def askNumber (t : Table α) (i : Int) : Table α :=
  let inRow := t.row?.any fun n => 1 ≤ i && i ≤ Int.ofNat n
  if inRow then t
  else
    let t := t.unrolled
    if (t.byNumber[t.numberBucket i]?.getD []).contains i then t.raiseNumber i
    else
      let t := if t.isNamed then t.askText (toString i) else t.grown (t.size + 1)
      t.raiseNumber i

/-- The table after it was asked for a key, which it has then. -/
def ask (t : Table α) : Key → Table α
  | .number i => t.askNumber i
  | .text s => t.askText s

/-- The value of a key. -/
def find? (t : Table α) (k : Key) : Option α := t.values[k.toText]?

/-- Whether a table has a key; the table has been asked for it then. -/
def has (t : Table α) (k : Key) : Bool × Table α :=
  if t.values.contains k.toText then (true, t.ask k) else (false, t)

/-- The value of a key, which is there from now on. -/
def touch (t : Table α) (k : Key) (fresh : α) : α × Table α :=
  let asked := t.ask k
  match t.find? k with
  | some v => (v, asked)
  | none => (fresh, { asked with values := asked.values.insert k.toText fresh })

/-- The table with a value for a key. -/
def put (t : Table α) (k : Key) (v : α) : Table α :=
  let asked := t.ask k
  { asked with values := asked.values.insert k.toText v }

/-- The table without a key. -/
def erase (t : Table α) (k : Key) : Table α :=
  if !t.values.contains k.toText then t
  else if t.size = 1 then empty
  else
    let t := t.named
    let s := k.toText
    let t := { t with
      values := t.values.erase s
      byText := t.byText.modify (t.textBucket s) fun ks => ks.erase s }
    match Text.intOf? s.toList with
    | some i =>
      if toString i = s then
        { t with byNumber := t.byNumber.modify (t.numberBucket i) fun ks => ks.erase i }
      else t
    | none => t

/-- A table that holds values by the numbers from one on. -/
def ofRow (all : List α) : Table α :=
  let values := all.zipIdx.foldl (fun m (v, i) => m.insert (toString (i + 1)) v) {}
  { (empty : Table α) with values := values, row? := if all.isEmpty then none else some all.length }

/-- The keys in the order in which they are gone through, and the table after that. -/
def keys (t : Table α) : List String × Table α :=
  let t := t.named
  (t.byText.toList.flatten, t)

end Table

end LintLedger.Utility.Awk
