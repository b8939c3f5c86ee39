/-!
# Differences

What two rows have in common and what not: a shortest way to make one of the other by taking
members out and putting members in.  Of several such ways the one is taken in which the changes
lie as late as they can.

## Main Definitions

* `Difference.Marks` -- which members of two rows are changed
* `Difference.marks`, `Difference.marksWithin` -- the changes between two rows
* `Difference.Hunk`, `Difference.hunks` -- the changes, one after the other

## Design Notes

A way from the begin and one from the end are made longer step by step until they meet; there
both rows are cut in two.  The ways are kept by diagonals: the places in the two rows differ by
the number of a diagonal all along it.
-/

namespace LintLedger.Text.Difference

/-- Which members of two rows are changed. -/
structure Marks where
  first : Array Bool
  second : Array Bool

/-- Parts of two rows, by where they begin and end. -/
structure Box where
  fromX : Int
  toX : Int
  fromY : Int
  toY : Int

/-- How far ways have come on some diagonals. -/
structure Front where
  places : Array Int
  /-- The number that the first diagonal of all has in the array. -/
  offset : Int
  least : Int
  greatest : Int

/-- How far the way on a diagonal has come. -/
def Front.at' (f : Front) (d : Int) : Int := f.places.getD (d + f.offset).toNat 0

/-- The way on a diagonal has come to a place. -/
def Front.set (f : Front) (d place : Int) : Front :=
  { f with places := f.places.set! (d + f.offset).toNat place }

/-- More diagonals, or fewer if there are no more; `unknown` is for those next to the new
ones. -/
def Front.widen (f : Front) (box : Box) (unknown : Int) : Front :=
  let lowest := box.fromX - box.toY
  let highest := box.toX - box.fromY
  let f := if lowest < f.least then { (f.set (f.least - 2) unknown) with least := f.least - 1 }
    else { f with least := f.least + 1 }
  if f.greatest < highest then
    { (f.set (f.greatest + 2) unknown) with greatest := f.greatest + 1 }
  else { f with greatest := f.greatest - 1 }

section
variable {α : Type} [BEq α] (xs ys : Array α)

/-- Whether the members at two places are the same. -/
def same (x y : Int) : Bool :=
  match xs[x.toNat]?, ys[y.toNat]? with
  | some a, some b => a == b
  | _, _ => false

/-- How many members after two places are the same, of at most so many. -/
def runAfter : Nat → Int → Int → Int → Int → Nat
  | 0, _, _, _, _ => 0
  | n + 1, x, y, toX, toY =>
    if x < toX && y < toY && same xs ys x y then runAfter n (x + 1) (y + 1) toX toY + 1 else 0

/-- How many members before two places are the same, of at most so many. -/
def runBefore : Nat → Int → Int → Int → Int → Nat
  | 0, _, _, _, _ => 0
  | n + 1, x, y, fromX, fromY =>
    if fromX < x && fromY < y && same xs ys (x - 1) (y - 1) then
      runBefore n (x - 1) (y - 1) fromX fromY + 1
    else 0

/-- Ways from the begin are made longer, on each second one of so many diagonals downward from
one.  The value is a place where one meets a way from the end, if any does. -/
def advance (box : Box) (isOdd : Bool) (back : Front) :
    Nat → Int → Front → Option (Int × Int) × Front
  | 0, _, f => (none, f)
  | n + 1, d, f =>
    if d < f.least then (none, f)
    else
      let low := f.at' (d - 1)
      let high := f.at' (d + 1)
      let x := if low < high then high else low + 1
      let x := x + runAfter xs ys xs.size x (x - d) box.toX box.toY
      let f := f.set d x
      if isOdd && back.least ≤ d && d ≤ back.greatest && back.at' d ≤ x then
        (some (x, x - d), f)
      else advance box isOdd back n (d - 2) f

/-- Ways from the end are made longer, on each second one of so many diagonals downward from
one.  The value is a place where one meets a way from the begin, if any does. -/
def retreat (box : Box) (isOdd : Bool) (front : Front) :
    Nat → Int → Front → Option (Int × Int) × Front
  | 0, _, b => (none, b)
  | n + 1, d, b =>
    if d < b.least then (none, b)
    else
      let low := b.at' (d - 1)
      let high := b.at' (d + 1)
      let x := if low < high then low else high - 1
      let x := x - runBefore xs ys xs.size x (x - d) box.fromX box.fromY
      let b := b.set d x
      if !isOdd && front.least ≤ d && d ≤ front.greatest && x ≤ front.at' d then
        (some (x, x - d), b)
      else retreat box isOdd front n (d - 2) b

/-- Makes ways from both ends longer, at most so many times, until they meet. -/
def meetWithin (box : Box) (isOdd : Bool) : Nat → Front → Front → Int × Int
  | 0, _, _ => (box.fromX, box.fromY)
  | n + 1, f, b =>
    let diagonals := xs.size + ys.size + 3
    let f := f.widen box (-1)
    match advance xs ys box isOdd b diagonals f.greatest f with
    | (some place, _) => place
    | (none, f) =>
      let b := b.widen box (xs.size + ys.size + 1)
      match retreat xs ys box isOdd f diagonals b.greatest b with
      | (some place, _) => place
      | (none, b) => meetWithin box isOdd n f b

/-- A place on a shortest way through parts of two rows. -/
def meet (box : Box) : Int × Int :=
  let offset : Int := ys.size + 2
  let blank : Array Int := Array.replicate (xs.size + ys.size + 5) 0
  let start := box.fromX - box.fromY
  let finish := box.toX - box.toY
  let f := Front.set ⟨blank, offset, start, start⟩ start box.fromX
  let b := Front.set ⟨blank, offset, finish, finish⟩ finish box.toX
  meetWithin xs ys box ((start - finish) % 2 != 0) (xs.size + ys.size + 1) f b

/-- Marks of a part of a row. -/
def markRun (marks : Array Bool) (start finish : Int) : Array Bool :=
  (List.range (finish - start).toNat).foldl (fun m k => m.set! (start.toNat + k) true) marks

/-- Marks the changes between parts of two rows, which are cut at most so deep. -/
def compare : Nat → Box → Marks → Marks
  | 0, _, m => m
  | fuel + 1, box, m =>
    let n := runAfter xs ys xs.size box.fromX box.fromY box.toX box.toY
    let box := { box with fromX := box.fromX + n, fromY := box.fromY + n }
    let n := runBefore xs ys xs.size box.toX box.toY box.fromX box.fromY
    let box := { box with toX := box.toX - n, toY := box.toY - n }
    if box.fromX == box.toX then { m with second := markRun m.second box.fromY box.toY }
    else if box.fromY == box.toY then { m with first := markRun m.first box.fromX box.toX }
    else
      let (x, y) := meet xs ys box
      compare fuel { box with fromX := x, fromY := y }
        (compare fuel { box with toX := x, toY := y } m)

/-- Marks what is changed; a member of one row that the other one does not have at all does not
count in the search for a way. -/
def found : Marks :=
  let keptX := (List.range xs.size).filter fun i => (xs[i]?).any ys.contains
  let keptY := (List.range ys.size).filter fun i => (ys[i]?).any xs.contains
  let pick (all : Array α) (kept : List Nat) : Array α := (kept.filterMap fun i => all[i]?).toArray
  let inX := pick xs keptX
  let inY := pick ys keptY
  let inner := compare inX inY (inX.size + inY.size + 1) ⟨0, inX.size, 0, inY.size⟩
    ⟨Array.replicate inX.size false, Array.replicate inY.size false⟩
  let spread (size : Nat) (kept : List Nat) (marks : Array Bool) : Array Bool :=
    (kept.zip marks.toList).foldl (fun m (i, isChanged) => m.set! i isChanged)
      (Array.replicate size true)
  ⟨spread xs.size keptX inner.first, spread ys.size keptY inner.second⟩

end

/-! ## Where changes lie -/

/-- Whether the member at a place is changed. -/
def isMarked (m : Array Bool) (i : Nat) : Bool := m.getD i false

/-- The first place from one on that is not changed, looked for so many times. -/
def skipUp (m : Array Bool) : Nat → Nat → Nat
  | 0, i => i
  | n + 1, i => if isMarked m i then skipUp m n (i + 1) else i

/-- The last place before one that is not changed, looked for so many times. -/
def skipDown (m : Array Bool) : Nat → Nat → Nat
  | 0, i => i
  | n + 1, i => if 0 < i && isMarked m (i - 1) then skipDown m n (i - 1) else i - 1

/-- The first place of a run of changes that ends at a place. -/
def runStart (m : Array Bool) : Nat → Nat → Nat
  | 0, i => i
  | n + 1, i => if 0 < i && isMarked m (i - 1) then runStart m n (i - 1) else i

/-- A run of changes in one row, with the place in the other row that belongs to its end. -/
structure Run where
  marks : Array Bool
  start : Nat
  finish : Nat
  other : Nat
  /-- The last place where the run could end that belongs to a run in the other row. -/
  matching? : Option Nat

section
variable {α : Type} [BEq α] (xs : Array α) (others : Array Bool)

/-- Whether two members of a row are the same. -/
def alike (i j : Nat) : Bool :=
  match xs[i]?, xs[j]? with
  | some a, some b => a == b
  | _, _ => false

/-- Moves a run toward the begin as long as the member before it is the same as its last one. -/
def Run.backward : Nat → Run → Run
  | 0, r => r
  | n + 1, r =>
    if 0 < r.start && alike xs (r.start - 1) (r.finish - 1) then
      let marks := (r.marks.set! (r.start - 1) true).set! (r.finish - 1) false
      Run.backward n
        { r with
          marks := marks
          start := runStart marks marks.size (r.start - 1)
          finish := r.finish - 1
          other := skipDown others others.size r.other }
    else r

/-- Moves a run toward the end as long as the member after it is the same as its first one. -/
def Run.forward : Nat → Run → Run
  | 0, r => r
  | n + 1, r =>
    if r.finish < xs.size && alike xs r.start r.finish then
      let marks := (r.marks.set! r.start false).set! r.finish true
      let finish := skipUp marks marks.size (r.finish + 1)
      let other := skipUp others others.size (r.other + 1)
      Run.forward n
        { marks := marks
          start := r.start + 1
          finish := finish
          other := other
          matching? := if other != r.other + 1 then some finish else r.matching? }
    else r

/-- Moves a run to and fro until it meets no other run any more. -/
def Run.grow : Nat → Run → Run
  | 0, r => r
  | n + 1, r =>
    let length := r.finish - r.start
    let r := r.backward xs others (xs.size + 1)
    let isMatching := 0 < r.other && isMarked others (r.other - 1)
    let r := { r with matching? := if isMatching then some r.finish else none }
    let r := r.forward xs others (xs.size + 1)
    if r.finish - r.start = length then r else Run.grow n r

/-- Moves a run toward the begin to a place. -/
def Run.backTo (goal : Nat) : Nat → Run → Run
  | 0, r => r
  | n + 1, r =>
    if goal < r.finish then
      Run.backTo goal n
        { r with
          marks := (r.marks.set! (r.start - 1) true).set! (r.finish - 1) false
          start := r.start - 1
          finish := r.finish - 1
          other := skipDown others others.size r.other }
    else r

/-- Moves the runs from a place on, as late as they can lie; `other` is the place in the other
row that belongs to it. -/
def settleFrom : Nat → (i other : Nat) → Array Bool → Array Bool
  | 0, _, _, marks => marks
  | n + 1, i, other, marks =>
    if xs.size ≤ i then marks
    else if !isMarked marks i then settleFrom n (i + 1) (skipUp others others.size other + 1) marks
    else
      let finish := skipUp marks marks.size (i + 1)
      let r : Run := Run.grow xs others (xs.size + 1)
        ⟨marks, i, finish, skipUp others others.size other, none⟩
      let r := match r.matching? with
        | some goal => Run.backTo others goal (xs.size + 1) r
        | none => r
      settleFrom n r.finish r.other r.marks

/-- The changes of a row, moved as late as they can lie. -/
def settle (marks : Array Bool) : Array Bool :=
  settleFrom xs others (2 * xs.size + 2) 0 0 marks

end

/-- The changes between two rows. -/
def marks {α : Type} [BEq α] (xs ys : Array α) : Marks :=
  let m := found xs ys
  let first := settle xs m.second m.first
  ⟨first, settle ys first m.second⟩

/-- How many members at the begin of two rows are the same. -/
def commonStart {α : Type} [BEq α] : List α → List α → Nat
  | a :: as, b :: bs => if a == b then commonStart as bs + 1 else 0
  | _, _ => 0

/-- The changes between two rows, looked for only where they differ, with so many more members
after that. -/
def marksWithin {α β : Type} [BEq α] [BEq β] (margin : Nat) (key : α → β) (xs ys : Array α) :
    Marks :=
  let before := commonStart xs.toList ys.toList
  let room := min xs.size ys.size - before
  let after := min room (commonStart xs.toList.reverse ys.toList.reverse) - margin
  let inner (all : Array α) : Array β := (all.extract before (all.size - after)).map key
  let m := marks (inner xs) (inner ys)
  let whole (all : Array α) (some' : Array Bool) : Array Bool :=
    Array.replicate before false ++ some' ++
      Array.replicate (all.size - before - some'.size) false
  ⟨whole xs m.first, whole ys m.second⟩

/-! ## One change after the other -/

/-- A change: where it lies in each row, and how many members it takes there. -/
structure Hunk where
  first : Nat
  removed : Nat
  second : Nat
  added : Nat
deriving DecidableEq, Repr

/-- The changes from two places on, at most so many. -/
def hunksFrom (m : Marks) : Nat → Nat → Nat → List Hunk
  | 0, _, _ => []
  | n + 1, i, j =>
    if m.first.size ≤ i && m.second.size ≤ j then []
    else
      let i' := skipUp m.first m.first.size i
      let j' := skipUp m.second m.second.size j
      if i' = i && j' = j then hunksFrom m n (i + 1) (j + 1)
      else ⟨i, i' - i, j, j' - j⟩ :: hunksFrom m n i' j'

/-- The changes, one after the other. -/
def hunks (m : Marks) : List Hunk := hunksFrom m (m.first.size + m.second.size + 1) 0 0

end LintLedger.Text.Difference
