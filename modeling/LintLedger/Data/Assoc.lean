/-!
# Association lists in ascending key order

Maps whose order is visible in an answer are kept as plain lists of pairs, in strictly
ascending order of their string keys.  The order is the order of code points, which for
strings is also the order of their encoded bytes.

## Main Definitions

* `Assoc` -- the list of pairs
* `Assoc.insert`, `Assoc.find?`, `Assoc.keys` -- write, look up, list the keys
* `Assoc.ofList` -- later pairs win over earlier ones with the same key
-/

namespace LintLedger

/-- A finite map with string keys, kept in strictly ascending key order. -/
abbrev Assoc (α : Type) := List (String × α)

namespace Assoc

variable {α β : Type}

/-- Writes `v` under `k`, replacing what was there, at the place the key order gives. -/
def insert (k : String) (v : α) : Assoc α → Assoc α
  | [] => [(k, v)]
  | (k', v') :: rest =>
    if k < k' then (k, v) :: (k', v') :: rest
    else if k = k' then (k, v) :: rest
    else (k', v') :: insert k v rest

/-- The value under `k`, if any. -/
def find? (k : String) : Assoc α → Option α
  | [] => none
  | (k', v) :: rest => if k = k' then some v else find? k rest

/-- The keys in ascending order. -/
def keys (m : Assoc α) : List String := m.map (·.1)

/-- The values in the order of their keys. -/
def values (m : Assoc α) : List α := m.map (·.2)

/-- The value under `k` changed by `f`, which sees `none` for an absent key. -/
def modify (k : String) (f : Option α → α) (m : Assoc α) : Assoc α :=
  insert k (f (m.find? k)) m

/-- The map written by a list of pairs, in which the last pair of a key wins. -/
def ofList (pairs : List (String × α)) : Assoc α :=
  pairs.foldl (fun m p => insert p.1 p.2 m) []

/-- The same keys with every value changed by `f`. -/
def mapValues (f : α → β) (m : Assoc α) : Assoc β := m.map fun p => (p.1, f p.2)

/-- What the library promises of every such list. -/
def Ascending (m : Assoc α) : Prop := m.Pairwise (fun p q => p.1 < q.1)

theorem find?_insert_self (k : String) (v : α) (m : Assoc α) :
    (m.insert k v).find? k = some v := by
  induction m with
  | nil => simp [insert, find?]
  | cons p rest ih =>
    obtain ⟨k', v'⟩ := p
    by_cases h : k < k'
    · simp [insert, find?, h]
    · by_cases h' : k = k' <;> simp [insert, find?, h, h', ih]

theorem find?_insert_of_ne {k j : String} (hne : j ≠ k) (v : α) (m : Assoc α) :
    (m.insert k v).find? j = m.find? j := by
  induction m with
  | nil => simp [insert, find?, hne]
  | cons p rest ih =>
    obtain ⟨k', v'⟩ := p
    by_cases h : k < k'
    · simp [insert, find?, h, hne]
    · by_cases h' : k = k'
      · subst h'
        simp [insert, find?, hne]
      · simp [insert, find?, h, h', ih]

end Assoc

end LintLedger
