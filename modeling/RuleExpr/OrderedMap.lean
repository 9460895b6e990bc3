/-!
# Maps in order of insertion

A map is a list of keys with values, in the order in which the keys were first inserted. The operations keep the keys
distinct: `insert` replaces the value of a key in its place and appends a new key at the end.

- `Columns` is such a map as it is stored: the keys in one list and the values in another one. A key is searched among
  the keys, and what is done at its place is done to both lists; that they stay in step is not part of the type;
- `Entries` is the list of the pairs of both, and has the same operations by recursion on that list.
-/

namespace RuleExpr

/-! ## Two lists -/

/-- The keys of a map, and the values at the same places. -/
structure Columns (α : Type) where
  keys : List String
  values : List α

namespace Columns

variable {α : Type}

/-- The map without keys. -/
def empty : Columns α := ⟨[], []⟩

/-- The place of a key. -/
def position? (m : Columns α) (key : String) : Option Nat := m.keys.findIdx? (· == key)

/-- Whether the key is there. -/
def hasKey (m : Columns α) (key : String) : Bool := (m.position? key).isSome

/-- The value at the place of a key. -/
def get? (m : Columns α) (key : String) : Option α := (m.position? key).bind fun i => m.values[i]?

/-- The key and its value behind all others. -/
def append (m : Columns α) (key : String) (value : α) : Columns α := ⟨m.keys ++ [key], m.values ++ [value]⟩

/-- Writes a value to a place. -/
def setAt (m : Columns α) (i : Nat) (value : α) : Columns α := { m with values := m.values.set i value }

/-- Gives a key a value, and says which one it had before. -/
def insert (m : Columns α) (key : String) (value : α) : Option α × Columns α :=
  match m.position? key with
  | some i => (m.values[i]?, m.setAt i value)
  | none => (none, m.append key value)

/-- Takes a key away, and says which value it had. -/
def remove (m : Columns α) (key : String) : Option α × Columns α :=
  match m.position? key with
  | some i => (m.values[i]?, ⟨m.keys.eraseIdx i, m.values.eraseIdx i⟩)
  | none => (none, m)

/-- The place of a key, which is appended with a default value if it is not there. -/
def slot (m : Columns α) (key : String) (default : α) : Nat × Columns α :=
  match m.position? key with
  | some i => (i, m)
  | none => (m.values.length, m.append key default)

/-- The map of a list of pairs, inserted one after the other. -/
def ofPairs (pairs : List (String × α)) : Columns α := pairs.foldl (fun m p => (m.insert p.1 p.2).2) empty

end Columns

/-! ## Pairs -/

/-- The keys of a map with their values, in order. -/
abbrev Entries (α : Type) := List (String × α)

namespace Entries

variable {α : Type}

/-- The keys, in order. -/
def keys (m : Entries α) : List String := m.map Prod.fst

/-- The values, in the order of their keys. -/
def values (m : Entries α) : List α := m.map Prod.snd

/-- The value of a key. -/
def get? : Entries α → String → Option α
  | [], _ => none
  | (k, v) :: m, key => if k = key then some v else get? m key

/-- Whether the key is there. -/
def hasKey (m : Entries α) (key : String) : Bool := (get? m key).isSome

/-- Gives a key a value: in its place if it is there, else at the end. -/
def insert : Entries α → String → α → Entries α
  | [], key, value => [(key, value)]
  | (k, v) :: m, key, value => if k = key then (k, value) :: m else (k, v) :: insert m key value

/-- Takes a key away. -/
def erase : Entries α → String → Entries α
  | [], _ => []
  | (k, v) :: m, key => if k = key then m else (k, v) :: erase m key

/-- Gives a key a value, and says which one it had before. -/
def exchange : Entries α → String → α → Option α × Entries α
  | [], key, value => (none, [(key, value)])
  | (k, v) :: m, key, value =>
    if k = key then (some v, (k, value) :: m)
    else
      match exchange m key value with
      | (old, m) => (old, (k, v) :: m)

/-- Takes a key away, and says which value it had. -/
def take : Entries α → String → Option α × Entries α
  | [], _ => (none, [])
  | (k, v) :: m, key =>
    if k = key then (some v, m)
    else
      match take m key with
      | (old, m) => (old, (k, v) :: m)

/-- Gives a key a value if it is there. -/
def replace (m : Entries α) (key : String) (value : α) : Entries α :=
  if hasKey m key then insert m key value else m

/-- Appends the key with a default value if it is not there. -/
def ensure (m : Entries α) (key : String) (default : α) : Entries α :=
  if hasKey m key then m else insert m key default

/-- The map of a list of pairs, inserted one after the other. -/
def ofPairs (pairs : List (String × α)) : Entries α := pairs.foldl (fun m p => insert m p.1 p.2) []

end Entries

end RuleExpr
