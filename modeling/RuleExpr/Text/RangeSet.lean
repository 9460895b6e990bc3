import RuleExpr.Text.Blank
import RuleExpr.Text.Search

/-!
# Sets of characters as ranges

A set of code points as ranges in ascending order with gaps between them. Tables write it as lines of hexadecimal code
points `41` and ranges `41-5A` with blanks between them. The operations on sets work on the lists of ranges.

- `RangeSet.contains` looks a code point up by halving the ranges;
- `RangeSet.union`, `inter`, `diff`, `symmDiff` and `complement` make new sets.
-/

namespace RuleExpr.Text

/-! ## Lists of ranges -/

namespace Ranges

/-- Joins ranges in order of their beginnings where no gap is between them; `r` is the first of them. -/
def joinFrom (r : Nat × Nat) : List (Nat × Nat) → List (Nat × Nat)
  | [] => [r]
  | s :: rest => if s.1 ≤ r.2 + 1 then joinFrom (r.1, max r.2 s.2) rest else r :: joinFrom s rest

/-- Joins ranges in order of their beginnings where no gap is between them. -/
def join : List (Nat × Nat) → List (Nat × Nat)
  | [] => []
  | r :: rest => joinFrom r rest

/-- The ranges of what is in one of two lists. -/
def merge (a b : List (Nat × Nat)) : List (Nat × Nat) := join (List.merge a b fun r s => r.1 ≤ s.1)

/-- The ranges of what is in both of two lists. -/
def meet : List (Nat × Nat) → List (Nat × Nat) → List (Nat × Nat)
  | r :: a, s :: b =>
    let rest := if r.2 < s.2 then meet a (s :: b) else meet (r :: a) b
    if max r.1 s.1 ≤ min r.2 s.2 then (max r.1 s.1, min r.2 s.2) :: rest else rest
  | _, _ => []
termination_by a b => a.length + b.length

/-- The code point after one that is not the last; surrogates are left out. -/
def next (n : Nat) : Nat := if n = 0xD7FF then 0xE000 else n + 1

/-- The code point before one that is not the first; surrogates are left out. -/
def previous (n : Nat) : Nat := if n = 0xE000 then 0xD7FF else n - 1

/-- The ranges of what is in the first of two lists and not in the second. -/
def subtract : List (Nat × Nat) → List (Nat × Nat) → List (Nat × Nat)
  | [], _ => []
  | a, [] => a
  | r :: a, s :: b =>
    if s.2 < r.1 then subtract (r :: a) b
    else if r.2 < s.1 then r :: subtract a (s :: b)
    else
      let rest := if s.2 < r.2 then subtract ((next s.2, r.2) :: a) b else subtract a (s :: b)
      if r.1 < s.1 then (r.1, previous s.1) :: rest else rest
termination_by a b => a.length + b.length

/-- The range between two code points, whichever of them is greater. -/
def between (m n : Nat) : Nat × Nat := if m ≤ n then (m, n) else (n, m)

/-- The gaps behind a range that ends with `high`. The gap between two ranges that have only the surrogates between them
is taken to be the two characters at its sides. -/
def gapsFrom (high : Nat) : List (Nat × Nat) → List (Nat × Nat)
  | [] => if high < 0x10FFFF then [(next high, 0x10FFFF)] else []
  | r :: rest => between (next high) (previous r.1) :: gapsFrom r.2 rest

/-- The ranges of what is not in a list. -/
def gaps : List (Nat × Nat) → List (Nat × Nat)
  | [] => [(0, 0x10FFFF)]
  | r :: rest => (if 0 < r.1 then [(0, previous r.1)] else []) ++ gapsFrom r.2 rest

end Ranges

/-! ## Sets -/

/-- Ranges of code points, both ends included, in ascending order. -/
structure RangeSet where
  ranges : Array (Nat × Nat)

/-- The value of a hexadecimal digit. -/
def hexDigitValue (c : Char) : Nat :=
  if c.isDigit then c.toNat - '0'.toNat
  else if c.isLower then c.toNat - 'a'.toNat + 10
  else c.toNat - 'A'.toNat + 10

/-- The value of hexadecimal digits. -/
def hexValue (cs : List Char) : Nat := cs.foldl (fun n c => n * 16 + hexDigitValue c) 0

namespace RangeSet

/-- The range that a word of a table writes. -/
def readRange (word : List Char) : Nat × Nat :=
  match cutAt (· == '-') word with
  | (low, some high) => (hexValue low, hexValue high)
  | (only, none) => (hexValue only, hexValue only)

/-- The set of ranges in ascending order. -/
def ofList (ranges : List (Nat × Nat)) : RangeSet := ⟨ranges.toArray⟩

/-- The ranges of a set in ascending order. -/
def toList (s : RangeSet) : List (Nat × Nat) := s.ranges.toList

/-- The set that the lines of a table write. -/
def ofLines (lines : List String) : RangeSet :=
  ofList (lines.flatMap fun line => (words line.toList).map readRange)

/-- The set of ranges in any order. -/
def ofRanges (ranges : List (Nat × Nat)) : RangeSet :=
  ofList (Ranges.join (ranges.mergeSort fun r s => r.1 ≤ s.1))

/-- Looks for a code point in the ranges from `low` up to `high`, halving them up to `fuel` times. -/
def search (ranges : Array (Nat × Nat)) (n : Nat) : Nat → Nat → Nat → Bool
  | 0, _, _ => false
  | fuel + 1, low, high =>
    let middle := (low + high) / 2
    match ranges[middle]? with
    | none => false
    | some (first, last) =>
      if low ≥ high then false
      else if n < first then search ranges n fuel low middle
      else if n > last then search ranges n fuel (middle + 1) high
      else true

/-- Whether a code point is in the set. -/
def contains (s : RangeSet) (n : Nat) : Bool := search s.ranges n 32 0 s.ranges.size

/-- The set without elements. -/
def empty : RangeSet := ⟨#[]⟩

/-- The set of the code points from `low` to `high`. -/
def range (low high : Nat) : RangeSet := ⟨#[(low, high)]⟩

/-- The set of one character. -/
def single (c : Char) : RangeSet := range c.toNat c.toNat

/-- What is in one of two sets. -/
def union (a b : RangeSet) : RangeSet := ofList (Ranges.merge a.toList b.toList)

/-- What is in one of several sets. -/
def unions (sets : List RangeSet) : RangeSet := ofRanges (sets.flatMap toList)

/-- What is in both of two sets. -/
def inter (a b : RangeSet) : RangeSet := ofList (Ranges.meet a.toList b.toList)

/-- What is in the first of two sets and not in the second. -/
def diff (a b : RangeSet) : RangeSet := ofList (Ranges.subtract a.toList b.toList)

/-- What is in one of two sets and not in the other. -/
def symmDiff (a b : RangeSet) : RangeSet := (a.union b).diff (a.inter b)

/-- What is not in a set. -/
def complement (s : RangeSet) : RangeSet := ofList (Ranges.gaps s.toList)

/-- Whether the set has ASCII characters only. -/
def isAscii (s : RangeSet) : Bool := s.toList.all fun r => r.2 < 0x80

/-- The ASCII characters. -/
def ascii : RangeSet := range 0x00 0x7F

end RangeSet

end RuleExpr.Text
