import RuleExpr.Text.CaseOrbit

/-!
# Patterns

A pattern describes texts: single characters by sets, places in a text by what stands around them, sequences, choices
and repetitions. Only whether a text has a match is asked for; which of several matches a reluctant repetition would
prefer plays no part in that.

Patterns are made by functions that keep them simple:

- `Pattern.ofSet`: a set of one character is that character;
- `Pattern.times`: what only matches the empty text is repeated at most once;
- `Pattern.ofSequence`: sequences are flat, and characters that follow each other are one literal;
- `Pattern.ofChoice`: choices are flat, a choice among characters is a set, and a common beginning is taken out.
-/

namespace RuleExpr

open RuleExpr.Text

/-- What stands around a place in a text. -/
inductive Look where
  | textStart
  | textEnd
  | lineStart
  | lineEnd
  | lineStartCrlf
  | lineEndCrlf
  | wordBoundary (ascii : Bool)
  | notWordBoundary (ascii : Bool)
  | wordStart (ascii : Bool)
  | wordEnd (ascii : Bool)
  | wordStartHalf (ascii : Bool)
  | wordEndHalf (ascii : Bool)
  deriving DecidableEq

/-- A regular expression. -/
inductive Pattern where
  | empty
  | literal (text : List Char)
  | set (characters : RangeSet)
  | look (place : Look)
  | group (p : Pattern)
  | repeated (p : Pattern) (least : Nat) (most : Option Nat) (reluctant : Bool)
  | sequence (ps : List Pattern)
  | choice (ps : List Pattern)

namespace Pattern

/-! ## Lengths and equality -/

mutual

/-- Whether the pattern matches nothing but empty texts, because it only asks about a place. -/
def isPlace : Pattern → Bool
  | empty | look _ => true
  | literal _ | set _ => false
  | group p => p.isPlace
  | repeated p _ most _ => most.isSome && p.isPlace
  | sequence ps | choice ps => allPlaces ps

/-- Whether all patterns match nothing but empty texts. -/
def allPlaces : List Pattern → Bool
  | [] => true
  | p :: ps => p.isPlace && allPlaces ps

end

mutual

/-- The fewest characters that a match can have; none if there is no match or a part of the pattern has none. -/
def shortest : Pattern → Option Nat
  | empty | look _ => some 0
  | literal text => some text.length
  | set s => if s.ranges.isEmpty then none else some 1
  | group p => p.shortest
  | repeated p least _ _ => p.shortest.map (· * least)
  | sequence ps => (shortestAll ps).map fun lengths => lengths.foldl (· + ·) 0
  | choice ps => (shortestAll ps).map fun lengths => lengths.foldl min (lengths.headD 0)

/-- The fewest characters of each pattern. -/
def shortestAll : List Pattern → Option (List Nat)
  | [] => some []
  | p :: ps =>
    match p.shortest, shortestAll ps with
    | some n, some lengths => some (n :: lengths)
    | _, _ => none

end

mutual

/-- Whether two patterns are written in the same way; two groups are never the same group. -/
def same : Pattern → Pattern → Bool
  | empty, empty => true
  | literal a, literal b => a == b
  | set a, set b => a.toList == b.toList
  | look a, look b => a == b
  | repeated p least most reluctant, repeated q least' most' reluctant' =>
    same p q && least == least' && most == most' && reluctant == reluctant'
  | sequence ps, sequence qs => sameAll ps qs
  | choice ps, choice qs => sameAll ps qs
  | _, _ => false

/-- Whether the patterns of two lists are written in the same way. -/
def sameAll : List Pattern → List Pattern → Bool
  | [], [] => true
  | p :: ps, q :: qs => same p q && sameAll ps qs
  | _, _ => false

end

/-! ## Simple patterns -/

/-- The pattern for one character of a set. -/
def ofSet (s : RangeSet) : Pattern :=
  match s.toList with
  | [(low, high)] => if low = high then literal [Char.ofNat low] else set s
  | _ => set s

/-- The pattern repeated. -/
def times (p : Pattern) (least : Nat) (most : Option Nat) (reluctant : Bool) : Pattern :=
  let (least, most) := if p.isPlace then (min least 1, some (min (most.getD 1) 1)) else (least, most)
  if least = 0 ∧ most = some 0 then empty
  else if least = 1 ∧ most = some 1 then p
  else repeated p least most reluctant

/-- The members of a sequence without empty patterns and inner sequences. -/
def members : List Pattern → List Pattern
  | [] => []
  | empty :: ps => members ps
  | sequence qs :: ps => qs ++ members ps
  | p :: ps => p :: members ps

/-- Joins literals that follow each other. -/
def joinLiterals : List Pattern → List Pattern
  | [] => []
  | p :: ps =>
    match p, joinLiterals ps with
    | literal a, literal b :: rest => literal (a ++ b) :: rest
    | p, rest => p :: rest

/-- The patterns one after the other. -/
def ofSequence (ps : List Pattern) : Pattern :=
  match joinLiterals (members ps) with
  | [] => empty
  | [p] => p
  | ps => sequence ps

/-- The alternatives of a choice without inner choices. -/
def alternatives : List Pattern → List Pattern
  | [] => []
  | choice qs :: ps => qs ++ alternatives ps
  | p :: ps => p :: alternatives ps

/-- The characters of patterns that are all single characters. -/
def singles? (ps : List Pattern) : Option RangeSet :=
  (ps.mapM fun | literal [c] => some (RangeSet.single c) | _ => none).map RangeSet.unions

/-- The characters of patterns that are all sets. -/
def sets? (ps : List Pattern) : Option RangeSet :=
  (ps.mapM fun | set s => some s | _ => none).map RangeSet.unions

/-- The members that two sequences begin with. -/
def commonPrefix : List Pattern → List Pattern → List Pattern
  | p :: ps, q :: qs => if same p q then p :: commonPrefix ps qs else []
  | _, _ => []

/-- What sequences begin with, and their rests, if all patterns are sequences and begin alike. -/
def splitPrefix? (ps : List Pattern) : Option (List Pattern × List Pattern) :=
  match ps.mapM fun | sequence qs => some qs | _ => none with
  | some (qs :: rest) =>
    match rest.foldl commonPrefix qs with
    | [] => none
    | beginning => some (beginning, (qs :: rest).map fun members => ofSequence (members.drop beginning.length))
  | _ => none

/-- A choice among the patterns, where at most `depth` common beginnings within each other are taken out. -/
def choiceWithin (depth : Nat) (ps : List Pattern) : Pattern :=
  match alternatives ps with
  | [p] => p
  | ps =>
    match (singles? ps).or (sets? ps) with
    | some s => ofSet s
    | none =>
      match depth, splitPrefix? ps with
      | depth + 1, some (beginning, rests) => ofSequence (beginning ++ [choiceWithin depth rests])
      | _, _ => choice ps

/-- The levels of groups, repetitions and classes that may be nested. -/
def maxNesting : Nat := 250

/-- A choice among the patterns. -/
def ofChoice (ps : List Pattern) : Pattern := choiceWithin maxNesting ps

end Pattern

end RuleExpr
