import RuleExpr.Pattern.Parser

/-!
# Looking for a pattern in a text

A set of places in a text is a number: bit `i` stands for the place before character `i`. A pattern leads from a set of
places where a match may begin to the set of places where it may end (`Steps.ends`), so all matches are followed at
once and no text takes exponential time.
-/

namespace RuleExpr

open RuleExpr.Text

/-- A pattern made for one text: character sets and places have become sets of places. -/
inductive Steps where
  | stuck
  | stay
  | step (allowed : Nat)
  | only (allowed : Nat)
  | seq (a b : Steps)
  | alt (a b : Steps)
  | repeated (a : Steps) (least : Nat) (most : Option Nat)

namespace Steps

/-- Applies a map of sets of places a number of times, or until nothing changes. -/
def iterate (f : Nat → Nat) : Nat → Nat → Nat
  | 0, places => places
  | n + 1, places =>
    let next := f places
    if next = places then places else iterate f n next

/-- The places that can be reached by at most a number of applications. -/
def reach (f : Nat → Nat) (n places : Nat) : Nat := iterate (fun s => s ||| f s) n places

/-- The places where a match that begins at one of the given places can end, in a text with `length` characters. -/
def ends (length : Nat) : Steps → Nat → Nat
  | stuck, _ => 0
  | stay, places => places
  | step allowed, places => (places &&& allowed) <<< 1
  | only allowed, places => places &&& allowed
  | seq a b, places => ends length b (ends length a places)
  | alt a b, places => ends length a places ||| ends length b places
  | repeated a least most, places =>
    reach (fun s => ends length a s) (match most with
      | some most => most - least
      | none => length + 1) (iterate (fun s => ends length a s) least places)

end Steps

/-- Whether a place, given by its neighbours, is as a look asks. -/
def Look.holds (look : Look) (before after : Option Char) : Bool :=
  let word (ascii : Bool) (c : Option Char) : Bool := c.any fun c => CharSet.isWord ascii c.toNat
  match look with
  | .textStart => before.isNone
  | .textEnd => after.isNone
  | .lineStart => before.all (· == '\n')
  | .lineEnd => after.all (· == '\n')
  | .lineStartCrlf => before.all fun c => c == '\n' || (c == '\r' && after != some '\n')
  | .lineEndCrlf => after.all fun c => c == '\r' || (c == '\n' && before != some '\r')
  | .wordBoundary ascii => word ascii before != word ascii after
  | .notWordBoundary ascii => word ascii before == word ascii after
  | .wordStart ascii => !word ascii before && word ascii after
  | .wordEnd ascii => word ascii before && !word ascii after
  | .wordStartHalf ascii => !word ascii before
  | .wordEndHalf ascii => !word ascii after

namespace Pattern

/-- The places from the one with the bit `bit` on whose neighbours, before and after, pass a test. -/
def placesFrom (test : Option Char → Option Char → Bool) (bit : Nat) : Option Char → List Char → Nat
  | before, [] => if test before none then bit else 0
  | before, c :: cs => (if test before (some c) then bit else 0) + placesFrom test (2 * bit) (some c) cs

/-- The places of a text that pass a test of the characters before and after them. -/
def places (test : Option Char → Option Char → Bool) (text : List Char) : Nat := placesFrom test 1 none text

/-- The places of a text before a character that passes a test. -/
def placesBefore (test : Char → Bool) (text : List Char) : Nat := places (fun _ after => after.any test) text

mutual

/-- The pattern made for a text. -/
def stepsOn (text : List Char) : Pattern → Steps
  | empty => .stay
  | literal cs => cs.foldr (fun c rest => .seq (.step (placesBefore (· == c) text)) rest) .stay
  | set characters => .step (placesBefore (fun c => characters.contains c.toNat) text)
  | look place => .only (places place.holds text)
  | group p => stepsOn text p
  | repeated p least most _ => .repeated (stepsOn text p) least most
  | sequence ps => stepsOnSequence text ps
  | choice ps => stepsOnChoice text ps

/-- The patterns one after the other, made for a text. -/
def stepsOnSequence (text : List Char) : List Pattern → Steps
  | [] => .stay
  | p :: ps => .seq (stepsOn text p) (stepsOnSequence text ps)

/-- The choice among patterns, made for a text. -/
def stepsOnChoice (text : List Char) : List Pattern → Steps
  | [] => .stuck
  | p :: ps => .alt (stepsOn text p) (stepsOnChoice text ps)

end

/-- Whether the pattern matches somewhere in the text. -/
def occursIn (p : Pattern) (text : String) : Bool :=
  let cs := text.toList
  (p.stepsOn cs).ends cs.length (1 <<< (cs.length + 1) - 1) != 0

end Pattern

end RuleExpr
