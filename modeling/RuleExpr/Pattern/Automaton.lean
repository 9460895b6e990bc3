import RuleExpr.Pattern.Basic
import RuleExpr.Pattern.Encoding
import Std.Data.HashMap

/-!
# Automata for patterns

A pattern is refused when an automaton for it would be too large. There is one automaton for reading the bytes of a text
forwards, and one for reading them backwards. Their states are counted here and not kept: a `Tally` holds their number
and the bytes of memory for the ways from state to state.

- A literal has a state for each byte, a set of ASCII characters one state with a way for each range.
- Other sets are cut into sequences of byte ranges. Forwards, states with the same ways are shared as long as a table
  with `forwardSlots` slots remembers them; backwards, sequences share their beginnings by a table with `backwardSlots`
  slots.
- A repetition takes as many copies as it counts. A group has two states of its own, but only forwards.

`Pattern.fits` says whether both automata have at most `maxSize` bytes.
-/

namespace RuleExpr.Pattern

open RuleExpr.Text

/-- The largest automaton that is allowed, in bytes. -/
def maxSize : Nat := 10 * 1024 * 1024

/-- What an automaton has so far: the number of its states, and the bytes of the ways between them. -/
structure Tally where
  states : Nat := 0
  ways : Nat := 0

namespace Tally

/-- The tally, if the automaton is not too large; a state takes 32 bytes. -/
def checked (t : Tally) : Option Tally := if 32 * t.states + t.ways ≤ maxSize then some t else none

/-- As many states more, which have no ways but one. -/
def plain (count : Nat) (t : Tally) : Option Tally := checked ⟨t.states + count, t.ways⟩

/-- A state more that reads a byte in as many ranges. -/
def ranges (count : Nat) (t : Tally) : Option Tally := checked ⟨t.states + 1, t.ways + 8 * count⟩

/-- A state more that goes as many ways without reading. -/
def branch (count : Nat) (t : Tally) : Option Tally := checked ⟨t.states + 1, t.ways + 4 * count⟩

/-- A way more for a state that branches. -/
def way (t : Tally) : Option Tally := checked ⟨t.states, t.ways + 4⟩

/-- Applies a step a number of times, as long as the automaton is not too large. -/
def iterate (step : Tally → Option Tally) : Nat → Tally → Option Tally
  | 0, t => some t
  | n + 1, t =>
    match step t with
    | some t => iterate step n t
    | none => none

end Tally

/-! ## Tables of states -/

/-- The slots for states with the same ways, forwards. -/
def forwardSlots : UInt64 := 10000

/-- The slots for states with the same range and next state, backwards. -/
def backwardSlots : UInt64 := 1000

/-- The hash FNV-1a of numbers. -/
def hashNumbers (ns : List Nat) : UInt64 :=
  ns.foldl (fun h n => (h ^^^ n.toUInt64) * 1099511628211) 14695981039346656037

/-- An automaton with the states that it can share, by the numbers that describe them. A slot remembers the latest of
the states whose hash leads to it. -/
structure Shared where
  tally : Tally
  states : Std.HashMap Nat (List Nat × Nat) := {}

/-- The slot for the state that numbers describe. -/
def slotOf (slots : UInt64) (description : List Nat) : Nat := (hashNumbers description % slots).toNat

/-- The state that numbers describe: one that is remembered, or a new one that reads a byte in as many ranges. -/
def Shared.find (slots : UInt64) (description : List Nat) (ranges : Nat) (known : Shared) : Option (Nat × Shared) :=
  let slot := slotOf slots description
  match known.states[slot]?.filter (·.1 == description) with
  | some (_, state) => some (state, known)
  | none =>
    match known with
    | ⟨tally, states⟩ =>
      match tally.ranges ranges with
      | some t => some (tally.states, ⟨t, states.insert slot (description, tally.states)⟩)
      | none => none

/-! ## Sets -/

/-- Sequences by their first ranges, where neighbours with the same one are together. -/
def byFirst : List (List (Nat × Nat)) → List ((Nat × Nat) × List (List (Nat × Nat)))
  | [] => []
  | [] :: rest => byFirst rest
  | (r :: s) :: rest =>
    match byFirst rest with
    | (first, ss) :: more => if r = first then (r, s :: ss) :: more else (r, [s]) :: (first, ss) :: more
    | [] => [(r, [s])]

/-- The state from which sequences of at most `depth` byte ranges lead to the state `target`. It is described by its
ways, which are gathered backwards. -/
def forwardState (target : Nat) : Nat → List (List (Nat × Nat)) → Shared → Option (Nat × Shared)
  | 0, _, known => some (target, known)
  | depth + 1, sequences, known => do
    let groups := byFirst sequences
    let (ways, known) ← groups.foldlM (fun (ways, known) (r, rests) => do
      let (next, known) ←
        if rests.all List.isEmpty then some (target, known) else forwardState target depth rests known
      some ([next, r.2, r.1] ++ ways, known)) (([] : List Nat), known)
    known.find forwardSlots ways.reverse groups.length

/-- The states for a sequence of byte ranges whose first one leads to the state `target`, backwards. -/
def backwardStates (target : Nat) : List (Nat × Nat) → Shared → Option Shared
  | [], known => some known
  | r :: rest, known =>
    match known.find backwardSlots [target, r.1, r.2] 0 with
    | some (state, known) => backwardStates state rest known
    | none => none

/-- The states for one character of a set. -/
def setStates (backward : Bool) (s : RangeSet) (t : Tally) : Option Tally := do
  if s.isAscii then (t.plain 1).bind (Tally.ranges s.ranges.size)
  else
    let sequences := s.toList.flatMap encodings
    if backward then
      let t ← t.plain 2
      let known ← sequences.foldlM (fun known ranges => do
        let known ← backwardStates (t.states - 1) ranges known
        let tally ← known.tally.way
        some { known with tally }) { tally := t }
      some known.tally
    else
      let target := t.states
      let t ← t.plain 1
      let (_, known) ← forwardState target 4 sequences { tally := t }
      some known.tally

/-! ## Choices among literals -/

/-- The parts of a list of words between empty ones; `part` is the open part backwards. -/
def partsFrom (part : List (List UInt8)) : List (List UInt8) → List (List (List UInt8))
  | [] => [part.reverse]
  | w :: ws => if w.isEmpty then part.reverse :: partsFrom [] ws else partsFrom (w :: part) ws

/-- The parts of a list of words between empty ones, where empty words at the beginning count once. -/
def parts (words : List (List UInt8)) : List (List (List UInt8)) :=
  let rest := words.dropWhile List.isEmpty
  if rest.length = words.length then partsFrom [] rest else [] :: partsFrom [] rest

/-- The states of a tree of words with at most `depth` bytes, of which not all are empty. -/
def treeStates : Nat → List (List UInt8) → Tally → Option Tally
  | 0, _, t => some t
  | depth + 1, words, t => do
    let parts := parts words
    let t ← parts.foldlM (fun t part => do
      let firsts := (part.filterMap List.head?).eraseDups
      let t ← firsts.foldlM (fun t b =>
        let rests := part.filterMap fun w => if w.head? == some b then w.tail? else none
        if rests.all List.isEmpty then some t else treeStates depth rests t) t
      match firsts.length with
      | 0 => some t
      | 1 => t.plain 1
      | n => t.ranges n) t
    t.branch ((parts.filter fun part => !part.isEmpty).length + parts.length - 1)

/-- The bytes of patterns that are all literals. -/
def literals? (ps : List Pattern) : Option (List (List UInt8)) :=
  ps.mapM fun | literal text => some (text.flatMap String.utf8EncodeChar) | _ => none

/-- The states of a choice among words. -/
def wordStates (backward : Bool) (words : List (List UInt8)) (t : Tally) : Option Tally :=
  let words := if backward then words.map List.reverse else words
  (t.plain 1).bind (treeStates ((words.map List.length).foldl max 0) words)

/-! ## Patterns -/

mutual

/-- The automaton with the states of a pattern added. -/
def addStates (backward : Bool) : Pattern → Tally → Option Tally
  | empty, t | look _, t => t.plain 1
  | literal text, t => t.plain (text.flatMap String.utf8EncodeChar).length
  | set s, t => setStates backward s t
  | group p, t => do
    if backward then addStates backward p t
    else
      let t ← addStates backward p (← t.plain 1)
      t.plain 1
  | repeated p least most _, t => do
    let copies (n : Nat) (t : Tally) : Option Tally := Tally.iterate (addStates backward p) n t
    match least, most with
    | 0, some 1 => (← copies 1 (← t.branch 2)).plain 1
    | 0, none =>
      if p.shortest.any (0 < ·) then copies 1 (← t.branch 1)
      else (← (← (← copies 1 t).branch 2).branch 2).plain 1
    | least, none => (← copies least t).branch 1
    | least, some most =>
      let t ← if least = 0 then t.plain 1 else copies least t
      if least = most then some t
      else Tally.iterate (fun t => do addStates backward p (← t.branch 2)) (most - least) (← t.plain 1)
  | sequence ps, t => addSequence backward ps t
  | choice ps, t =>
    match literals? ps with
    | some words => wordStates backward words t
    | none => addChoice backward 0 ps t

/-- The automaton with the states of patterns one after the other added. -/
def addSequence (backward : Bool) : List Pattern → Tally → Option Tally
  | [], t => some t
  | p :: ps, t =>
    if backward then (addSequence backward ps t).bind (addStates backward p)
    else (addStates backward p t).bind (addSequence backward ps)

/-- The automaton with the states of patterns beside each other added, behind as many others. The states where they
part and meet come behind the second one. -/
def addChoice (backward : Bool) : Nat → List Pattern → Tally → Option Tally
  | _, [], t => some t
  | before, p :: ps, t => do
    let t ← addStates backward p t
    let t ← match before with
      | 0 => some t
      | 1 => (← t.branch 2).plain 1
      | _ => t.way
    addChoice backward (before + 1) ps t

end

mutual

/-- Whether each match begins where the text begins or, backwards, ends where the text ends. -/
def isAnchored (backward : Bool) : Pattern → Bool
  | look place => place == if backward then .textEnd else .textStart
  | group p => p.isAnchored backward
  | repeated p least _ _ => 0 < least && p.isAnchored backward
  | sequence ps => isAnchoredSequence backward ps
  | choice ps => areAnchored backward ps
  | _ => false

/-- Whether each match of patterns one after the other is anchored. -/
def isAnchoredSequence (backward : Bool) : List Pattern → Bool
  | [] => false
  | p :: ps =>
    if backward then isAnchoredSequence backward ps || (allPlaces ps && p.isAnchored backward)
    else p.isAnchored backward || (p.isPlace && isAnchoredSequence backward ps)

/-- Whether each match of each pattern is anchored. -/
def areAnchored (backward : Bool) : List Pattern → Bool
  | [] => true
  | p :: ps => p.isAnchored backward && areAnchored backward ps

end

/-- The automaton of a pattern. It reads any bytes before a match, unless matches are anchored; forwards, the whole
match is a group. -/
def automaton? (backward : Bool) (p : Pattern) : Option Tally := do
  let t : Tally ←
    if p.isAnchored backward then Tally.plain 1 {}
    else (← (← Tally.branch 2 {}).plain 1).ranges 1
  let t ← addStates backward (if backward then p else group p) t
  t.plain 1

/-! ## Bounds -/

/-- A bound for the number of sequences of byte ranges, with `more` bytes behind the first one, that encode the code
points from `low` to `high`: bytes that are cut on both sides leave a sequence on either side of the middle. -/
def sequenceBound (more low high : Nat) : Nat :=
  if low / 64 = high / 64 then 1 else if low / 4096 = high / 4096 then 3 else 2 * more + 1

/-- A bound for the bytes of a range: no sequence takes more than a state and a way for each byte and a way to it. -/
def rangeBound (r : Nat × Nat) : Nat :=
  encodingForms.foldl (fun sum (_, more, least, greatest) =>
    let low := max r.1 least
    let high := min r.2 greatest
    if low ≤ high then sum + sequenceBound more low high * (40 * (more + 1) + 4) else sum) 0

mutual

/-- A bound for the bytes that a pattern takes in either automaton. -/
def bound : Pattern → Nat
  | empty | look _ => 32
  | literal text => 512 * text.length + 128
  | set s => s.ranges.foldl (fun sum r => sum + rangeBound r) 96
  | group p => p.bound + 64
  | repeated p least most _ => (p.bound + 40) * (max least (most.getD least) + 1) + 128
  | sequence ps | choice ps => boundAll ps + 128

/-- A bound for the bytes of several patterns together. -/
def boundAll : List Pattern → Nat
  | [] => 0
  | p :: ps => p.bound + 8 + boundAll ps

end

/-- Whether the automata of a pattern are not too large. They need not be built if a bound says so. -/
def fits (p : Pattern) : Bool :=
  p.bound + 512 ≤ maxSize || ((automaton? false p).isSome && (automaton? true p).isSome)

end RuleExpr.Pattern
