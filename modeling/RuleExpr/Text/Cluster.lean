import RuleExpr.Text.ClusterTable

/-!
# Grapheme clusters

A text is divided into extended grapheme clusters, the characters as a reader perceives them. The rules look at two
neighbouring characters and at a summary of the cluster so far (`State`): the parity of its regional indicators,
whether it ends in a pictograph and a joiner, and whether it ends in a consonant and a linker.

- `clusters` cuts a text into clusters; joining them gives the text back.
-/

namespace RuleExpr.Text

namespace Cluster

/-- The class of a character in the rules. -/
inductive Break where
  | carriageReturn
  | lineFeed
  | control
  | extend
  | joiner
  | regional
  | prepend
  | spacing
  | leading
  | vowel
  | trailing
  | openSyllable
  | closedSyllable
  | other
  deriving DecidableEq

/-- The class of a character. -/
def breakOf (n : Nat) : Break :=
  if n = 0x0D then .carriageReturn
  else if n = 0x0A then .lineFeed
  else if n < 0x20 then .control
  else if n < 0x7F then .other
  else if n = 0x200D then .joiner
  else if 0x1F1E6 ≤ n ∧ n ≤ 0x1F1FF then .regional
  else if (0x1100 ≤ n ∧ n ≤ 0x115F) ∨ (0xA960 ≤ n ∧ n ≤ 0xA97C) then .leading
  else if (0x1160 ≤ n ∧ n ≤ 0x11A7) ∨ (0xD7B0 ≤ n ∧ n ≤ 0xD7C6) then .vowel
  else if n = 0x16D63 ∨ (0x16D67 ≤ n ∧ n ≤ 0x16D6A) then .vowel
  else if (0x11A8 ≤ n ∧ n ≤ 0x11FF) ∨ (0xD7CB ≤ n ∧ n ≤ 0xD7FB) then .trailing
  else if 0xAC00 ≤ n ∧ n ≤ 0xD7A3 then (if (n - 0xAC00) % 28 = 0 then .openSyllable else .closedSyllable)
  else if extenders.contains n then .extend
  else if spacingMarks.contains n then .spacing
  else if controls.contains n then .control
  else if prependers.contains n then .prepend
  else .other

/-- How far a cluster has come towards joining the next character. -/
inductive Progress where
  | none
  | begun
  | ready
  deriving DecidableEq

/-- What the rules need to know of the cluster before a character. -/
structure State where
  last : Break
  oddRegional : Bool
  pictograph : Progress
  conjunct : Progress

/-- Whether the rules for two neighbouring classes keep them together; none where they look further. -/
def joins (before after : Break) : Option Bool :=
  match before, after with
  | .carriageReturn, .lineFeed => some true
  | .carriageReturn, _ | .lineFeed, _ | .control, _ => some false
  | _, .carriageReturn | _, .lineFeed | _, .control => some false
  | .leading, .leading | .leading, .vowel | .leading, .openSyllable | .leading, .closedSyllable => some true
  | .openSyllable, .vowel | .vowel, .vowel | .openSyllable, .trailing | .vowel, .trailing => some true
  | .closedSyllable, .trailing | .trailing, .trailing => some true
  | _, .extend | _, .joiner | _, .spacing => some true
  | .prepend, _ => some true
  | _, _ => none

/-- Whether the character goes with the cluster before it. -/
def State.extendsTo (s : State) (n : Nat) : Bool :=
  (joins s.last (breakOf n)).getD
    ((s.conjunct = .ready && conjunctConsonants.contains n) || (s.pictograph = .ready && pictographs.contains n)
      || (s.oddRegional && breakOf n = .regional))

/-- The state after a character, from the one before it if they are in one cluster. -/
def State.next (s : Option State) (n : Nat) : State :=
  let b := breakOf n
  let pictograph := match s with
    | some s => s.pictograph
    | none => .none
  let conjunct := match s with
    | some s => s.conjunct
    | none => .none
  let oddRegional := match s with
    | some s => s.oddRegional
    | none => false
  { last := b
    oddRegional := b = .regional && !oddRegional
    pictograph :=
      if pictographs.contains n then .begun
      else if b = .extend && pictograph = .begun then .begun
      else if b = .joiner && pictograph = .begun then .ready
      else .none
    conjunct :=
      if conjunctConsonants.contains n then .begun
      else if conjunct = .none then .none
      else if conjunctLinkers.contains n then .ready
      else if b = .joiner || (b = .extend && n != 0x200C) then conjunct
      else .none }

/-- The clusters of a text behind an open cluster, which is kept backwards. -/
def clustersFrom (cluster : List Char) (s : State) : List Char → List (List Char)
  | [] => [cluster.reverse]
  | c :: cs =>
    if s.extendsTo c.toNat then clustersFrom (c :: cluster) (State.next (some s) c.toNat) cs
    else cluster.reverse :: clustersFrom [c] (State.next none c.toNat) cs

end Cluster

/-- The grapheme clusters of a text. -/
def clusters : List Char → List (List Char)
  | [] => []
  | c :: cs => Cluster.clustersFrom [c] (Cluster.State.next none c.toNat) cs

end RuleExpr.Text
