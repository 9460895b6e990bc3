import RuleExpr.Text.RangeSet

/-!
# Ranges as sequences of bytes

An automaton reads characters as the bytes of UTF-8. A range of code points is cut into sequences of byte ranges, where
the ranges of one sequence do not depend on each other.

- `encodings` gives the sequences of a range, in ascending order.
-/

namespace RuleExpr.Pattern

/-- The ranges of numbers from `low` to `high` as sequences of digits in base 64, `more` of them behind the first one,
where the digits of a sequence are ranges that do not depend on each other. -/
def digitRanges : Nat → Nat → Nat → List (List (Nat × Nat))
  | 0, low, high => [[(low, high)]]
  | more + 1, low, high =>
    let block := 1 <<< (6 * (more + 1))
    if low / block = high / block then
      (digitRanges more (low % block) (high % block)).map ((low / block, low / block) :: ·)
    else
      let first := if low % block = 0 then low / block else low / block + 1
      let last := if high % block = block - 1 then high / block else high / block - 1
      (if low % block = 0 then []
        else (digitRanges more (low % block) (block - 1)).map ((low / block, low / block) :: ·))
      ++ (if first ≤ last then [(first, last) :: List.replicate (more + 1) (0, 63)] else [])
      ++ (if high % block = block - 1 then []
        else (digitRanges more 0 (high % block)).map ((high / block, high / block) :: ·))

/-- The forms of UTF-8: what is added to the first byte, the number of bytes behind it, and the code points. -/
def encodingForms : List (Nat × Nat × Nat × Nat) :=
  [(0, 0, 0, 0x7F), (0xC0, 1, 0x80, 0x7FF), (0xE0, 2, 0x800, 0xD7FF), (0xE0, 2, 0xE000, 0xFFFF),
    (0xF0, 3, 0x10000, 0x10FFFF)]

/-- The bytes of digits: `mark` is added to the first one, and `0x80` to the others. -/
def markBytes (mark : Nat) : List (Nat × Nat) → List (Nat × Nat)
  | [] => []
  | r :: rest => (mark + r.1, mark + r.2) :: rest.map fun s => (0x80 + s.1, 0x80 + s.2)

/-- The sequences of byte ranges that encode a range of code points. -/
def encodings (r : Nat × Nat) : List (List (Nat × Nat)) :=
  encodingForms.flatMap fun (mark, more, least, greatest) =>
    let low := max r.1 least
    let high := min r.2 greatest
    if low ≤ high then (digitRanges more low high).map (markBytes mark) else []

end RuleExpr.Pattern
