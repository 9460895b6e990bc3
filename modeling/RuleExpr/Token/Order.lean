import RuleExpr.Token.Equality
import RuleExpr.Token.Infer

/-!
# Comparison of values

- `looseEqual` is equality, except that a string also equals the atom that it spells; reading that atom may overflow;
- `compareAtoms` orders two decimals, strings, times or booleans; tokens of other kinds have no order.
-/

namespace RuleExpr.Token

/-- Equality, where a string beside a token of another kind is read as the atom that it spells. -/
def looseEqual (a b : Token) : Except Error Bool :=
  if a.kind = b.kind then .ok (equal a b)
  else
    match a, b with
    | string s, other => (infer s).map fun t => equal t other
    | other, string s => (infer s).map fun t => equal t other
    | _, _ => .ok false

/-- The order of two atoms of one kind. -/
def compareAtoms : Token → Token → Option Ordering
  | decimal x, decimal y => some (x.compare y)
  | string x, string y => some (compareOfLessAndEq x y)
  | time x, time y => some (x.compare y)
  | boolean x, boolean y => some (compare x y)
  | _, _ => none

/-- Whether an atom comes before another one or with it; without an order, it does. -/
def ordered (a b : Token) : Bool := (compareAtoms a b).getD .eq != .gt

end RuleExpr.Token
