import RuleExpr.Function
import RuleExpr.Arguments
import RuleExpr.Token.Order

/-!
# Comparison and logic

Equality of values, the order of decimals, of strings and of times, and ranges of decimals. Conjunction and disjunction
have unevaluated arguments and stop at the first that decides.
-/

namespace RuleExpr

namespace Comparison

/-- A test of two values that looks at their order. -/
def ordering (function : String) (test : Ordering → Bool) (args : List Token) : Except Error Token := do
  let (a, b) ← Arguments.two function args
  match Token.compareAtoms a b with
  | some order => .ok (.boolean (test order))
  | none => .error (Arguments.mismatch function a.kind b)

/-- A test of two values for equality. -/
def equality (function : String) (test : Bool → Bool) (args : List Token) : Except Error Token := do
  let (a, b) ← Arguments.two function args
  let same ← a.looseEqual b
  .ok (.boolean (test same))

/-- Whether a decimal is neither below the second nor above the third. -/
def inRange (args : List Token) : Except Error Token := do
  let (v, lo, hi) ← Arguments.three "between" args
  let v ← Arguments.decimal "between" v
  let lo ← Arguments.decimal "between" lo
  let hi ← Arguments.decimal "between" hi
  .ok (.boolean (lo.compare v != .gt && v.compare hi != .gt))

/-- What a comparison gives. -/
def run : Comparison → List Token → Except Error Token
  | equal, args => equality "=" id args
  | unequal, args => equality "!=" not args
  | greater, args => ordering ">" (· == .gt) args
  | less, args => ordering "<" (· == .lt) args
  | atLeast, args => ordering ">=" (· != .lt) args
  | atMost, args => ordering "<=" (· != .gt) args
  | .between, args => inRange args

/-- The overloads of an order test, one for each kind that has an order. -/
def overloads (name : String) (op : Comparison) : List Function :=
  [Kind.string, Kind.time, Kind.decimal].map fun k =>
    ⟨⟨name, [k, k], false, Kind.boolean, s!"Compare two {k} values", s!"({name} 2 1)"⟩, .builtin (.comparison op)⟩

end Comparison

/-- The part of the catalogue for comparison and logic, in order of registration. -/
def Comparison.catalogue : List Function :=
  let entry (signature : Signature) (op : Builtin) : Function := ⟨signature, .builtin op⟩
  let v := Kind.value
  let b := Kind.boolean
  [entry ⟨"=", [v, v], false, b, "Equality; a string compares equal to the atom it spells", "(= 1 \"1\")"⟩
      (.comparison equal),
    entry ⟨"!=", [v, v], false, b, "Negated equality", "(!= 1 2)"⟩ (.comparison unequal)]
  ++ overloads ">" greater ++ overloads "<" less ++ overloads ">=" atLeast ++ overloads "<=" atMost
  ++ [entry ⟨"between", [Kind.decimal, Kind.decimal, Kind.decimal], false, b,
        "Whether the first argument lies within the inclusive range of the other two", "(between 5 1 10)"⟩
      (.comparison .between),
    entry ⟨"and", [Kind.any], true, b, "True when every argument is truthy; stops at the first that is not",
        "(and true (> 2 1))"⟩ (.connective .all),
    entry ⟨"or", [Kind.any], true, b, "True when any argument is truthy; stops at the first that is",
        "(or false true)"⟩ (.connective .any)]

end RuleExpr
