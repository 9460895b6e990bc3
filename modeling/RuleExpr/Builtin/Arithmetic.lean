import RuleExpr.Function
import RuleExpr.Arguments
import RuleExpr.Decimal.Division

/-!
# Arithmetic

Sums, differences, products and quotients of one or more decimals, taken from the left; remainder, floor and ceiling.
A quotient is rounded at the configured number of places. A product or a quotient may overflow.
-/

namespace RuleExpr.Arithmetic

/-- Combines the decimals from the left with an operation that may fail. -/
def foldFrom (function : String) (op : Decimal → Decimal → Except Error Decimal) :
    Decimal → List Token → Except Error Decimal
  | acc, [] => .ok acc
  | acc, t :: ts => do
    let d ← Arguments.decimal function t
    let acc ← op acc d
    foldFrom function op acc ts

/-- Combines one or more decimals from the left. -/
def fold (function : String) (op : Decimal → Decimal → Except Error Decimal) : List Token → Except Error Token
  | [] => .error (.arity function 0)
  | t :: ts => do
    let first ← Arguments.decimal function t
    let total ← foldFrom function op first ts
    .ok (.decimal total)

/-- Applies an operation to the only decimal. -/
def unary (function : String) (op : Decimal → Decimal) (args : List Token) : Except Error Token := do
  let a ← Arguments.one function args
  let d ← Arguments.decimal function a
  .ok (.decimal (op d))

/-- Subtracts from the first decimal, or negates the only one. -/
def difference : List Token → Except Error Token
  | [only] => unary "-" Decimal.neg [only]
  | args => fold "-" (fun a b => .ok (a.sub b)) args

/-- The remainder of a division, with the sign of the dividend. -/
def remainder (args : List Token) : Except Error Token := do
  let (a, b) ← Arguments.two "mod" args
  let x ← Arguments.decimal "mod" a
  let y ← Arguments.decimal "mod" b
  let r ← (x.remainder y).mapError .decimal
  .ok (.decimal r)

/-- What an arithmetic function gives, with quotients at `precision` places. -/
def run (precision : Nat) : Arithmetic → List Token → Except Error Token
  | add, args => fold "+" (fun a b => .ok (a.add b)) args
  | .subtract, args => difference args
  | multiply, args => fold "*" (fun a b => (a.mul b).mapError .decimal) args
  | divide, args => fold "/" (fun a b => (a.divide b precision).mapError .decimal) args
  | .modulo, args => remainder args
  | floor, args => unary "floor" Decimal.floor args
  | ceil, args => unary "ceil" Decimal.ceil args

/-- The arithmetic part of the catalogue, in order of registration. -/
def catalogue : List Function :=
  let entry (signature : Signature) (op : Arithmetic) : Function := ⟨signature, .builtin (.arithmetic op)⟩
  let d := Kind.decimal
  [entry ⟨"+", [d, d], true, d, "Sum of the arguments", "(+ 1 2 3)"⟩ add,
    entry ⟨"-", [d, d], true, d, "First argument minus the rest; negation with one argument", "(- 10 3)"⟩ .subtract,
    entry ⟨"*", [d, d], true, d, "Product of the arguments", "(* 2 3 4)"⟩ multiply,
    entry ⟨"/", [d, d], true, d, "First argument divided by the rest", "(/ 1 4)"⟩ divide,
    entry ⟨"mod", [d, d], false, d, "Remainder of truncated division", "(mod 7 3)"⟩ .modulo,
    entry ⟨"floor", [d], false, d, "Largest integer not greater than the argument", "(floor 1.5)"⟩ floor,
    entry ⟨"ceil", [d], false, d, "Smallest integer not less than the argument", "(ceil 1.5)"⟩ ceil]

end RuleExpr.Arithmetic
