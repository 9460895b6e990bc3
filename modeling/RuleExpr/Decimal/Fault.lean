import RuleExpr.Decimal.Render

/-!
# What can go wrong with decimals

The causes of failure of the partial operations on decimals, and their wording (`Fault.message`). An overflow is not the
fault of what an operation was given: a word of fixed width has no room for a number that comes up in between, and the
program that works with it ends there.
-/

namespace RuleExpr.Decimal

/-- Why an operation on decimals has no result. -/
inductive Fault where
  | divisionByZero
  | malformed (text : String)
  | outOfRange (value : Decimal) (target : String)
  | notFinite (text : String)
  | overflow
  deriving DecidableEq

/-- The wording of a fault. -/
def Fault.message : Fault → String
  | .divisionByZero => "division by zero"
  | .malformed text => s!"invalid decimal `{text}`"
  | .outOfRange value target => s!"{value} is out of range for {target}"
  | .notFinite text => s!"{text} is not a finite number"
  | .overflow => "overflow"

end RuleExpr.Decimal
