import RuleExpr.Decimal.Division

/-!
# Conversion to integers

A decimal is converted to an integer type by dropping its places after the point; a whole part outside the type is a
fault that shows the decimal and the type's name.
-/

namespace RuleExpr.Decimal

/-- The whole part as a value of the type. -/
def toInteger (t : IntegerType) (a : Decimal) : Except Fault Int :=
  if t.Holds a.splitInteger.1 then .ok a.splitInteger.1 else .error (.outOfRange a t.name)

/-- The whole part as a length or an index. -/
def toSize (a : Decimal) : Except Fault Nat := (toInteger .size a).map Int.toNat

end RuleExpr.Decimal
