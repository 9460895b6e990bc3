import RuleExpr.Decimal.Word

/-!
# Multiplication and division

The scales of the factors are added, and so are those of a divisor and its quotient; such a sum may overflow.

- `mul a b` is the exact product;
- `divide a b p` is the quotient at `p` places after the point, rounded to nearest, a tie away from zero;
- `remainder a b` is the remainder of division truncated toward zero, with the sign of `a`;
- `floor`, `ceil` and `truncate` are the whole numbers below, above, and toward zero.
-/

namespace RuleExpr.Decimal

/-- The product. -/
def mul (a b : Decimal) : Except Fault Decimal := do
  let scale ← addScales a.scale b.scale
  .ok (ofScaled (a.mantissa * b.mantissa) scale)

/-- Places after the point that a quotient keeps by default. -/
def defaultPrecision : Nat := 16

/-- The whole number nearest to `n / d`, a tie going away from zero; `d` is not zero. -/
def roundDiv (n d : Int) : Int :=
  let q := n.tdiv d
  let r := n.tmod d
  if 2 * r.natAbs ≥ d.natAbs then (if (n < 0) = (d < 0) then q + 1 else q - 1) else q

/-- The quotient at `precision` places after the point, rounded to nearest. -/
def divide (a b : Decimal) (precision : Nat) : Except Fault Decimal :=
  if b.isZero then .error .divisionByZero
  else do
    let scale ← addScales b.scale precision
    .ok (ofScaled (roundDiv (a.mantissa * tenPow scale) (b.mantissa * tenPow a.scale)) precision)

/-- The remainder of the division truncated toward zero. -/
def remainder (a b : Decimal) : Except Fault Decimal :=
  if b.isZero then .error .divisionByZero
  else
    match aligned a b with
    | (x, y, s) => .ok (ofScaled (x.tmod y) s)

/-- The whole part, toward zero, and what is left of the mantissa. -/
def splitInteger (a : Decimal) : Int × Int := (a.mantissa.tdiv (tenPow a.scale), a.mantissa.tmod (tenPow a.scale))

/-- The largest whole number not above the number. -/
def floor (a : Decimal) : Decimal :=
  match splitInteger a with
  | (q, r) => ofInt (if r < 0 then q - 1 else q)

/-- The smallest whole number not below the number. -/
def ceil (a : Decimal) : Decimal :=
  match splitInteger a with
  | (q, r) => ofInt (if r > 0 then q + 1 else q)

/-- The whole part, toward zero. -/
def truncate (a : Decimal) : Decimal := ofInt a.splitInteger.1

end RuleExpr.Decimal
