import RuleExpr.Decimal.Basic

/-!
# The text of a decimal

A minus for a negative number, the whole part, and for a positive scale a point and exactly that many digits. The
whole part has no leading zero, except that it is a single `0` for a number below one.
-/

namespace RuleExpr.Decimal

/-- The decimal digits of a number, most significant first. -/
def digits (n : Nat) : List Char := Nat.toDigits 10 n

/-- The digits with zeros in front up to `width` of them. -/
def padded (width : Nat) (ds : List Char) : List Char := List.replicate (width - ds.length) '0' ++ ds

/-- The digits of the magnitude with the point before the last `scale` of them. -/
def renderMagnitude (n scale : Nat) : List Char :=
  if scale = 0 then digits n
  else
    let ds := padded (scale + 1) (digits n)
    ds.take (ds.length - scale) ++ '.' :: ds.drop (ds.length - scale)

/-- The text of the number. -/
def render (a : Decimal) : String :=
  String.ofList ((if a.mantissa < 0 then ['-'] else []) ++ renderMagnitude a.mantissa.natAbs a.scale)

instance : ToString Decimal := ⟨render⟩

end RuleExpr.Decimal
