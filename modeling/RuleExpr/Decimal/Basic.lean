/-!
# Decimal numbers

A decimal number is a mantissa over a power of ten, kept in normal form: the mantissa ends in no zero unless the scale
is zero. The normal form is part of the type, so two decimals are equal exactly when they are the same number.

- `Decimal.ofScaled m s` is the number `m / 10 ^ s`;
- `add`, `sub`, `neg`, `abs` and `compare` are exact (`aligned` brings two numbers to one scale).
-/

namespace RuleExpr

/-- The number `mantissa / 10 ^ scale` in normal form. -/
structure Decimal where
  mantissa : Int
  scale : Nat
  normal : scale = 0 ∨ mantissa % 10 ≠ 0
  deriving DecidableEq

namespace Decimal

/-! ## Powers -/

/-- A power of ten. -/
def tenPow (n : Nat) : Nat := Nat.pow 10 n

/-- A power of two. -/
def twoPow (n : Nat) : Nat := Nat.pow 2 n

/-! ## Normal form -/

/-- Takes the zeros at the end of the mantissa off the scale, as long as there is scale left. -/
def strip : Int → Nat → Int × Nat
  | m, 0 => (m, 0)
  | m, s + 1 => if m % 10 = 0 then strip (m / 10) s else (m, s + 1)

/-- Stripping leads to the normal form. -/
theorem strip_normal : ∀ (m : Int) (s : Nat), (strip m s).2 = 0 ∨ (strip m s).1 % 10 ≠ 0
  | _, 0 => Or.inl rfl
  | m, s + 1 => by
    unfold strip
    split
    · exact strip_normal (m / 10) s
    · next h => exact Or.inr h

/-- A whole number. -/
def ofInt (n : Int) : Decimal := ⟨n, 0, Or.inl rfl⟩

instance : OfNat Decimal n := ⟨ofInt n⟩

/-- The number `m / 10 ^ s`. -/
def ofScaled (m : Int) (s : Nat) : Decimal :=
  if m = 0 then 0 else ⟨(strip m s).1, (strip m s).2, strip_normal m s⟩

/-- Whether the number is zero. -/
def isZero (a : Decimal) : Bool := a.mantissa == 0

/-- Whether the number is below zero. -/
def isNegative (a : Decimal) : Bool := a.mantissa < 0

/-- Whether the number is whole. -/
def isInteger (a : Decimal) : Bool := a.scale == 0

/-! ## Exact operations -/

/-- The two mantissas at the larger of the two scales, and that scale. -/
def aligned (a b : Decimal) : Int × Int × Nat :=
  let s := max a.scale b.scale
  (a.mantissa * tenPow (s - a.scale), b.mantissa * tenPow (s - b.scale), s)

/-- The sum. -/
def add (a b : Decimal) : Decimal :=
  match aligned a b with
  | (x, y, s) => ofScaled (x + y) s

/-- The difference. -/
def sub (a b : Decimal) : Decimal :=
  match aligned a b with
  | (x, y, s) => ofScaled (x - y) s

/-- The number with the other sign. -/
def neg (a : Decimal) : Decimal := ⟨-a.mantissa, a.scale, by have := a.normal; omega⟩

/-- The magnitude. -/
def abs (a : Decimal) : Decimal := ⟨a.mantissa.natAbs, a.scale, by have := a.normal; omega⟩

/-- The order of the numbers. -/
def compare (a b : Decimal) : Ordering :=
  match aligned a b with
  | (x, y, _) => Ord.compare x y

instance : Add Decimal := ⟨add⟩
instance : Sub Decimal := ⟨sub⟩
instance : Neg Decimal := ⟨neg⟩
instance : Ord Decimal := ⟨compare⟩

end Decimal

end RuleExpr
