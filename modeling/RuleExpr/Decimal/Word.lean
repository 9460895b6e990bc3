import RuleExpr.Decimal.Fault

/-!
# Fixed-width integers

The integer types with a fixed number of bits. What does not fit a type overflows it (`IntegerType.fit`).

- the scales of decimals are words of 32 bits, and so are sums of them (`addScales`);
- a number is cut to 32 bits by `cut`.
-/

namespace RuleExpr.Decimal

/-- The integer types with a fixed number of bits; `size` is the type of lengths and indices, of 64 bits. -/
inductive IntegerType where
  | signed (bits : Nat)
  | unsigned (bits : Nat)
  | size
  deriving DecidableEq

namespace IntegerType

/-- The name of the type. -/
def name : IntegerType → String
  | signed bits => s!"i{bits}"
  | unsigned bits => s!"u{bits}"
  | size => "usize"

/-- The least value of the type. -/
def least : IntegerType → Int
  | signed bits => -twoPow (bits - 1)
  | _ => 0

/-- The greatest value of the type. -/
def greatest : IntegerType → Int
  | signed bits => twoPow (bits - 1) - 1
  | unsigned bits => twoPow bits - 1
  | size => twoPow 64 - 1

/-- Whether the type has the value. -/
def Holds (t : IntegerType) (n : Int) : Prop := t.least ≤ n ∧ n ≤ t.greatest

instance (t : IntegerType) (n : Int) : Decidable (t.Holds n) := inferInstanceAs (Decidable (_ ∧ _))

/-- The number as a value of the type, if there is room for it. -/
def fit (t : IntegerType) (n : Int) : Except Fault Int := if t.Holds n then .ok n else .error .overflow

end IntegerType

/-- The signed words of 64 bits. -/
def long : IntegerType := .signed 64

/-- The type of scales. -/
def scaleType : IntegerType := .unsigned 32

/-- The sum of two scales. -/
def addScales (s t : Nat) : Except Fault Nat := (scaleType.fit (s + t)).map Int.toNat

/-- The last 32 bits of a number. -/
def cut (n : Int) : Nat := (n % twoPow 32).toNat

end RuleExpr.Decimal
