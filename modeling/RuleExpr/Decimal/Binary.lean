import RuleExpr.Decimal.Fault

/-!
# Binary floating-point formats

Decimals and the IEEE 754 interchange formats, given as bit patterns.

- `BinaryFormat.encode` rounds a decimal to the nearest value of the format, a tie to the even significand;
- `Decimal.ofDouble` reads a double as the shortest decimal that rounds to it: on the coarsest decimal grid that has a
  point in the interval of numbers rounding to the double, the point nearest to it, a tie going up in magnitude.
-/

namespace RuleExpr.Decimal

/-- An interchange format: its fraction and exponent widths in bits, and its name. -/
structure BinaryFormat where
  fractionBits : Nat
  exponentBits : Nat
  name : String

namespace BinaryFormat

/-- The format with 64 bits. -/
def double : BinaryFormat := ⟨52, 11, "f64"⟩

/-- The format with 32 bits. -/
def single : BinaryFormat := ⟨23, 8, "f32"⟩

/-- The exponent of the least normal value. -/
def leastExponent (f : BinaryFormat) : Int := 2 - twoPow (f.exponentBits - 1)

/-- The biased exponent of the infinities, one above that of the largest finite values. -/
def topExponent (f : BinaryFormat) : Nat := twoPow f.exponentBits - 1

/-- The whole number nearest to `n / d`, a tie going to the even one. -/
def roundEven (n d : Nat) : Nat :=
  let q := n / d
  let r := n % d
  if 2 * r < d then q else if 2 * r > d then q + 1 else q + q % 2

/-- `n * 2 ^ e` as a fraction. -/
def scaled (n : Nat) (e : Int) : Nat × Nat := (n <<< e.toNat, 1 <<< (-e).toNat)

/-- The exponent of the largest power of two not above `n / d`, neither of them zero. -/
def log2Ratio (n d : Nat) : Int :=
  let e : Int := n.log2 - d.log2
  let (p, q) := scaled 1 e
  if n * q < d * p then e - 1 else e

/-- The bits, without the sign, of the value nearest to `n / d`; those of infinity if it is beyond the finite ones. -/
def magnitude (f : BinaryFormat) (n d : Nat) : Nat :=
  if n = 0 then 0
  else
    let e := max (log2Ratio n d) f.leastExponent
    let (p, q) := scaled 1 (e - f.fractionBits)
    let m := roundEven (n * q) (d * p)
    min (m + (e - f.leastExponent).toNat <<< f.fractionBits) (f.topExponent <<< f.fractionBits)

/-- The bits of the value nearest to the decimal, or a fault if that is infinite. -/
def encode (f : BinaryFormat) (a : Decimal) : Except Fault Nat :=
  let m := f.magnitude a.mantissa.natAbs (tenPow a.scale)
  if m = f.topExponent <<< f.fractionBits then .error (.outOfRange a f.name)
  else .ok (m + (if a.isNegative then 1 <<< (f.fractionBits + f.exponentBits) else 0))

end BinaryFormat

/-! ## The shortest decimal -/

/-- The numbers that round to a positive binary value: the value and its two bounds in units of `2 ^ exponent`. -/
structure RoundingInterval where
  low : Nat
  value : Nat
  high : Nat
  exponent : Int
  closed : Bool

namespace RoundingInterval

/-- The interval around the double with the given exponent and fraction fields, which are not both zero. -/
def ofFields (field fraction : Nat) : RoundingInterval :=
  let m := if field = 0 then fraction else fraction + twoPow 52
  let below := if fraction = 0 && field > 1 then 1 else 2
  ⟨4 * m - below, 4 * m, 4 * m + 2, (max field 1 : Nat) - 1077, m % 2 = 0⟩

/-- Whether the interval has the point `c * 10 ^ p`. -/
def has (i : RoundingInterval) (c : Nat) (p : Int) : Bool :=
  let unit := twoPow i.exponent.toNat * tenPow (-p).toNat
  let point := c * tenPow p.toNat * twoPow (-i.exponent).toNat
  if i.closed then i.low * unit ≤ point && point ≤ i.high * unit else i.low * unit < point && point < i.high * unit

/-- The point nearest to the value on the grid of multiples of `10 ^ p`, if the interval has one. -/
def nearest? (i : RoundingInterval) (p : Int) : Option Nat :=
  let n := i.value * twoPow i.exponent.toNat * tenPow (-p).toNat
  let d := tenPow p.toNat * twoPow (-i.exponent).toNat
  let c := n / d
  match c != 0 && i.has c p, i.has (c + 1) p with
  | true, true => some (if 2 * (n % d) < d then c else c + 1)
  | true, false => some c
  | false, true => some (c + 1)
  | false, false => none

/-- The point on the coarsest of the `fuel` grids from `10 ^ p` downwards that has one, as a coefficient and a power. -/
def shortestFrom (i : RoundingInterval) (p : Int) : Nat → Option (Nat × Int)
  | 0 => none
  | fuel + 1 =>
    match i.nearest? p with
    | some c => some (c, p)
    | none => shortestFrom i (p - 1) fuel

/-- The point on the coarsest grid that has one; every double has one between `10 ^ 309` and `10 ^ -324`. -/
def shortest? (i : RoundingInterval) : Option (Nat × Int) := i.shortestFrom 309 640

end RoundingInterval

/-- The shortest decimal that rounds to the double with the given bits. -/
def ofDouble (bits : UInt64) : Except Fault Decimal :=
  let negative := bits.toNat / twoPow 63 % 2 = 1
  let field := bits.toNat / twoPow 52 % twoPow 11
  let fraction := bits.toNat % twoPow 52
  if field = 2047 then .error (.notFinite (if fraction ≠ 0 then "NaN" else if negative then "-inf" else "inf"))
  else if field = 0 && fraction = 0 then .ok 0
  else
    match (RoundingInterval.ofFields field fraction).shortest? with
    | none => .ok 0
    | some (c, p) =>
      let n : Int := if negative then -c else c
      .ok (ofScaled (n * tenPow p.toNat) (-p).toNat)

end RuleExpr.Decimal
