import RuleExpr.Decimal.Word
import RuleExpr.Text.Blank
import RuleExpr.Text.Search

/-!
# Reading a decimal

A decimal is written with an optional sign, ASCII digits with at most one point among, before or after them (at least
one digit), and optionally `e` or `E` and a signed whole number of at most `maxExponent` in magnitude. White space
around it is dropped.

The exponent is a word of 64 bits, and so are its magnitude and the scale that it leads to. The least such word has no
magnitude: it overflows (`magnitude`).
-/

namespace RuleExpr.Decimal

open RuleExpr.Text

/-- The largest magnitude of a written exponent. -/
def maxExponent : Int := 10000

/-- The word written by an optional sign and ASCII digits, if it is in range. -/
def readWord? (cs : List Char) : Option Int :=
  match readSigned cs with
  | (negative, ds) =>
    (readDigits? ds).bind fun n =>
      let value : Int := if negative then -n else n
      if long.Holds value then some value else none

/-- The magnitude of a word. -/
def magnitude (e : Int) : Except Fault Int := long.fit e.natAbs

/-- The number `digits * 10 ^ exponent / 10 ^ places`. Its scale, or the power of ten, is cut to 32 bits. -/
def ofExponent (digits : Int) (places : Nat) (exponent : Int) : Except Fault Decimal := do
  let scale ← long.fit (places - exponent)
  if scale ≥ 0 then .ok (ofScaled digits (cut scale))
  else do
    let power ← long.fit (-scale)
    .ok (ofInt (digits * tenPow (cut power)))

/-- The number written by digits with an optional point, times a power of ten. -/
def ofDigits? (negative : Bool) (number : List Char) (exponent : Int) : Except Fault (Option Decimal) :=
  match cutAt (· == '.') number with
  | (whole, fraction) =>
    let fraction := fraction.getD []
    if (whole.isEmpty && fraction.isEmpty) || !(whole ++ fraction).all Char.isDigit then .ok none
    else
      let n : Int := digitsValue (whole ++ fraction)
      (ofExponent (if negative then -n else n) fraction.length exponent).map some

/-- The number written by a text without white space around it. -/
def ofChars? (cs : List Char) : Except Fault (Option Decimal) :=
  match readSigned cs with
  | (negative, rest) =>
    match cutAt (fun c => c == 'e' || c == 'E') rest with
    | (number, none) => ofDigits? negative number 0
    | (number, some exponent) =>
      match readWord? exponent with
      | none => .ok none
      | some e => do
        let size ← magnitude e
        if size > maxExponent then .ok none else ofDigits? negative number e

/-- The number written by a text. -/
def parse (text : String) : Except Fault Decimal := do
  match ← ofChars? (trim text.toList) with
  | some a => .ok a
  | none => .error (.malformed text)

end RuleExpr.Decimal
