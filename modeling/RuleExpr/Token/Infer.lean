import RuleExpr.Token.Basic
import RuleExpr.Decimal.Parse
import RuleExpr.Text.Category
import RuleExpr.Time.Rfc3339

/-!
# Atoms from text

A bare word becomes the atom that it spells: `true` or `false` in any case, a timestamp in RFC 3339, a decimal, and
otherwise a string. Only a word in the shape of a number is read as a decimal; digits of any script have that shape,
though only ASCII ones make a decimal. Where reading the decimal overflows, so does this.
-/

namespace RuleExpr.Token

open RuleExpr.Text

/-- Whether a character is a decimal digit of some script. -/
def isDigit (c : Char) : Bool := c.isDigit || (c.toNat ≥ 0x80 && Category.decimalNumber.characters.contains c.toNat)

/-- Whether the characters are digits with at most one point among, before or after them. -/
def isMantissa (cs : List Char) : Bool :=
  match cutAt (· == '.') cs with
  | (whole, fraction) => !(whole ++ fraction.getD []).isEmpty && (whole ++ fraction.getD []).all isDigit

/-- Whether the characters are digits with an optional sign. -/
def isExponent (cs : List Char) : Bool := !(readSigned cs).2.isEmpty && (readSigned cs).2.all isDigit

/-- Whether a text has the shape of a number. -/
def isNumeral (text : String) : Bool :=
  match cutAt (fun c => c == 'e' || c == 'E') (readSigned text.toList).2 with
  | (number, none) => isMantissa number
  | (number, some exponent) => isMantissa number && isExponent exponent

/-- The decimal or the string that a text spells. -/
def inferDecimal (text : String) : Except Error Token :=
  if isNumeral text then
    match Decimal.parse text with
    | .ok d => .ok (decimal d)
    | .error .overflow => .error .overflow
    | .error _ => .ok (string text)
  else .ok (string text)

/-- The atom that a text spells. -/
def infer (text : String) : Except Error Token :=
  if sameFolded text "true" then .ok (boolean true)
  else if sameFolded text "false" then .ok (boolean false)
  else
    match Timestamp.parse? text with
    | some t => .ok (time t)
    | none => inferDecimal text

end RuleExpr.Token
