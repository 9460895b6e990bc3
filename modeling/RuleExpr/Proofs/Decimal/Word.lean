import RuleExpr.Decimal.Parse
import Mathlib.Algebra.Order.Ring.Int

/-!
# Numbers that fit a word

A number is a value of an integer type or overflows it (`IntegerType.fit_of_holds`, `IntegerType.fit_of_not_holds`).
So the sum of two scales is the sum of the numbers or an overflow (`addScales_of_lt`, `addScales_of_le`), and every word
but the least one has a magnitude (`magnitude_of_lt`).
-/

namespace RuleExpr.Decimal

namespace IntegerType

variable {t : IntegerType} {n : Int}

theorem fit_of_holds (h : t.Holds n) : t.fit n = .ok n := if_pos h

theorem fit_of_not_holds (h : ¬t.Holds n) : t.fit n = .error .overflow := if_neg h

end IntegerType

/-! ## Words of 64 bits -/

theorem holds_long_iff {n : Int} : long.Holds n ↔ -2 ^ 63 ≤ n ∧ n < 2 ^ 63 := by
  show -(9223372036854775808 : Int) ≤ n ∧ n ≤ 9223372036854775808 - 1 ↔ _
  omega

theorem magnitude_of_lt {e : Int} (h : -2 ^ 63 < e) (h' : e < 2 ^ 63) : magnitude e = .ok e.natAbs :=
  IntegerType.fit_of_holds (holds_long_iff.2 (by omega))

/-! ## Words of 32 bits -/

theorem cut_lt (n : Int) : cut n < 2 ^ 32 := by
  show (n % 4294967296).toNat < _
  omega

theorem cut_of_lt {n : Int} (h : 0 ≤ n) (h' : n < 2 ^ 32) : cut n = n.toNat := by
  show (n % 4294967296).toNat = _
  omega

section Scales

variable {s t : Nat}

theorem holds_scaleType_iff {n : Int} : scaleType.Holds n ↔ 0 ≤ n ∧ n < 2 ^ 32 := by
  show (0 : Int) ≤ n ∧ n ≤ 4294967296 - 1 ↔ _
  omega

theorem addScales_of_lt (h : s + t < 2 ^ 32) : addScales s t = .ok (s + t) := by
  rw [addScales, IntegerType.fit_of_holds (holds_scaleType_iff.2 (by omega))]
  rfl

theorem addScales_of_le (h : 2 ^ 32 ≤ s + t) : addScales s t = .error .overflow := by
  rw [addScales, IntegerType.fit_of_not_holds (mt holds_scaleType_iff.1 (by omega))]
  rfl

end Scales

end RuleExpr.Decimal
