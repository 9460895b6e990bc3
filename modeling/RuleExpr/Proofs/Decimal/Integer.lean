import RuleExpr.Decimal.Integer
import RuleExpr.Proofs.Decimal.Division
import Mathlib.Data.Rat.Floor

/-!
# Whole parts and remainders are exact

Truncated division of whole numbers leaves less than the divisor, with the sign of the dividend. So its quotient is the
whole part of the exact quotient (`wholePart_div`): that whole number which is less than one away on the side of zero
(`wholePart_eq`). Floor and ceiling are the whole part with a step of one, where something is left on the right side.

**Floor, ceiling, whole part, conversion to integer types and remainder are those of the rationals**
(`whole_parts_exact`).
-/

namespace RuleExpr.Decimal

/-! ## The whole part of a rational -/

/-- A rational without what comes after the point. -/
def wholePart (q : ℚ) : ℤ := if 0 ≤ q then ⌊q⌋ else ⌈q⌉

/-- The whole part is less than one away, on the side of zero. -/
theorem wholePart_eq {q : ℚ} {n : ℤ} (hnear : |q - n| < 1) (hside : 0 ≤ (q - n) * q) : wholePart q = n := by
  obtain ⟨hlow, hhigh⟩ := abs_lt.1 hnear
  rcases lt_trichotomy q 0 with hq | rfl | hq
  · have hle : q - n ≤ 0 := nonpos_of_mul_nonneg_left hside hq
    rw [wholePart, if_neg (not_le.2 hq), Int.ceil_eq_iff]
    constructor <;> linarith
  · have hn : |n| < 1 := by
      rw [zero_sub, abs_neg] at hnear
      exact_mod_cast hnear
    rw [wholePart, if_pos le_rfl, Int.floor_zero, Int.abs_lt_one_iff.1 hn]
  · have hle : 0 ≤ q - n := nonneg_of_mul_nonneg_left hside hq
    rw [wholePart, if_pos hq.le, Int.floor_eq_iff]
    constructor <;> linarith

section Whole

variable (n : ℤ) {d : ℤ}

/-- What truncated division leaves, as a part of the divisor. -/
theorem div_sub_tdiv (hd : d ≠ 0) : (n : ℚ) / d - (n.tdiv d : ℤ) = (n.tmod d : ℤ) / d := by
  have hd' : (d : ℚ) ≠ 0 := Int.cast_ne_zero.2 hd
  have hsum : ((n.tdiv d * d + n.tmod d : ℤ) : ℚ) = n := congrArg _ (Int.tdiv_mul_add_tmod n d)
  push_cast at hsum
  rw [← hsum, add_div, mul_div_cancel_right₀ _ hd', add_sub_cancel_left]

theorem abs_tmod_lt (hd : d ≠ 0) : |n.tmod d| < |d| := by
  rw [Int.abs_eq_natAbs, Int.abs_eq_natAbs, Int.ofNat_lt]
  exact natAbs_tmod_lt n hd

/-- What is left has the sign of the dividend. -/
theorem tmod_mul_nonneg (d : ℤ) : 0 ≤ n.tmod d * n := by
  rcases le_total 0 n with hn | hn
  · exact mul_nonneg (Int.tmod_nonneg d hn) hn
  · exact mul_nonneg_of_nonpos_of_nonpos (tmod_nonpos d hn) hn

/-- **Truncated division gives the whole part of the quotient.** -/
theorem wholePart_div (hd : d ≠ 0) : wholePart (n / d) = n.tdiv d := by
  have hd' : (0 : ℚ) < |(d : ℚ)| := abs_pos.2 (Int.cast_ne_zero.2 hd)
  refine wholePart_eq ?_ ?_
  · rw [div_sub_tdiv n hd, abs_div, div_lt_one hd']
    exact_mod_cast abs_tmod_lt n hd
  · rw [div_sub_tdiv n hd, div_mul_div_comm]
    exact div_nonneg (mod_cast tmod_mul_nonneg n d) (mul_self_nonneg _)

end Whole

/-! ## Whole parts of decimals -/

section Split

variable (x : Decimal)

theorem tenPow_ne_zero (s : Nat) : (tenPow s : ℤ) ≠ 0 := Int.natCast_ne_zero.2 (Nat.pow_pos (by decide)).ne'

theorem toRat_eq_div : x.toRat = (x.mantissa : ℚ) / ((tenPow x.scale : ℤ) : ℚ) := by simp [toRat, fraction, tenPow]

theorem splitInteger_fst : x.splitInteger.1 = wholePart x.toRat := by
  rw [toRat_eq_div, wholePart_div _ (tenPow_ne_zero _)]
  rfl

/-- A decimal is its whole part and what is left at the same scale, less than one. -/
theorem toRat_sub_splitInteger : x.toRat - x.splitInteger.1 = fraction x.splitInteger.2 x.scale ∧
    |fraction x.splitInteger.2 x.scale| < 1 := by
  have hs := tenPow_ne_zero x.scale
  have hpos : (0 : ℚ) < |((tenPow x.scale : ℤ) : ℚ)| := abs_pos.2 (Int.cast_ne_zero.2 hs)
  have hrest : fraction x.splitInteger.2 x.scale =
      ((x.mantissa.tmod (tenPow x.scale) : ℤ) : ℚ) / ((tenPow x.scale : ℤ) : ℚ) := by
    simp [fraction, splitInteger, tenPow]
  constructor
  · rw [hrest, toRat_eq_div]
    exact div_sub_tdiv x.mantissa hs
  · rw [hrest, abs_div, div_lt_one hpos]
    exact_mod_cast abs_tmod_lt x.mantissa hs

theorem fraction_neg_iff {m : ℤ} {s : Nat} : fraction m s < 0 ↔ m < 0 := by
  rw [← fraction_zero_left s, fraction_lt]

theorem fraction_pos_iff {m : ℤ} {s : Nat} : 0 < fraction m s ↔ 0 < m := by
  rw [← fraction_zero_left s, fraction_lt]

theorem floor_eq : floor x = ofInt ⌊x.toRat⌋ := by
  obtain ⟨hrest, hlt⟩ := x.toRat_sub_splitInteger
  obtain ⟨hlow, hhigh⟩ := abs_lt.1 hlt
  have hfloor : floor x = ofInt (if x.splitInteger.2 < 0 then x.splitInteger.1 - 1 else x.splitInteger.1) := rfl
  rw [hfloor]
  refine congrArg ofInt (Eq.symm (Int.floor_eq_iff.2 ?_))
  by_cases hneg : x.splitInteger.2 < 0
  · have := (fraction_neg_iff (s := x.scale)).2 hneg
    rw [if_pos hneg]
    push_cast
    constructor <;> linarith
  · have := not_lt.1 ((fraction_neg_iff (s := x.scale)).not.2 hneg)
    rw [if_neg hneg]
    constructor <;> linarith

theorem ceil_eq : ceil x = ofInt ⌈x.toRat⌉ := by
  obtain ⟨hrest, hlt⟩ := x.toRat_sub_splitInteger
  obtain ⟨hlow, hhigh⟩ := abs_lt.1 hlt
  have hceil : ceil x = ofInt (if x.splitInteger.2 > 0 then x.splitInteger.1 + 1 else x.splitInteger.1) := rfl
  rw [hceil]
  refine congrArg ofInt (Eq.symm (Int.ceil_eq_iff.2 ?_))
  by_cases hpos : x.splitInteger.2 > 0
  · have := (fraction_pos_iff (s := x.scale)).2 hpos
    rw [if_pos hpos]
    push_cast
    constructor <;> linarith
  · have := not_lt.1 ((fraction_pos_iff (s := x.scale)).not.2 hpos)
    rw [if_neg hpos]
    constructor <;> linarith

theorem truncate_eq : truncate x = ofInt (wholePart x.toRat) := congrArg ofInt x.splitInteger_fst

end Split

/-! ## Integer types -/

namespace IntegerType

/-- The values of the type. -/
def range : IntegerType → Set ℤ
  | signed bits => {n | -2 ^ (bits - 1) ≤ n ∧ n < 2 ^ (bits - 1)}
  | unsigned bits => {n | 0 ≤ n ∧ n < 2 ^ bits}
  | size => {n | 0 ≤ n ∧ n < 2 ^ 64}

theorem natCast_twoPow (bits : Nat) : ((twoPow bits : Nat) : ℤ) = 2 ^ bits := by simp [twoPow]

theorem holds_iff {t : IntegerType} {n : ℤ} : t.Holds n ↔ n ∈ t.range := by
  cases t with
  | signed bits =>
    show -((twoPow (bits - 1) : Nat) : ℤ) ≤ n ∧ n ≤ (twoPow (bits - 1) : Nat) - 1 ↔
      -2 ^ (bits - 1) ≤ n ∧ n < 2 ^ (bits - 1)
    rw [natCast_twoPow, Int.le_sub_one_iff]
  | unsigned bits =>
    show 0 ≤ n ∧ n ≤ (twoPow bits : Nat) - 1 ↔ 0 ≤ n ∧ n < 2 ^ bits
    rw [natCast_twoPow, Int.le_sub_one_iff]
  | size =>
    show 0 ≤ n ∧ n ≤ (twoPow 64 : Nat) - 1 ↔ 0 ≤ n ∧ n < 2 ^ 64
    rw [natCast_twoPow, Int.le_sub_one_iff]

end IntegerType

theorem toInteger_eq_ok_iff {t : IntegerType} {x : Decimal} {n : ℤ} :
    toInteger t x = .ok n ↔ wholePart x.toRat = n ∧ n ∈ t.range := by
  rw [toInteger, splitInteger_fst, ← IntegerType.holds_iff]
  split
  · next h =>
    rw [Except.ok.injEq]
    exact ⟨fun he => ⟨he, he ▸ h⟩, And.left⟩
  · next h => exact ⟨nofun, fun ⟨he, hn⟩ => (h (he ▸ hn)).elim⟩

theorem toInteger_of_not_mem {t : IntegerType} {x : Decimal} (h : wholePart x.toRat ∉ t.range) :
    toInteger t x = .error (.outOfRange x t.name) := by
  rw [← IntegerType.holds_iff, ← splitInteger_fst] at h
  rw [toInteger, if_neg h]

/-! ## Remainders -/

/-- At one scale, what is left of the mantissas is what is left of the decimals. -/
theorem exists_remainder (a : Decimal) {b : Decimal} (hb : b ≠ 0) : ∃ r, remainder a b = .ok r ∧
    |r.toRat| < |b.toRat| ∧ (r = 0 ∨ 0 < r.toRat * a.toRat) ∧
      a.toRat - r.toRat = wholePart (a.toRat / b.toRat) * b.toRat := by
  obtain ⟨x, y, s, he, -, ha, hb'⟩ := exists_aligned a b
  have hy : y ≠ 0 := by
    rintro rfl
    rw [fraction_zero_left] at hb'
    exact hb (toRat_inj.1 (hb'.trans (toRat_ofInt 0).symm))
  have hs := ten_pow_pos s
  have hquotient : a.toRat / b.toRat = x / y := by
    rw [ha, hb', fraction, fraction, div_div_div_cancel_right₀ hs.ne']
  have hr : (ofScaled (x.tmod y) s).toRat = fraction (x.tmod y) s := toRat_ofScaled _ s
  refine ⟨ofScaled (x.tmod y) s, ?_, ?small, ?sign, ?multiple⟩
  · have hnonzero : b.isZero = false := by simpa [isZero] using mantissa_ne_zero hb
    rw [remainder, hnonzero, if_neg Bool.false_ne_true, he]
  case small =>
    rw [hr, hb', ← fraction_abs, ← fraction_abs, fraction_lt, ← Int.abs_eq_natAbs, ← Int.abs_eq_natAbs]
    exact abs_tmod_lt x hy
  case sign =>
    by_cases h0 : x.tmod y = 0
    · exact .inl (by rw [ofScaled, if_pos h0])
    · have hx : x ≠ 0 := by
        rintro rfl
        exact h0 (Int.zero_tmod y)
      have hpos : 0 < x.tmod y * x := (tmod_mul_nonneg x y).lt_of_ne (mul_ne_zero h0 hx).symm
      refine .inr ?_
      rw [hr, ha, ← fraction_mul, fraction_pos_iff]
      exact hpos
  case multiple =>
    rw [hquotient, wholePart_div x hy, hr, ha, hb', ← fraction_sub, fraction, fraction, ← mul_div_assoc]
    have hsum : x - x.tmod y = x.tdiv y * y := by
      have := Int.tdiv_mul_add_tmod x y
      omega
    rw [hsum, Int.cast_mul]

/-- **Whole parts and remainders are exact.** Floor and ceiling are the greatest whole number that is not above the
decimal and the least that is not below; the whole part goes toward zero. A conversion gives the whole part exactly
where the integer type has it, and is out of range otherwise. By a divisor that is not zero there is a remainder; it is
less than the divisor, has the sign of the dividend or is zero, and what it leaves of the dividend is the divisor times
the whole part of the exact quotient. By zero there is none. -/
theorem whole_parts_exact (x a b : Decimal) :
    (floor x = ofInt ⌊x.toRat⌋ ∧ ceil x = ofInt ⌈x.toRat⌉ ∧ truncate x = ofInt (wholePart x.toRat)) ∧
    (∀ t : IntegerType, (∀ n, toInteger t x = .ok n ↔ wholePart x.toRat = n ∧ n ∈ t.range) ∧
      (wholePart x.toRat ∉ t.range → toInteger t x = .error (.outOfRange x t.name))) ∧
    (b ≠ 0 → ∃ r, remainder a b = .ok r ∧ |r.toRat| < |b.toRat| ∧ (r = 0 ∨ 0 < r.toRat * a.toRat) ∧
      a.toRat - r.toRat = wholePart (a.toRat / b.toRat) * b.toRat) ∧
    (b = 0 → remainder a b = .error .divisionByZero) := by
  refine ⟨⟨floor_eq x, ceil_eq x, truncate_eq x⟩, fun t => ⟨fun n => toInteger_eq_ok_iff, toInteger_of_not_mem⟩,
    exists_remainder a, ?_⟩
  rintro rfl
  rfl

/-- Below zero, with a divisor that has more places than the dividend: `-7.5` and `2.25`. -/
theorem whole_parts_exact_negative :
    let x := ofScaled (-75) 1
    let b := ofScaled 225 2
    b ≠ 0 ∧ (floor x = -8 ∧ ceil x = -7 ∧ truncate x = -7) ∧ toInteger (.signed 8) x = .ok (-7) ∧
      toInteger .size x = .error (.outOfRange x "usize") ∧ remainder x b = .ok (ofScaled (-75) 2) ∧
      x.toRat - (ofScaled (-75) 2).toRat = -3 * b.toRat := by
  intro x b
  have hx : x.toRat = -15 / 2 := by
    rw [toRat_ofScaled]
    norm_num [fraction]
  have hb : b.toRat = 9 / 4 := by
    rw [toRat_ofScaled]
    norm_num [fraction]
  have hb0 : b ≠ 0 := by decide
  obtain ⟨⟨hfloor, hceil, htruncate⟩, hinteger, hremainder, -⟩ := whole_parts_exact x x b
  have hbelow : ⌊x.toRat⌋ = -8 := by
    rw [hx, Int.floor_eq_iff]
    norm_num
  have habove : ⌈x.toRat⌉ = -7 := by
    rw [hx, Int.ceil_eq_iff]
    norm_num
  have hwhole : wholePart x.toRat = -7 := by
    rw [hx]
    exact wholePart_eq (by norm_num [abs_lt]) (by norm_num)
  have hthree : wholePart (x.toRat / b.toRat) = -3 := by
    rw [hx, hb]
    exact wholePart_eq (by norm_num [abs_lt]) (by norm_num)
  rw [hbelow] at hfloor
  rw [habove] at hceil
  rw [hwhole] at htruncate
  obtain ⟨r, hr, -, -, hmultiple⟩ := hremainder hb0
  have hrun : remainder x b = .ok (ofScaled (-75) 2) := by decide +kernel
  rw [hrun, Except.ok.injEq] at hr
  rw [← hr, hthree] at hmultiple
  have hbyte : (-7 : ℤ) ∈ (IntegerType.signed 8).range := IntegerType.holds_iff.1 (by decide)
  have hsize : (-7 : ℤ) ∉ IntegerType.size.range := fun h => absurd (IntegerType.holds_iff.2 h) (by decide)
  exact ⟨hb0, ⟨hfloor, hceil, htruncate⟩, ((hinteger _).1 _).2 ⟨hwhole, hbyte⟩, (hinteger _).2 (hwhole ▸ hsize), hrun,
    mod_cast hmultiple⟩

end RuleExpr.Decimal
