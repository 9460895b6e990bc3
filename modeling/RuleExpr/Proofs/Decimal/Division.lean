import RuleExpr.Decimal.Division
import RuleExpr.Proofs.Decimal.Rational
import Mathlib.Tactic.Linarith

/-!
# Quotients are correctly rounded

Division of whole numbers toward zero, with a step away from zero where at least half of the divisor is left, gives a
whole number that is nearest to the quotient (`roundDiv_near`), and at the same distance from two the one farther from
zero (`lt_roundDiv_of_tie`). At `p` places the quotient of two decimals is that of two whole numbers, so it is rounded in
the same way (`rounds_roundDiv`). A rational is rounded to one decimal only (`Rounds.unique`), and a decimal with at most
`p` places is rounded to itself (`rounds_self`).

**A quotient is correctly rounded, and division undoes multiplication** (`divide_rounded`).
-/

namespace RuleExpr.Decimal

/-! ## Whole numbers -/

section Whole

variable {n d : Int}

theorem natAbs_tmod_lt (n : Int) (hd : d ≠ 0) : (n.tmod d).natAbs < d.natAbs := by
  rw [Int.natAbs_tmod]
  exact Nat.mod_lt _ (Int.natAbs_pos.2 hd)

theorem tmod_nonpos (d : Int) (hn : n ≤ 0) : n.tmod d ≤ 0 := by
  have hneg : 0 ≤ (-n).tmod d := Int.tmod_nonneg d (by omega)
  rw [Int.neg_tmod] at hneg
  omega

/-- What is left of the dividend has its sign and is less than the divisor, so the step goes past the dividend. -/
theorem roundDiv_spec (n : Int) (hd : d ≠ 0) : 2 * (roundDiv n d * d - n).natAbs ≤ d.natAbs ∧
    (2 * (roundDiv n d * d - n).natAbs = d.natAbs → n.natAbs < (roundDiv n d * d).natAbs) := by
  have hsum : n.tdiv d * d + n.tmod d = n := Int.tdiv_mul_add_tmod n d
  have hlt := natAbs_tmod_lt n hd
  have hsign : (0 ≤ n → 0 ≤ n.tmod d) ∧ (n < 0 → n.tmod d ≤ 0) :=
    ⟨Int.tmod_nonneg d, fun h => tmod_nonpos d h.le⟩
  unfold roundDiv
  by_cases hhalf : 2 * (n.tmod d).natAbs ≥ d.natAbs
  · rw [if_pos hhalf]
    by_cases hsame : (n < 0) = (d < 0)
    · rw [if_pos hsame, add_mul, one_mul]
      have : n < 0 ↔ d < 0 := iff_of_eq hsame
      omega
    · rw [if_neg hsame, sub_mul, one_mul]
      have : ¬(n < 0 ↔ d < 0) := fun h => hsame (propext h)
      omega
  · rw [if_neg hhalf]
    omega

/-- The distance from a quotient to a whole number, as a fraction of the divisor. -/
theorem abs_sub_div (k n : Int) (hd : d ≠ 0) : |(k : ℚ) - n / d| = ((k * d - n).natAbs : ℚ) / d.natAbs := by
  have hd' : (d : ℚ) ≠ 0 := Int.cast_ne_zero.2 hd
  rw [Nat.cast_natAbs, Nat.cast_natAbs, Int.cast_abs, Int.cast_abs, ← abs_div]
  push_cast
  rw [sub_div, mul_div_cancel_right₀ _ hd']

theorem roundDiv_near (n : Int) (hd : d ≠ 0) : |(roundDiv n d : ℚ) - n / d| ≤ 1 / 2 := by
  have hpos : (0 : ℚ) < d.natAbs := Nat.cast_pos.2 (Int.natAbs_pos.2 hd)
  rw [abs_sub_div _ _ hd, div_le_div_iff₀ hpos two_pos, one_mul, mul_comm]
  exact_mod_cast (roundDiv_spec n hd).1

/-- Halfway between two whole numbers, the quotient is nearer to zero than the one chosen. -/
theorem lt_roundDiv_of_tie (hd : d ≠ 0) (h : |(roundDiv n d : ℚ) - n / d| = 1 / 2) :
    |(n : ℚ) / d| < |(roundDiv n d : ℚ)| := by
  have hd' : (d : ℚ) ≠ 0 := Int.cast_ne_zero.2 hd
  have hpos : (0 : ℚ) < d.natAbs := Nat.cast_pos.2 (Int.natAbs_pos.2 hd)
  rw [abs_sub_div _ _ hd, div_eq_div_iff hpos.ne' two_ne_zero, one_mul, mul_comm] at h
  have htie := (roundDiv_spec n hd).2 (by exact_mod_cast h)
  have hlt : |(n : ℚ)| < |(roundDiv n d : ℚ)| * |(d : ℚ)| := by
    rw [← abs_mul]
    have : ((n.natAbs : Nat) : ℚ) < ((roundDiv n d * d).natAbs : Nat) := Nat.cast_lt.2 htie
    simpa using this
  rwa [abs_div, div_lt_iff₀ (abs_pos.2 hd')]

end Whole

/-! ## Rounding -/

/-- The decimal is the multiple of `10 ^ -p` nearest to `x`, and of two that are equally near the one farther from
zero. -/
structure Rounds (x : ℚ) (p : Nat) (q : Decimal) : Prop where
  multiple : ∃ n : Int, q.toRat = n / 10 ^ p
  places : q.scale ≤ p
  near : |q.toRat - x| ≤ 1 / 2 * (1 / 10 ^ p)
  tie : ∀ n : Int, |n / 10 ^ p - x| = |q.toRat - x| → |(n : ℚ) / 10 ^ p| ≤ |q.toRat|

namespace Rounds

variable {x : ℚ} {p : Nat} {a q r : Decimal} {k : Int}

/-- Distances at `p` places are those between whole numbers, divided by the power of ten. -/
theorem abs_sub_eq (n : Int) (x : ℚ) (p : Nat) : |(n : ℚ) / 10 ^ p - x| = |n - x * 10 ^ p| / 10 ^ p := by
  have hp := ten_pow_pos p
  rw [← abs_of_pos hp, ← abs_div, abs_of_pos hp, sub_div, mul_div_cancel_right₀ _ hp.ne']

/-- Halfway between two whole numbers, the one farther from zero is beyond both. -/
theorem abs_le_of_tie {y : ℚ} {n : Int} (hnear : |(k : ℚ) - y| ≤ 1 / 2)
    (htie : |(k : ℚ) - y| = 1 / 2 → |y| < |(k : ℚ)|) (h : |(n : ℚ) - y| = |(k : ℚ) - y|) :
    |(n : ℚ)| ≤ |(k : ℚ)| := by
  rcases abs_eq_abs.1 h with h | h
  · rw [sub_left_inj.1 h]
  · have hsum : ((n + k : Int) : ℚ) = 2 * y := by
      push_cast
      linarith
    have hdiff : ((k - n : Int) : ℚ) = 2 * (k - y) := by
      push_cast
      linarith
    have hunit : (k - n).natAbs ≤ 1 := by
      have : ((k - n).natAbs : ℚ) ≤ 1 := by
        rw [Nat.cast_natAbs, Int.cast_abs, hdiff, abs_mul, abs_two]
        linarith
      exact_mod_cast this
    by_cases hkn : k - n = 0
    · rw [sub_eq_zero.1 hkn]
    · have hhalf : |(k : ℚ) - y| = 1 / 2 := by
        have : ((k - n).natAbs : ℚ) = 1 := by exact_mod_cast (by omega : (k - n).natAbs = 1)
        rw [Nat.cast_natAbs, Int.cast_abs, hdiff, abs_mul, abs_two] at this
        linarith
      have hlt : (n + k).natAbs < 2 * k.natAbs := by
        have : ((n + k).natAbs : ℚ) < 2 * k.natAbs := by
          rw [Nat.cast_natAbs, Nat.cast_natAbs, Int.cast_abs, Int.cast_abs, hsum, abs_mul, abs_two]
          linarith [htie hhalf]
        exact_mod_cast this
      have hle : n.natAbs ≤ k.natAbs := by omega
      have : ((n.natAbs : Nat) : ℚ) ≤ (k.natAbs : Nat) := Nat.cast_le.2 hle
      simpa using this

/-- Two different whole numbers within half a unit are on both sides at the same distance, so neither is farther from
zero than the other; but they are neighbours. -/
theorem eq_of_near {y : ℚ} {n : Int} (hk : |(k : ℚ) - y| ≤ 1 / 2) (hn : |(n : ℚ) - y| ≤ 1 / 2)
    (htk : |(n : ℚ) - y| = |(k : ℚ) - y| → |(n : ℚ)| ≤ |(k : ℚ)|)
    (htn : |(k : ℚ) - y| = |(n : ℚ) - y| → |(k : ℚ)| ≤ |(n : ℚ)|) : k = n := by
  obtain ⟨hk1, hk2⟩ := abs_le.1 hk
  obtain ⟨hn1, hn2⟩ := abs_le.1 hn
  have hle : k - n ≤ 1 := by
    have : ((k - n : Int) : ℚ) ≤ 1 := by
      push_cast
      linarith
    exact_mod_cast this
  have hge : -1 ≤ k - n := by
    have : (-1 : ℚ) ≤ ((k - n : Int) : ℚ) := by
      push_cast
      linarith
    exact_mod_cast this
  by_contra hne
  have hdist : (k : ℚ) - y = -(n - y) := by
    rcases (by omega : k = n + 1 ∨ n = k + 1) with h | h
    · rw [h] at hk2 ⊢
      push_cast at hk2 ⊢
      linarith
    · rw [h] at hn2 ⊢
      push_cast at hn2 ⊢
      linarith
  have habs : |(k : ℚ) - y| = |(n : ℚ) - y| := by rw [hdist, abs_neg]
  have heq : |k| = |n| := by exact_mod_cast le_antisymm (htn habs) (htk habs.symm)
  rcases abs_eq_abs.1 heq with h | h <;> omega

/-- What is nearest among whole numbers is nearest among their multiples. -/
theorem of_near (hq : q.toRat = k / 10 ^ p) (hplaces : q.scale ≤ p) (hnear : |(k : ℚ) - x * 10 ^ p| ≤ 1 / 2)
    (htie : |(k : ℚ) - x * 10 ^ p| = 1 / 2 → |x * 10 ^ p| < |(k : ℚ)|) : Rounds x p q := by
  have hp := ten_pow_pos p
  refine ⟨⟨k, hq⟩, hplaces, ?near, fun n h => ?tie⟩
  case near =>
    rw [hq, abs_sub_eq, ← mul_one_div]
    exact mul_le_mul_of_nonneg_right hnear (one_div_pos.2 hp).le
  case tie =>
    rw [hq, abs_sub_eq, abs_sub_eq, div_left_inj' hp.ne'] at h
    rw [hq, abs_div, abs_div]
    exact div_le_div_of_nonneg_right (abs_le_of_tie hnear htie h) (abs_nonneg _)

/-- **A rational is rounded to one decimal.** -/
theorem unique (hq : Rounds x p q) (hr : Rounds x p r) : q = r := by
  obtain ⟨m, hm⟩ := hq.multiple
  obtain ⟨n, hn⟩ := hr.multiple
  have hp := ten_pow_pos p
  have hnearq := hq.near
  have hnearr := hr.near
  have htieq := hq.tie n
  have htier := hr.tie m
  rw [hm, abs_sub_eq, ← mul_one_div, mul_le_mul_iff_left₀ (one_div_pos.2 hp)] at hnearq
  rw [hn, abs_sub_eq, ← mul_one_div, mul_le_mul_iff_left₀ (one_div_pos.2 hp)] at hnearr
  simp only [hm, hn, abs_sub_eq, abs_div, div_left_inj' hp.ne', div_le_div_iff_of_pos_right (abs_pos.2 hp.ne')]
    at htieq htier
  rw [← toRat_inj, hm, hn, eq_of_near hnearq hnearr htieq htier]

end Rounds

/-- A decimal with few enough places is rounded to itself. -/
theorem rounds_self {a : Decimal} {p : Nat} (h : a.scale ≤ p) : Rounds a.toRat p a := by
  have hshift := fraction_shift a.mantissa a.scale (p - a.scale)
  rw [Nat.add_sub_cancel' h] at hshift
  have hp := ten_pow_pos p
  have hzero : |((a.mantissa * tenPow (p - a.scale) : Int) : ℚ) - a.toRat * 10 ^ p| = 0 := by
    rw [abs_eq_zero, sub_eq_zero, ← div_eq_iff hp.ne']
    exact hshift
  refine .of_near hshift.symm h ?_ fun htie => ?_
  · rw [hzero]
    norm_num
  · rw [hzero] at htie
    norm_num at htie

/-! ## Division -/

variable {a b : Decimal} {p : Nat}

theorem mantissa_ne_zero (hb : b ≠ 0) : b.mantissa ≠ 0 := by
  intro h
  refine hb (toRat_inj.1 ?_)
  rw [toRat, h, fraction_zero_left]
  exact (toRat_ofInt 0).symm

/-- The quotient of two decimals, `p` places further left, as a quotient of whole numbers. -/
theorem toRat_div_mul (a : Decimal) (hb : b ≠ 0) (p : Nat) : a.toRat / b.toRat * 10 ^ p =
    ((a.mantissa * tenPow (b.scale + p) : Int) : ℚ) / ((b.mantissa * tenPow a.scale : Int) : ℚ) := by
  have hb' : (b.mantissa : ℚ) ≠ 0 := Int.cast_ne_zero.2 (mantissa_ne_zero hb)
  have hten (n : Nat) : ((tenPow n : Int) : ℚ) = 10 ^ n := by simp [tenPow]
  simp only [toRat, fraction, Int.cast_mul, hten, pow_add]
  field_simp

theorem divide_of_ne_zero (a : Decimal) (hb : b ≠ 0) (hp : b.scale + p < 2 ^ 32) : divide a b p =
    .ok (ofScaled (roundDiv (a.mantissa * tenPow (b.scale + p)) (b.mantissa * tenPow a.scale)) p) := by
  rw [divide, isZero, if_neg (by simpa using mantissa_ne_zero hb), addScales_of_lt hp]
  rfl

theorem exists_rounded (a : Decimal) (hb : b ≠ 0) (hp : b.scale + p < 2 ^ 32) :
    ∃ q, divide a b p = .ok q ∧ Rounds (a.toRat / b.toRat) p q := by
  have hd : b.mantissa * tenPow a.scale ≠ 0 :=
    mul_ne_zero (mantissa_ne_zero hb) (Int.natCast_ne_zero.2 (Nat.pow_pos (by decide)).ne')
  refine ⟨_, divide_of_ne_zero a hb hp, .of_near (toRat_ofScaled _ p) (scale_ofScaled_le _ p) ?_ ?_⟩
  · rw [toRat_div_mul a hb]
    exact roundDiv_near _ hd
  · rw [toRat_div_mul a hb]
    exact lt_roundDiv_of_tie hd

/-- **Division is correctly rounded.** For a divisor that is not zero there is a quotient, and at `p` places it is the
multiple of `10 ^ -p` nearest to the exact quotient, at the same distance from two of them the one farther from zero.
So division by a factor takes it off a product whose other factor has no more than `p` places. Division by zero fails. -/
theorem divide_rounded (a b : Decimal) (p : Nat) :
    (b ≠ 0 → b.scale + p < 2 ^ 32 →
      (∃ q, divide a b p = .ok q ∧ Rounds (a.toRat / b.toRat) p q) ∧
        (a.scale ≤ p → ∃ c, mul a b = .ok c ∧ divide c b p = .ok a)) ∧
    (b = 0 → divide a b p = .error .divisionByZero) := by
  refine ⟨fun hb hp => ⟨exists_rounded a hb hp, fun ha => ?_⟩, ?_⟩
  · obtain ⟨c, hc, -, hproduct⟩ := toRat_mul (a := a) (b := b) (by omega)
    obtain ⟨q, hq, hr⟩ := exists_rounded c hb hp
    have hb' : b.toRat ≠ 0 := fun h => hb (toRat_inj.1 (h.trans (toRat_ofInt 0).symm))
    rw [hproduct, mul_div_cancel_right₀ _ hb'] at hr
    exact ⟨c, hc, by rw [hq, hr.unique (rounds_self ha)]⟩
  · rintro rfl
    rfl

/-- A quotient halfway between two multiples is rounded away from zero: `-1 / 8` at two places. -/
theorem divide_rounded_tie : ((8 : Decimal) ≠ 0 ∧ (8 : Decimal).scale + 2 < 2 ^ 32 ∧ (-1 : Decimal).scale ≤ 2) ∧
    (divide (-1) 8 2 = .ok (ofScaled (-13) 2) ∧
      Rounds ((-1 : Decimal).toRat / (8 : Decimal).toRat) 2 (ofScaled (-13) 2)) ∧
    (∃ c, mul (-1) 8 = .ok c ∧ divide c 8 2 = .ok (-1)) ∧ divide (-1) 0 2 = .error .divisionByZero := by
  obtain ⟨⟨q, hq, hr⟩, hproduct⟩ := (divide_rounded (-1) 8 2).1 (by decide) (by decide)
  have hrun : divide (-1) 8 2 = .ok (ofScaled (-13) 2) := divide_of_ne_zero (-1) (by decide) (by decide)
  rw [hrun, Except.ok.injEq] at hq
  exact ⟨by decide, ⟨hrun, hq ▸ hr⟩, hproduct (by decide), (divide_rounded (-1) 0 2).2 rfl⟩

end RuleExpr.Decimal
