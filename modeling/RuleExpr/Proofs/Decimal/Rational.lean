import RuleExpr.Decimal.Division
import RuleExpr.Proofs.Decimal.Text
import Mathlib.Algebra.Order.Field.Basic
import Mathlib.Algebra.Order.Field.Rat
import Mathlib.Data.Rat.Cast.CharZero
import Mathlib.Order.Compare
import Mathlib.Tactic.FieldSimp
import Mathlib.Tactic.Ring

/-!
# Decimals and the rationals that they denote

A mantissa over a power of ten is a rational, `fraction m s`, and a decimal denotes that of its mantissa and scale
(`toRat`). A rational has at most one mantissa and scale in normal form (`eq_of_fraction_eq`), so a decimal is
determined by what it denotes (`toRat_inj`).

- taking zeros off the mantissa leaves the rational as it is (`fraction_strip`);
- two decimals at one scale are two fractions of it (`exists_aligned`), so sums, differences and the order are those of
  the mantissas there;
- **the operations are exact, and equality and order are those of the rationals** (`exact_arithmetic`).
-/

namespace RuleExpr.Decimal

/-! ## Fractions of a power of ten -/

/-- The rational `m / 10 ^ s`. -/
def fraction (m : Int) (s : Nat) : ℚ := m / 10 ^ s

section Fraction

variable {m n : Int} {s t : Nat}

theorem ten_pow_pos (s : Nat) : (0 : ℚ) < 10 ^ s := pow_pos (by norm_num) s

theorem fraction_zero (m : Int) : fraction m 0 = m := by simp [fraction]

theorem fraction_zero_left (s : Nat) : fraction 0 s = 0 := by simp [fraction]

theorem fraction_add (m n : Int) (s : Nat) : fraction (m + n) s = fraction m s + fraction n s := by
  simp [fraction, add_div]

theorem fraction_sub (m n : Int) (s : Nat) : fraction (m - n) s = fraction m s - fraction n s := by
  simp [fraction, sub_div]

theorem fraction_neg (m : Int) (s : Nat) : fraction (-m) s = -fraction m s := by simp [fraction, neg_div]

theorem fraction_mul (m n : Int) (s t : Nat) : fraction (m * n) (s + t) = fraction m s * fraction n t := by
  simp [fraction, pow_add, div_mul_div_comm]

theorem fraction_abs (m : Int) (s : Nat) : fraction m.natAbs s = |fraction m s| := by
  have hs := ten_pow_pos s
  simp [fraction, abs_div, abs_of_pos hs]

/-- More places hold the same number with as many zeros. -/
theorem fraction_shift (m : Int) (s k : Nat) : fraction (m * tenPow k) (s + k) = fraction m s := by
  have hk := ten_pow_pos k
  have hs := ten_pow_pos s
  have ht : ((tenPow k : Int) : ℚ) = 10 ^ k := by simp [tenPow]
  simp only [fraction, Int.cast_mul, ht, pow_add]
  field_simp

theorem fraction_inj : fraction m s = fraction n s ↔ m = n := by
  have hs := ten_pow_pos s
  rw [fraction, fraction, div_left_inj' hs.ne', Int.cast_inj]

theorem fraction_lt : fraction m s < fraction n s ↔ m < n := by
  rw [fraction, fraction, div_lt_div_iff_of_pos_right (ten_pow_pos s), Int.cast_lt]

/-- At one scale the order is that of the mantissas. -/
theorem compare_fraction (m n : Int) (s : Nat) : Ord.compare (fraction m s) (fraction n s) = Ord.compare m n := by
  rcases lt_trichotomy m n with h | rfl | h
  · rw [compare_lt_iff_lt.2 h, compare_lt_iff_lt.2 (fraction_lt.2 h)]
  · rw [compare_eq_iff_eq.2 rfl, compare_eq_iff_eq.2 rfl]
  · rw [compare_gt_iff_gt.2 h, compare_gt_iff_gt.2 (fraction_lt.2 h)]

/-- Of two mantissas of one rational, that with more places ends in a zero. -/
theorem scale_le_of_fraction_eq (hn : t = 0 ∨ n % 10 ≠ 0) (h : fraction m s = fraction n t) : t ≤ s := by
  by_contra hlt
  obtain ⟨k, rfl⟩ : ∃ k, t = s + (k + 1) := ⟨t - s - 1, by omega⟩
  rw [← fraction_shift m s (k + 1), fraction_inj] at h
  have hten : (tenPow (k + 1) : Int) = tenPow k * 10 := by simp [tenPow, pow_succ]
  have hdvd : n % 10 = 0 := by
    rw [← h, hten, ← mul_assoc]
    exact Int.mul_emod_left _ _
  rcases hn with h0 | h0
  · omega
  · exact h0 hdvd

/-- **The normal form of a rational is unique.** -/
theorem eq_of_fraction_eq (hm : s = 0 ∨ m % 10 ≠ 0) (hn : t = 0 ∨ n % 10 ≠ 0) (h : fraction m s = fraction n t) :
    m = n ∧ s = t := by
  have hst : s = t := Nat.le_antisymm (scale_le_of_fraction_eq hm h.symm) (scale_le_of_fraction_eq hn h)
  subst hst
  exact ⟨fraction_inj.1 h, rfl⟩

/-- By induction on the scale: each zero that is taken off takes a place with it. -/
theorem fraction_strip (m : Int) (s : Nat) : fraction (strip m s).1 (strip m s).2 = fraction m s := by
  induction s generalizing m with
  | zero => rfl
  | succ s ih =>
    rw [strip]
    split
    · next h =>
      obtain ⟨k, rfl⟩ := Int.dvd_of_emod_eq_zero h
      rw [ih, Int.mul_ediv_cancel_left k (by decide), mul_comm, ← fraction_shift k s 1]
      rfl
    · rfl

end Fraction

/-! ## What a decimal denotes -/

/-- The rational that a decimal denotes. -/
def toRat (a : Decimal) : ℚ := fraction a.mantissa a.scale

variable {a b : Decimal}

@[simp] theorem toRat_ofInt (n : Int) : (ofInt n).toRat = n := fraction_zero n

theorem toRat_ofScaled (m : Int) (s : Nat) : (ofScaled m s).toRat = fraction m s := by
  by_cases hm : m = 0
  · subst hm
    rw [fraction_zero_left]
    exact fraction_zero 0
  · rw [ofScaled, if_neg hm]
    exact fraction_strip m s

theorem toRat_inj : a.toRat = b.toRat ↔ a = b := by
  constructor
  · intro h
    obtain ⟨hm, hs⟩ := eq_of_fraction_eq a.normal b.normal h
    cases a
    cases b
    simp_all
  · exact congrArg toRat

/-- Two decimals at one scale. -/
theorem exists_aligned (a b : Decimal) :
    ∃ x y s, aligned a b = (x, y, s) ∧ s = max a.scale b.scale ∧ a.toRat = fraction x s ∧ b.toRat = fraction y s := by
  refine ⟨_, _, _, rfl, rfl, ?_, ?_⟩
  · have hs := fraction_shift a.mantissa a.scale (max a.scale b.scale - a.scale)
    rw [Nat.add_sub_cancel' (Nat.le_max_left _ _)] at hs
    exact hs.symm
  · have hs := fraction_shift b.mantissa b.scale (max a.scale b.scale - b.scale)
    rw [Nat.add_sub_cancel' (Nat.le_max_right _ _)] at hs
    exact hs.symm

@[simp] theorem toRat_add (a b : Decimal) : (a + b).toRat = a.toRat + b.toRat := by
  obtain ⟨x, y, s, he, -, ha, hb⟩ := exists_aligned a b
  show (add a b).toRat = _
  rw [add, he, toRat_ofScaled, fraction_add, ha, hb]

@[simp] theorem toRat_sub (a b : Decimal) : (a - b).toRat = a.toRat - b.toRat := by
  obtain ⟨x, y, s, he, -, ha, hb⟩ := exists_aligned a b
  show (sub a b).toRat = _
  rw [sub, he, toRat_ofScaled, fraction_sub, ha, hb]

/-- The product with as many places as it takes, whether a word counts them or not. -/
def product (a b : Decimal) : Decimal := ofScaled (a.mantissa * b.mantissa) (a.scale + b.scale)

@[simp] theorem toRat_product (a b : Decimal) : (product a b).toRat = a.toRat * b.toRat := by
  rw [product, toRat_ofScaled, fraction_mul]
  rfl

theorem mul_of_lt (h : a.scale + b.scale < 2 ^ 32) : mul a b = .ok (product a b) := by
  rw [mul, addScales_of_lt h]
  rfl

/-- If the scales sum to a word, the product is exact. -/
theorem toRat_mul (h : a.scale + b.scale < 2 ^ 32) :
    ∃ c, mul a b = .ok c ∧ c.scale < 2 ^ 32 ∧ c.toRat = a.toRat * b.toRat :=
  ⟨_, mul_of_lt h, Nat.lt_of_le_of_lt (scale_ofScaled_le _ _) h, toRat_product a b⟩

theorem mul_of_le (h : 2 ^ 32 ≤ a.scale + b.scale) : mul a b = .error .overflow := by
  rw [mul, addScales_of_le h]
  rfl

@[simp] theorem toRat_neg (a : Decimal) : (-a).toRat = -a.toRat := fraction_neg a.mantissa a.scale

@[simp] theorem toRat_abs (a : Decimal) : a.abs.toRat = |a.toRat| := fraction_abs a.mantissa a.scale

theorem compare_eq_compare_toRat (a b : Decimal) : Ord.compare a b = Ord.compare a.toRat b.toRat := by
  obtain ⟨x, y, s, he, -, ha, hb⟩ := exists_aligned a b
  rw [ha, hb, compare_fraction]
  show compare a b = _
  rw [compare, he]

/-! ## Exactness -/

/-- **Decimals are exact rational numbers in a unique form.** The stored mantissa and scale are the only ones in normal
form that give the number; a decimal made of any mantissa and scale denotes their fraction; the operations are those of
the rationals, and so are equality and order. Scales are words of 32 bits, and a product overflows where those of its
factors do not sum to such a word. -/
theorem exact_arithmetic (m : Int) (s : Nat) (a b : Decimal) :
    ((a.scale = 0 ∨ a.mantissa % 10 ≠ 0) ∧
      ∀ (n : Int) (t : Nat), t = 0 ∨ n % 10 ≠ 0 → (n : ℚ) / 10 ^ t = a.toRat → n = a.mantissa ∧ t = a.scale) ∧
    ((ofScaled m s).toRat = m / 10 ^ s ∧ (ofInt m).toRat = m) ∧
    ((a + b).toRat = a.toRat + b.toRat ∧ (a - b).toRat = a.toRat - b.toRat ∧
      (a.scale + b.scale < 2 ^ 32 → ∃ c, mul a b = .ok c ∧ c.scale < 2 ^ 32 ∧ c.toRat = a.toRat * b.toRat) ∧
      (2 ^ 32 ≤ a.scale + b.scale → mul a b = .error .overflow) ∧
      (-a).toRat = -a.toRat ∧ a.abs.toRat = |a.toRat|) ∧
    ((a == b) = true ↔ a.toRat = b.toRat) ∧
    Ord.compare a b = Ord.compare a.toRat b.toRat ∧ (Ord.compare a b = .eq ↔ (a == b) = true) ∧
      (Ord.compare a b ≠ .gt ∨ Ord.compare b a ≠ .gt) := by
  have heq : (a == b) = true ↔ a.toRat = b.toRat := by rw [beq_iff_eq, toRat_inj]
  refine ⟨⟨a.normal, ?unique⟩, ⟨toRat_ofScaled m s, toRat_ofInt m⟩, ⟨toRat_add a b, toRat_sub a b, toRat_mul,
    mul_of_le, toRat_neg a, toRat_abs a⟩, heq, compare_eq_compare_toRat a b, ?equal, ?total⟩
  case unique =>
    intro n t hn h
    exact eq_of_fraction_eq hn a.normal h
  case equal => rw [compare_eq_compare_toRat, compare_eq_iff_eq, heq]
  case total =>
    rw [compare_eq_compare_toRat, compare_eq_compare_toRat, compare_le_iff_le, compare_le_iff_le]
    exact le_total _ _

end RuleExpr.Decimal
