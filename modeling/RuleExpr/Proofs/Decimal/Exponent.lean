import RuleExpr.Proofs.Decimal.Rational

/-!
# Exponents in words

A written exponent is a word of 64 bits (`word?`) and is worked with as one: its magnitude is compared with
`maxExponent`, the places after the point less the exponent are a second word, and 32 bits of that or of its negative
are a scale or a power of ten. **All these steps have room and are exact for exponents of at most `maxExponent` in
magnitude** (`exact_of_le`), and then the number is its digits times the power of ten (`exists_ofExponent`).
-/

namespace RuleExpr.Decimal

/-- The word with a value, if there is one. -/
def word? (k : Int) : Option Int := if long.Holds k then some k else none

theorem eq_of_word? {k e : Int} (h : word? k = some e) : e = k := by
  unfold word? at h
  split at h
  · exact (Option.some.inj h).symm
  · cases h

/-- What `f` gives with an exponent, if it is a word with a magnitude that is small enough. -/
def withWord (f : Int → Except Fault (Option Decimal)) : Option Int → Except Fault (Option Decimal)
  | none => .ok none
  | some e => do
    let size ← magnitude e
    if size > maxExponent then .ok none else f e

section Words

variable {f : Int → Except Fault (Option Decimal)} {fault : Fault} {k : Int}

theorem withWord_of_le (h : k.natAbs ≤ 10000) : withWord f (word? k) = f k := by
  have hsize : ¬(k.natAbs : Int) > maxExponent := by
    show ¬(k.natAbs : Int) > 10000
    omega
  rw [word?, if_pos (holds_long_iff.2 (by omega)), withWord, magnitude_of_lt (by omega) (by omega)]
  exact if_neg hsize

theorem withWord_least : withWord f (word? (-2 ^ 63)) = .error .overflow := rfl

theorem withWord_of_gt (h : 10000 < k.natAbs) (hk : k ≠ -2 ^ 63) : withWord f (word? k) = .ok none := by
  by_cases hword : long.Holds k
  · have hrange := holds_long_iff.1 hword
    have hsize : (k.natAbs : Int) > maxExponent := by
      show (k.natAbs : Int) > 10000
      omega
    rw [word?, if_pos hword, withWord, magnitude_of_lt (by omega) (by omega)]
    exact if_pos hsize
  · rw [word?, if_neg hword]
    rfl

/-- An overflow comes from the least word, or from the exponents that are accepted. -/
theorem eq_of_withWord (hf : k.natAbs ≤ 10000 → f k ≠ .error fault) (h : withWord f (word? k) = .error fault) :
    fault = .overflow ∧ k = -2 ^ 63 := by
  by_cases hk : k = -2 ^ 63
  · rw [hk, withWord_least] at h
    exact ⟨(Except.error.inj h).symm, hk⟩
  · rcases Nat.lt_or_ge 10000 k.natAbs with hgt | hle
    · rw [withWord_of_gt hgt hk] at h
      cases h
    · rw [withWord_of_le hle] at h
      exact absurd h (hf hle)

end Words

section Scale

variable {places : Nat} {e : Int}

/-- The steps from an exponent to a scale are exact: its magnitude, the places after the point without it, the negative
of that, and what is kept of either in 32 bits. -/
structure Exact (places : Nat) (e : Int) : Prop where
  magnitude : magnitude e = .ok e.natAbs
  difference : long.fit (places - e) = .ok (places - e)
  negative : long.fit (-(places - e)) = .ok (-(places - e))
  conversion : cut (places - e).natAbs = (places - e).natAbs

/-- **With an accepted exponent all words have room.** -/
theorem exact_of_le (hp : places < 2 ^ 31) (he : e.natAbs ≤ 10000) : Exact places e where
  magnitude := magnitude_of_lt (by omega) (by omega)
  difference := IntegerType.fit_of_holds (holds_long_iff.2 (by omega))
  negative := IntegerType.fit_of_holds (holds_long_iff.2 (by omega))
  conversion := cut_of_lt (Int.natCast_nonneg _) (by omega)

/-- **With an accepted exponent, the number is its digits times the power of ten.** -/
theorem exists_ofExponent (m : Int) (hp : places < 2 ^ 31) (he : e.natAbs ≤ 10000) :
    ∃ a, ofExponent m places e = .ok a ∧ a.toRat = m * 10 ^ (e - places) := by
  by_cases h : 0 ≤ places - e
  · obtain ⟨s, hs⟩ := Int.eq_ofNat_of_zero_le h
    have hexponent : e - places = -(s : Int) := by omega
    refine ⟨_, ofExponent_of_nonneg m h (by omega), ?_⟩
    rw [toRat_ofScaled, cut_of_lt h (by omega), hs, hexponent, zpow_neg, zpow_natCast, fraction, div_eq_mul_inv]
    rfl
  · obtain ⟨s, hs⟩ := Int.eq_ofNat_of_zero_le (a := e - places) (by omega)
    have hpower : cut (-(places - e)) = s := by
      rw [cut_of_lt (by omega) (by omega)]
      omega
    refine ⟨_, ofExponent_of_neg m (by omega) (by omega), ?_⟩
    rw [toRat_ofInt, hpower, hs, tenPow]
    simp

end Scale

end RuleExpr.Decimal
