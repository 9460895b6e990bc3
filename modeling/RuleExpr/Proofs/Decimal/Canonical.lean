import RuleExpr.Proofs.Decimal.Rational

/-!
# The text of a decimal is canonical

The digits of a magnitude start with a zero only where they were padded, or the number is zero (`head?_padded`), and
they end in the last digit of the mantissa (`getLast?_padded`), which in normal form is a zero only where nothing stands
after the point. So of all ways to write a number, `render` writes the one without a superfluous zero at either end
(`Canonical`).

The sign, the whole part and the places after the point are read off the text, and they determine the decimal. **Two
decimals with one text are equal, and the text reads back as the decimal** (`render_canonical`).
-/

namespace RuleExpr.Decimal

open RuleExpr.Text

/-! ## The first and the last digit -/

theorem digitChar_ne_zero {d : Nat} (h0 : d ≠ 0) (h : d < 10) : d.digitChar ≠ '0' := by
  intro he
  have hd := Nat.toNat_digitChar_of_lt_ten h
  rw [he] at hd
  exact h0 (Nat.add_left_cancel (hd.symm : 48 + d = 48 + 0))

/-- By induction on the number without its last digit. -/
theorem head?_digits {n : Nat} (h : n ≠ 0) : (digits n).head? ≠ some '0' := by
  induction n using Nat.strongRecOn with
  | ind n ih =>
    rw [digits]
    rcases Nat.lt_or_ge n 10 with hn | hn
    · rw [Nat.toDigits_of_lt_base hn, List.head?_cons]
      exact fun he => digitChar_ne_zero h hn (Option.some.inj he)
    · rw [Nat.toDigits_of_base_le (by decide) hn, List.head?_append_of_ne_nil _ Nat.toDigits_ne_nil]
      exact ih (n / 10) (by omega) (by omega)

theorem getLast?_digits (n : Nat) : (digits n).getLast? = some (n % 10).digitChar := by
  rw [digits, Nat.toDigits_eq_if (by decide)]
  split
  · next h => rw [Nat.mod_eq_of_lt h, List.getLast?_singleton]
  · rw [List.getLast?_concat]

theorem length_padded (width : Nat) (ds : List Char) : (padded width ds).length = max width ds.length := by
  rw [padded, List.length_append, List.length_replicate]
  omega

theorem getLast?_padded (width n : Nat) : (padded width (digits n)).getLast? = some (n % 10).digitChar := by
  rw [padded, List.getLast?_append, getLast?_digits, Option.some_or]

/-- With one digit more than places, a zero stands in front exactly when the number is below one. -/
theorem head?_padded {n scale : Nat} : (padded (scale + 1) (digits n)).head? = some '0' ↔ n < 10 ^ scale := by
  constructor
  · intro h
    by_contra hn
    have hn0 : n ≠ 0 := fun h0 => hn (h0 ▸ Nat.pow_pos (by decide))
    have hlen : scale + 1 ≤ (digits n).length := by
      by_contra hle
      rcases Nat.eq_zero_or_pos scale with rfl | hs
      · exact hle (Nat.length_toDigits_pos)
      · exact hn ((Nat.length_toDigits_le_iff (by decide) hs).1 (Nat.le_of_lt_succ (Nat.lt_of_not_le hle)))
    rw [padded, Nat.sub_eq_zero_of_le hlen, List.replicate_zero, List.nil_append] at h
    exact head?_digits hn0 h
  · intro hn
    rcases Nat.eq_zero_or_pos scale with rfl | hs
    · rw [Nat.lt_one_iff.1 hn]
      rfl
    · have hlen : (digits n).length ≤ scale := (Nat.length_toDigits_le_iff (by decide) hs).2 hn
      rw [padded, Nat.succ_sub hlen]
      rfl

/-! ## The parts of a text -/

/-- A point and the places after it, if there are any. -/
def point (fraction : List Char) : List Char := if fraction.isEmpty then [] else '.' :: fraction

/-- The parts of the text of a magnitude: its padded digits, cut before the places after the point. -/
theorem renderMagnitude_parts (n scale : Nat) : ∃ whole fraction,
    renderMagnitude n scale = whole ++ point fraction ∧ whole ≠ [] ∧ fraction.length = scale ∧
      whole ++ fraction = padded (scale + 1) (digits n) := by
  by_cases hs : scale = 0
  · subst hs
    refine ⟨digits n, [], ?_, Nat.toDigits_ne_nil, rfl, ?_⟩
    · rw [renderMagnitude, if_pos rfl]
      exact (List.append_nil _).symm
    · have hlen : 0 + 1 ≤ (digits n).length := Nat.length_toDigits_pos
      rw [padded, Nat.sub_eq_zero_of_le hlen, List.append_nil]
      rfl
  · obtain ⟨whole, fraction, he, hw, hl, hp⟩ := renderMagnitude_of_pos n hs
    have hne : fraction ≠ [] := fun h => hs (by rw [← hl, h, List.length_nil])
    refine ⟨whole, fraction, ?_, hw, hl, hp⟩
    rw [he, point, List.isEmpty_eq_false_iff.2 hne]
    rfl

/-- The parts are read off the text. -/
theorem cutAt_point {whole fraction : List Char} (h : ∀ c ∈ whole, c.isDigit = true) :
    cutAt (· == '.') (whole ++ point fraction) = (whole, if fraction.isEmpty then none else some fraction) := by
  have hp : ∀ c ∈ whole, (c == '.') = false := fun c hc => beq_false_of_isDigit (h c hc) rfl
  rw [point]
  split
  · rw [List.append_nil, cutAt_of_forall hp]
  · rw [cutAt_append hp (beq_self_eq_true '.')]

/-- The text of a magnitude determines the digits and the scale. -/
theorem renderMagnitude_inj {n m s t : Nat} (h : renderMagnitude n s = renderMagnitude m t) : n = m ∧ s = t := by
  obtain ⟨whole, fraction, he, -, hl, hp⟩ := renderMagnitude_parts n s
  obtain ⟨whole', fraction', he', -, hl', hp'⟩ := renderMagnitude_parts m t
  have hd : ∀ c ∈ whole, c.isDigit = true := fun c hc => isDigit_of_mem_padded (hp ▸ List.mem_append_left _ hc)
  have hd' : ∀ c ∈ whole', c.isDigit = true := fun c hc => isDigit_of_mem_padded (hp' ▸ List.mem_append_left _ hc)
  have hcut := congrArg (cutAt (· == '.')) (he ▸ he' ▸ h)
  rw [cutAt_point hd, cutAt_point hd', Prod.mk.injEq] at hcut
  obtain ⟨hw, hf⟩ := hcut
  have hfraction : fraction = fraction' := by
    cases fraction <;> cases fraction' <;> simp_all
  subst hw hfraction
  refine ⟨?_, hl.symm.trans hl'⟩
  rw [← digitsValue_padded (s + 1) n, ← hp, hp', digitsValue_padded]

/-! ## Canonical texts -/

section Magnitude

variable {a b : Decimal}

theorem toRat_neg_iff : a.toRat < 0 ↔ a.mantissa < 0 := by
  rw [toRat, ← fraction_zero_left a.scale, fraction_lt]

theorem abs_toRat_lt_one_iff : |a.toRat| < 1 ↔ a.mantissa.natAbs < 10 ^ a.scale := by
  rw [toRat, ← fraction_abs, fraction, div_lt_one (ten_pow_pos _)]
  exact_mod_cast Iff.rfl

/-- In normal form no zero stands at the end of the places after the point. -/
theorem natAbs_mod_ten (h : a.scale ≠ 0) : a.mantissa.natAbs % 10 ≠ 0 := by
  have := a.normal.resolve_left h
  omega

theorem render_inj : a.render = b.render ↔ a = b := by
  refine ⟨fun h => ?_, congrArg render⟩
  have hparts := congrArg (fun t : String => readSigned t.toList) h
  rw [readSigned_render, readSigned_render, Prod.mk.injEq, decide_eq_decide] at hparts
  obtain ⟨hsign, hmagnitude⟩ := hparts
  obtain ⟨habs, hscale⟩ := renderMagnitude_inj hmagnitude
  obtain ⟨m, s, hm⟩ := a
  obtain ⟨n, t, hn⟩ := b
  obtain rfl : m = n := by
    simp only at hsign habs
    omega
  cases hscale
  rfl

end Magnitude

/-- The parts of the canonical text of a decimal: a sign for a number below zero, a whole part without superfluous zeros
in front, which is a single zero for a number below one in magnitude, and as many places after the point as the scale
says, without a zero at the end. -/
structure Canonical (a : Decimal) (negative : Bool) (whole fraction : List Char) : Prop where
  digits : ∀ c ∈ whole ++ fraction, c.isDigit = true
  value : digitsValue (whole ++ fraction) = a.mantissa.natAbs
  sign : negative = true ↔ a.toRat < 0
  nonempty : whole ≠ []
  leading : whole.head? = some '0' → whole = ['0']
  belowOne : whole = ['0'] ↔ |a.toRat| < 1
  places : fraction.length = a.scale
  trailing : fraction.getLast? ≠ some '0'

theorem exists_canonical (a : Decimal) : ∃ negative whole fraction, Canonical a negative whole fraction ∧
    a.render.toList = (if negative then ['-'] else []) ++ whole ++ point fraction := by
  obtain ⟨whole, fraction, he, hw, hl, hp⟩ := renderMagnitude_parts a.mantissa.natAbs a.scale
  have hhead : whole.head? = some '0' ↔ a.mantissa.natAbs < 10 ^ a.scale := by
    rw [← head?_padded, ← hp, List.head?_append_of_ne_nil _ hw]
  -- Padding goes up to one digit in front of the point, and no number below one has more.
  have hsingle : a.mantissa.natAbs < 10 ^ a.scale → whole = ['0'] := fun hn => by
    have hdigits : (digits a.mantissa.natAbs).length ≤ a.scale + 1 :=
      (Nat.length_toDigits_le_iff (by decide) (Nat.succ_pos _)).2
        (Nat.lt_of_lt_of_le hn (Nat.pow_le_pow_right (by decide) (Nat.le_succ _)))
    have hlen := congrArg List.length hp
    rw [List.length_append, length_padded, hl] at hlen
    obtain ⟨c, rfl⟩ := List.length_eq_one_iff.1 (by omega : whole.length = 1)
    rw [Option.some.inj (hhead.2 hn)]
  refine ⟨decide (a.mantissa < 0), whole, fraction, ?_, ?_⟩
  · constructor
    case digits => exact fun c hc => isDigit_of_mem_padded (hp ▸ hc)
    case value => rw [hp, digitsValue_padded]
    case sign => rw [decide_eq_true_eq, toRat_neg_iff]
    case nonempty => exact hw
    case leading => exact fun h => hsingle (hhead.1 h)
    case belowOne =>
      rw [abs_toRat_lt_one_iff]
      exact ⟨fun h => hhead.1 (by rw [h, List.head?_cons]), hsingle⟩
    case places => exact hl
    case trailing =>
      intro hlast
      have hs : a.scale ≠ 0 := fun h0 => by
        rw [List.length_eq_zero_iff.1 (hl.trans h0)] at hlast
        cases hlast
      have hend := congrArg List.getLast? hp
      rw [List.getLast?_append, hlast, Option.some_or, getLast?_padded] at hend
      exact digitChar_ne_zero (natAbs_mod_ten hs) (Nat.mod_lt _ (by decide)) (Option.some.inj hend).symm
  · rw [render, String.toList_ofList, he, List.append_assoc]
    simp only [decide_eq_true_eq]

/-- **The text of a decimal is canonical and faithful.** It is laid out without superfluous zeros and without a sign on
zero, it reads back as the decimal, and no other decimal has it. A scale is a word of 32 bits. -/
theorem render_canonical (a b : Decimal) :
    (a.scale < 2 ^ 32 → parse a.render = .ok a) ∧
      (∃ negative whole fraction, Canonical a negative whole fraction ∧
        a.render.toList = (if negative then ['-'] else []) ++ whole ++ point fraction) ∧
      (a.toRat = 0 ↔ a.render = "0") ∧ (a.render = b.render ↔ a = b) := by
  have hzero : (0 : Decimal).render = "0" := by decide
  have hzero' : (0 : Decimal).toRat = 0 := toRat_ofInt 0
  refine ⟨parse_render, exists_canonical a, ?_, render_inj⟩
  rw [← hzero, render_inj, ← hzero', toRat_inj]

/-- A negative fraction with a zero after the point. -/
theorem render_canonical_fraction :
    (ofScaled (-5) 2).scale < 2 ^ 32 ∧ parse "-0.05" = .ok (ofScaled (-5) 2) := by
  have hscale : (ofScaled (-5) 2).scale < 2 ^ 32 := by decide
  have htext : (ofScaled (-5) 2).render = "-0.05" := by decide
  exact ⟨hscale, htext ▸ (render_canonical (ofScaled (-5) 2) 0).1 hscale⟩

end RuleExpr.Decimal
