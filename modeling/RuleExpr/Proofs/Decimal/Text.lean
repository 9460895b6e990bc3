import RuleExpr.Decimal.Render
import RuleExpr.Proofs.Decimal.Word
import RuleExpr.Proofs.Except
import RuleExpr.Proofs.Text
import Mathlib.Algebra.Ring.Nat

/-!
# The text of a decimal reads back

The digits that `render` writes have the value of the mantissa, the point stands before the last `scale` of them, and a
decimal in normal form is the one that its mantissa and scale give (`ofScaled_self`). So reading the text of a decimal
gives the decimal (`ofChars?_render`).

The reader keeps the places after the point in a word of 32 bits. No decimal that it gives has more places than such a
word counts (`scale_lt_of_ofChars?`), and a text with fewer reads back exactly.
-/

namespace RuleExpr.Text

/-! ## Digits -/

theorem digitsValue_eq (cs : List Char) : digitsValue cs = Nat.ofDigitChars 10 cs 0 := by
  simp only [digitsValue, Nat.ofDigitChars_eq_foldl, Nat.mul_comm]

/-- Zeros in front do not count. -/
theorem digitsValue_padded (width n : Nat) : digitsValue (Decimal.padded width (Decimal.digits n)) = n := by
  rw [digitsValue_eq, Decimal.padded, Nat.ofDigitChars_append, Nat.ofDigitChars_replicate_zero]
  simp [Decimal.digits]

theorem digitsValue_digits (n : Nat) : digitsValue (Decimal.digits n) = n := by
  rw [digitsValue_eq, Decimal.digits, Nat.ofDigitChars_ten_toDigits]

theorem isDigit_of_mem_padded {width n : Nat} {c : Char} (h : c ∈ Decimal.padded width (Decimal.digits n)) :
    c.isDigit = true := by
  rcases List.mem_append.1 h with h | h
  · rw [(List.mem_replicate.1 h).2]; rfl
  · exact Nat.isDigit_of_mem_toDigits (by decide) (by decide) h

/-- The value of digits is below the power of ten with their number. -/
theorem digitsValue_lt : ∀ {cs : List Char}, (∀ c ∈ cs, c.isDigit = true) → digitsValue cs < 10 ^ cs.length
  | [], _ => by decide
  | c :: cs, h => by
    have ih := digitsValue_lt fun d hd => h d (List.mem_cons_of_mem _ hd)
    have hc : c.toNat - '0'.toNat < 10 := by
      have hd := h c List.mem_cons_self
      simp only [Char.isDigit, Bool.and_eq_true, decide_eq_true_eq] at hd
      have : c.toNat ≤ 57 := hd.2
      show c.toNat - 48 < 10
      omega
    rw [digitsValue_eq] at ih ⊢
    rw [Nat.ofDigitChars_cons, Nat.ofDigitChars_eq_ofDigitChars_zero, List.length_cons, Nat.pow_succ]
    calc 10 ^ cs.length * (10 * 0 + (c.toNat - '0'.toNat)) + Nat.ofDigitChars 10 cs 0
        < 10 ^ cs.length * (10 * 0 + (c.toNat - '0'.toNat)) + 10 ^ cs.length := Nat.add_lt_add_left ih _
      _ = 10 ^ cs.length * (c.toNat - '0'.toNat + 1) := by rw [Nat.mul_zero, Nat.zero_add, Nat.mul_add, Nat.mul_one]
      _ ≤ 10 ^ cs.length * 10 := Nat.mul_le_mul_left _ hc

end RuleExpr.Text

namespace RuleExpr.Decimal

open RuleExpr.Text

/-! ## The normal form -/

/-- Stripping leaves a mantissa in normal form as it is. -/
theorem strip_of_normal {m : Int} : ∀ {s : Nat}, s = 0 ∨ m % 10 ≠ 0 → strip m s = (m, s)
  | 0, _ => rfl
  | s + 1, h => by
    have hm : m % 10 ≠ 0 := h.resolve_left (Nat.succ_ne_zero s)
    rw [strip, if_neg hm]

/-- A decimal is the number that its mantissa and scale give. -/
theorem ofScaled_self (a : Decimal) : ofScaled a.mantissa a.scale = a := by
  obtain ⟨m, s, h⟩ := a
  by_cases hm : m = 0
  · subst hm
    have hs : s = 0 := h.resolve_right (by decide)
    subst hs
    rfl
  · simp only [ofScaled, if_neg hm, strip_of_normal h]

theorem strip_scale_le (m : Int) : ∀ s, (strip m s).2 ≤ s
  | 0 => Nat.le_refl 0
  | s + 1 => by
    rw [strip]
    split
    · exact Nat.le_trans (strip_scale_le _ s) (Nat.le_succ s)
    · exact Nat.le_refl _

theorem scale_ofScaled_le (m : Int) (s : Nat) : (ofScaled m s).scale ≤ s := by
  unfold ofScaled
  split
  · exact Nat.zero_le s
  · exact strip_scale_le m s

/-! ## The words of a decimal -/

section

variable {places : Nat} {e : Int}

theorem ofExponent_of_nonneg (m : Int) (h : 0 ≤ places - e) (h' : places - e < 2 ^ 63) :
    ofExponent m places e = .ok (ofScaled m (cut (places - e))) := by
  rw [ofExponent, IntegerType.fit_of_holds (holds_long_iff.2 ⟨by omega, h'⟩)]
  exact if_pos h

theorem ofExponent_of_neg (m : Int) (h : places - e < 0) (h' : -2 ^ 63 < places - e) :
    ofExponent m places e = .ok (ofInt (m * tenPow (cut (-(places - e))))) := by
  rw [ofExponent, IntegerType.fit_of_holds (holds_long_iff.2 ⟨by omega, by omega⟩)]
  refine (if_neg (by omega)).trans ?_
  rw [IntegerType.fit_of_holds (holds_long_iff.2 ⟨by omega, by omega⟩)]
  rfl

/-- Without a written exponent, fewer places than a word of 32 bits counts are the scale. -/
theorem ofExponent_zero (m : Int) (h : places < 2 ^ 32) : ofExponent m places 0 = .ok (ofScaled m places) := by
  have hscale : cut ((places : Int) - 0) = places := by
    rw [cut_of_lt (by omega) (by omega)]
    omega
  rw [ofExponent_of_nonneg m (by omega) (by omega), hscale]

end

section

variable {negative : Bool} {number cs : List Char} {e : Int} {a : Decimal}

/-- The scale is a word of 32 bits, whatever is written. -/
theorem scale_ofExponent_lt {m : Int} {places : Nat} (h : ofExponent m places e = .ok a) : a.scale < 2 ^ 32 := by
  obtain ⟨scale, -, h⟩ := bind_eq_ok h
  split at h
  · cases h
    exact Nat.lt_of_le_of_lt (scale_ofScaled_le _ _) (cut_lt scale)
  · obtain ⟨power, -, h⟩ := bind_eq_ok h
    cases h
    show 0 < 2 ^ 32
    decide

theorem scale_lt_of_ofDigits? (h : ofDigits? negative number e = .ok (some a)) : a.scale < 2 ^ 32 := by
  simp only [ofDigits?] at h
  split at h
  · cases h
  · obtain ⟨b, hb, he⟩ := map_eq_ok h
    cases he
    exact scale_ofExponent_lt hb

/-- With an exponent, the digits are read if it is a word with a magnitude that is small enough. -/
theorem ofDigits?_of_ofChars? {word : List Char} (hcut : cutAt (fun c => c == 'e' || c == 'E') (readSigned cs).2 =
    (number, some word)) (h : ofChars? cs = .ok (some a)) :
    ∃ e, readWord? word = some e ∧ ofDigits? (readSigned cs).1 number e = .ok (some a) := by
  simp only [ofChars?, hcut] at h
  cases hword : readWord? word with
  | none =>
    rw [hword] at h
    cases h
  | some e =>
    rw [hword] at h
    obtain ⟨size, -, h⟩ := bind_eq_ok h
    split at h
    · cases h
    · exact ⟨e, rfl, h⟩

theorem ofDigits?_of_ofChars?_of_none (hcut : cutAt (fun c => c == 'e' || c == 'E') (readSigned cs).2 = (number, none)) :
    ofChars? cs = ofDigits? (readSigned cs).1 number 0 := by
  simp only [ofChars?, hcut]

/-- The scale of a decimal that is read fits in a word of 32 bits. -/
theorem scale_lt_of_ofChars? (h : ofChars? cs = .ok (some a)) : a.scale < 2 ^ 32 := by
  rcases hcut : cutAt (fun c => c == 'e' || c == 'E') (readSigned cs).2 with ⟨number, _ | word⟩
  · exact scale_lt_of_ofDigits? (ofDigits?_of_ofChars?_of_none hcut ▸ h)
  · obtain ⟨e, -, h⟩ := ofDigits?_of_ofChars? hcut h
    exact scale_lt_of_ofDigits? h

theorem scale_lt_of_parse {text : String} (h : parse text = .ok a) : a.scale < 2 ^ 32 := by
  obtain ⟨r, hr, h⟩ := bind_eq_ok h
  cases r with
  | none => cases h
  | some b =>
    cases h
    exact scale_lt_of_ofChars? hr

end

/-! ## The layout of a magnitude -/

theorem isDigit_of_mem_digits {n : Nat} {c : Char} (h : c ∈ digits n) : c.isDigit = true :=
  Nat.isDigit_of_mem_toDigits (by decide) (by decide) h

/-- A digit is none of the characters that are no digits. -/
theorem beq_false_of_isDigit {c d : Char} (h : c.isDigit = true) (hd : d.isDigit = false) : (c == d) = false := by
  rw [beq_eq_false_iff_ne]
  rintro rfl
  rw [h] at hd
  cases hd

/-- With places after the point, the digits are those of the padded mantissa, and at least one stands in front. -/
theorem renderMagnitude_of_pos (n : Nat) {scale : Nat} (h : scale ≠ 0) : ∃ whole fraction,
    renderMagnitude n scale = whole ++ '.' :: fraction ∧ whole ≠ [] ∧ fraction.length = scale ∧
      whole ++ fraction = padded (scale + 1) (digits n) := by
  have hlen : scale + 1 ≤ (padded (scale + 1) (digits n)).length := by
    simp only [padded, List.length_append, List.length_replicate]
    omega
  refine ⟨_, _, by rw [renderMagnitude, if_neg h], ?_, ?_, List.take_append_drop _ _⟩
  · intro hnil
    have := congrArg List.length hnil
    simp only [List.length_take, List.length_nil] at this
    omega
  · rw [List.length_drop]
    omega

/-- A magnitude is written with digits and a point. -/
theorem mem_renderMagnitude {n scale : Nat} {c : Char} (h : c ∈ renderMagnitude n scale) :
    c.isDigit = true ∨ c = '.' := by
  by_cases hs : scale = 0
  · rw [renderMagnitude, if_pos hs] at h
    exact .inl (isDigit_of_mem_digits h)
  · obtain ⟨whole, fraction, he, -, -, hp⟩ := renderMagnitude_of_pos n hs
    have hmem : c ∈ whole ++ fraction → c.isDigit = true := fun hc => isDigit_of_mem_padded (hp ▸ hc)
    rw [he, List.mem_append, List.mem_cons] at h
    rcases h with h | rfl | h
    · exact .inl (hmem (List.mem_append_left _ h))
    · exact .inr rfl
    · exact .inl (hmem (List.mem_append_right _ h))

/-- A magnitude is written without an exponent. -/
theorem not_exponentMark_of_mem {n scale : Nat} : ∀ c ∈ renderMagnitude n scale, (c == 'e' || c == 'E') = false :=
  fun c hc => by
    rcases mem_renderMagnitude hc with hd | rfl
    · rw [beq_false_of_isDigit hd rfl, beq_false_of_isDigit hd rfl, Bool.or_self]
    · rfl

/-- The first character of a magnitude is a digit. -/
theorem renderMagnitude_eq_cons (n scale : Nat) : ∃ c cs, renderMagnitude n scale = c :: cs ∧ c.isDigit = true := by
  by_cases hs : scale = 0
  · obtain ⟨c, cs, hc⟩ := List.exists_cons_of_ne_nil (l := digits n) Nat.toDigits_ne_nil
    exact ⟨c, cs, by rw [renderMagnitude, if_pos hs, hc], isDigit_of_mem_digits (n := n) (hc ▸ List.mem_cons_self)⟩
  · obtain ⟨whole, fraction, he, hw, -, hp⟩ := renderMagnitude_of_pos n hs
    obtain ⟨c, cs, rfl⟩ := List.exists_cons_of_ne_nil hw
    have hc : c ∈ padded (scale + 1) (digits n) := by rw [← hp]; exact List.mem_cons_self
    exact ⟨c, _, by rw [he, List.cons_append], isDigit_of_mem_padded hc⟩

/-! ## Reading what was written -/

section Reading

variable {negative : Bool} {n scale : Nat}

theorem ofDigits?_digits :
    ofDigits? negative (digits n) 0 = .ok (some (ofScaled (if negative then -n else n) 0)) := by
  have hp : ∀ c ∈ digits n, (c == '.') = false := fun c hc => beq_false_of_isDigit (isDigit_of_mem_digits hc) rfl
  have hne : (digits n).isEmpty = false := by simp [digits, Nat.toDigits_ne_nil]
  have hall : (digits n).all Char.isDigit = true := List.all_eq_true.2 fun _ => isDigit_of_mem_digits
  simp only [ofDigits?, cutAt_of_forall hp, Option.getD_none, List.append_nil, hne, hall, digitsValue_digits,
    List.length_nil, Bool.false_and, Bool.not_true, Bool.or_self, Bool.false_eq_true, if_false]
  rw [ofExponent_zero _ (by decide)]
  rfl

theorem ofDigits?_point {whole fraction : List Char} (hw : whole ≠ [])
    (hd : ∀ c ∈ whole ++ fraction, c.isDigit = true) (hl : fraction.length < 2 ^ 32) :
    ofDigits? negative (whole ++ '.' :: fraction) 0 =
      .ok (some (ofScaled
        (if negative then -(digitsValue (whole ++ fraction) : Int) else digitsValue (whole ++ fraction))
        fraction.length)) := by
  have hp : ∀ c ∈ whole, (c == '.') = false := fun c hc => beq_false_of_isDigit (hd c (List.mem_append_left _ hc)) rfl
  have hne : whole.isEmpty = false := by simp [hw]
  have hall : (whole ++ fraction).all Char.isDigit = true := List.all_eq_true.2 hd
  simp only [ofDigits?, cutAt_append hp (beq_self_eq_true '.'), Option.getD_some, hne, hall, Bool.false_and,
    Bool.not_true, Bool.or_self, Bool.false_eq_true, if_false]
  rw [ofExponent_zero _ hl]
  rfl

/-- The digits of a magnitude read back as the number with that scale. -/
theorem ofDigits?_renderMagnitude (h : scale < 2 ^ 32) :
    ofDigits? negative (renderMagnitude n scale) 0 = .ok (some (ofScaled (if negative then -n else n) scale)) := by
  by_cases hs : scale = 0
  · rw [renderMagnitude, if_pos hs, ofDigits?_digits, hs]
  · obtain ⟨whole, fraction, he, hw, hl, hp⟩ := renderMagnitude_of_pos n hs
    have hd : ∀ c ∈ whole ++ fraction, c.isDigit = true := fun c hc => isDigit_of_mem_padded (hp ▸ hc)
    rw [he, ofDigits?_point hw hd (hl ▸ h), hp, hl, digitsValue_padded]

/-- A sign in front of a magnitude is read as one, and none is read where there is none. -/
theorem readSigned_render (a : Decimal) :
    readSigned a.render.toList = (decide (a.mantissa < 0), renderMagnitude a.mantissa.natAbs a.scale) := by
  rw [render, String.toList_ofList]
  by_cases hm : a.mantissa < 0
  · simp only [hm, decide_true]
    rfl
  · obtain ⟨c, cs, he, hc⟩ := renderMagnitude_eq_cons a.mantissa.natAbs a.scale
    simp only [hm, decide_false, he]
    unfold readSigned
    split
    · next h => cases h; cases hc
    · next h => cases h; cases hc
    · rfl

/-- **The text of a decimal reads back.** -/
theorem ofChars?_render {a : Decimal} (h : a.scale < 2 ^ 32) : ofChars? a.render.toList = .ok (some a) := by
  have hm : (if decide (a.mantissa < 0) = true then -(a.mantissa.natAbs : Int) else a.mantissa.natAbs) =
      a.mantissa := by
    simp only [decide_eq_true_eq]
    split <;> omega
  simp only [ofChars?, readSigned_render, cutAt_of_forall not_exponentMark_of_mem, ofDigits?_renderMagnitude h]
  rw [hm, ofScaled_self]

theorem isBlank_of_mem_render {a : Decimal} {c : Char} (h : c ∈ a.render.toList) : isBlank c = false := by
  rw [render, String.toList_ofList, List.mem_append] at h
  rcases h with h | h
  · split at h
    · rw [List.mem_singleton.1 h]
      rfl
    · cases h
  · rcases mem_renderMagnitude h with hd | rfl
    · exact isBlank_of_isDigit hd
    · rfl

theorem parse_render {a : Decimal} (h : a.scale < 2 ^ 32) : parse a.render = .ok a := by
  rw [parse, trim_of_forall fun c => isBlank_of_mem_render, ofChars?_render h]
  rfl

end Reading

end RuleExpr.Decimal
