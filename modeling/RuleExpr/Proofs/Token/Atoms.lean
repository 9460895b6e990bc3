import RuleExpr.Token.Render
import RuleExpr.Token.Source
import RuleExpr.Proofs.Time.Rfc3339

/-!
# Atoms and the words that spell them

The text of a decimal, a truth value or a timestamp is one word (`IsWord`), and the word spells the atom
(`infer_decimal`, `infer_time`, `infer_boolean`). For that the three kinds of text have to be told apart: a decimal or a
timestamp begins with none of the letters of `true` and `false`, and a timestamp has a hyphen after its year, where a
decimal has none (`parse?_decimal`).

In the other direction, the decimals and timestamps that words spell are among those whose text reads back
(`infer_cases`). **A word spells no atom exactly if it has the shape of a number and overflows when it is read as one**
(`infer_eq_error_iff`): such a word is no truth value, for want of letters, and no timestamp, for want of colons.
-/

namespace RuleExpr

open RuleExpr.Text

/-! ## Words -/

/-- A word that the reader takes as one bare word. -/
def IsWord (w : String) : Prop := w.toList ≠ [] ∧ ∀ c ∈ w.toList, isWordChar c = true

theorem isWord_iff {w : String} : IsWord w ↔ (!w.toList.isEmpty && w.toList.all isWordChar) = true := by
  simp only [IsWord, Bool.and_eq_true, Bool.not_eq_true', List.isEmpty_eq_false_iff, List.all_eq_true]

instance (w : String) : Decidable (IsWord w) := decidable_of_iff _ isWord_iff.symm

theorem isWord_boolean (b : Bool) : IsWord (if b then "true" else "false") := by
  cases b <;> decide

theorem isWordChar_of_isDigit {c : Char} (h : c.isDigit = true) : isWordChar c = true := by
  have hne : ∀ d : Char, d.isDigit = false → (c == d) = false := fun d hd => Decimal.beq_false_of_isDigit h hd
  simp only [isWordChar, isSeparator, isQuote, hne ' ' rfl, hne '\t' rfl, hne '\n' rfl, hne '\r' rfl, hne '(' rfl,
    hne ')' rfl, hne '"' rfl, hne '\'' rfl, Bool.or_self, Bool.not_false]

namespace Decimal

theorem isWord_render (a : Decimal) : IsWord a.render := by
  rw [IsWord, render, String.toList_ofList]
  obtain ⟨c, cs, he, -⟩ := renderMagnitude_eq_cons a.mantissa.natAbs a.scale
  refine ⟨by simp [he], fun c hc => ?_⟩
  rcases List.mem_append.1 hc with hc | hc
  · split at hc
    · rw [List.mem_singleton.1 hc]
      decide
    · cases hc
  · rcases mem_renderMagnitude hc with hd | rfl
    · exact isWordChar_of_isDigit hd
    · decide

end Decimal

namespace Timestamp

section Words

variable {c : Char}

theorem isWordChar_of_mem_zeroPadded {w n : Nat} (h : c ∈ zeroPadded w n) : isWordChar c = true :=
  isWordChar_of_isDigit (isDigit_of_mem_zeroPadded h)

theorem isWordChar_of_mem_dateText {d : Date} (h : c ∈ dateText d) : isWordChar c = true := by
  simp only [dateText, yearText, List.mem_append, List.mem_cons] at h
  rcases h with (h | rfl | h) | rfl | h
  · split at h
    · exact isWordChar_of_mem_zeroPadded h
    · rcases List.mem_cons.1 h with rfl | h
      · split <;> decide
      · exact isWordChar_of_mem_zeroPadded h
  · decide
  · exact isWordChar_of_mem_zeroPadded h
  · decide
  · exact isWordChar_of_mem_zeroPadded h

theorem isWordChar_of_mem_fractionText {nano : Nat} (h : c ∈ fractionText nano) : isWordChar c = true := by
  have hpoint : ∀ {w n : Nat}, c ∈ '.' :: zeroPadded w n → isWordChar c = true := fun h => by
    rcases List.mem_cons.1 h with rfl | h
    · decide
    · exact isWordChar_of_mem_zeroPadded h
  unfold fractionText at h
  split at h
  · cases h
  · split at h
    · exact hpoint h
    · split at h <;> exact hpoint h

theorem isWordChar_of_mem_clockText {k : Clock} (h : c ∈ clockText k) : isWordChar c = true := by
  simp only [clockText, List.mem_append, List.mem_cons] at h
  rcases h with ((h | rfl | h) | rfl | h) | h
  · exact isWordChar_of_mem_zeroPadded h
  · decide
  · exact isWordChar_of_mem_zeroPadded h
  · decide
  · exact isWordChar_of_mem_zeroPadded h
  · exact isWordChar_of_mem_fractionText h

theorem isWordChar_of_mem_zoneText {offset : Int} (h : c ∈ zoneText offset) : isWordChar c = true := by
  unfold zoneText at h
  split at h
  · rw [List.mem_singleton.1 h]
    decide
  · simp only [offsetText, offsetSign, List.mem_append, List.mem_cons] at h
    rcases h with (rfl | h) | rfl | h
    · split <;> decide
    · exact isWordChar_of_mem_zeroPadded h
    · decide
    · exact isWordChar_of_mem_zeroPadded h

end Words

theorem isWord_render (t : Timestamp) : IsWord t.render := by
  rw [IsWord, toList_render]
  refine ⟨by simp, fun c hc => ?_⟩
  simp only [List.mem_append, List.mem_cons] at hc
  rcases hc with h | rfl | h | h
  · exact isWordChar_of_mem_dateText h
  · decide
  · exact isWordChar_of_mem_clockText h
  · exact isWordChar_of_mem_zoneText h

/-- A year of four digits stands in front. -/
theorem render_eq_cons {t : Timestamp} (h : t.Printable) : ∃ c cs, t.render.toList = c :: cs ∧ c.isDigit = true := by
  have hl : (zeroPadded 4 t.date.year.toNat).length = 4 := by
    have := h.year
    exact length_zeroPadded (by decide) (by omega)
  obtain ⟨c, cs, hc⟩ := List.exists_cons_of_length_pos (l := zeroPadded 4 t.date.year.toNat) (by omega)
  have hd : c ∈ zeroPadded 4 t.date.year.toNat := hc ▸ List.mem_cons_self
  simp only [toList_render, dateText, yearText, if_pos h.year, hc, List.cons_append]
  exact ⟨c, _, rfl, isDigit_of_mem_zeroPadded hd⟩

/-- A date is written with four digits and a hyphen. -/
theorem hyphen_of_date? {cs rest : List Char} {d : Date} (h : date? cs = some (d, rest)) :
    (∀ c ∈ cs.take 4, c.isDigit = true) ∧ '-' ∈ cs.drop 4 := by
  simp only [date?, bind, Option.bind_eq_some_iff, Prod.exists] at h
  obtain ⟨year, cs₁, hy, cs₂, he, -⟩ := h
  simp only [fixedNumber?] at hy
  split at hy
  · next hd =>
    cases hy
    refine ⟨List.all_eq_true.1 hd.2, ?_⟩
    cases hr : cs.drop 4 with
    | nil => rw [hr] at he; cases he
    | cons c _ =>
      rw [hr, expect?] at he
      split at he
      · next hc => exact hc ▸ List.mem_cons_self
      · cases he
  · cases hy

/-- The text of a decimal has no hyphen after a digit, so it is no timestamp. -/
theorem parse?_decimal (a : Decimal) : parse? a.render = none := by
  rw [Option.eq_none_iff_forall_ne_some]
  intro t h
  simp only [parse?, ofChars?, bind, Option.bind_eq_some_iff, Prod.exists] at h
  obtain ⟨d, cs, hd, -⟩ := h
  obtain ⟨hdigits, hhyphen⟩ := hyphen_of_date? hd
  rw [Decimal.render, String.toList_ofList] at hdigits hhyphen
  by_cases hm : a.mantissa < 0
  · have := hdigits '-' (by simp [hm])
    cases this
  · rw [if_neg hm, List.nil_append] at hhyphen
    rcases Decimal.mem_renderMagnitude (List.mem_of_mem_drop hhyphen) with h | h
    · cases h
    · cases h

theorem mem_of_fixedNumber? {width n : Nat} {cs rest : List Char} (h : fixedNumber? width cs = some (n, rest)) :
    ∀ c ∈ rest, c ∈ cs := by
  unfold fixedNumber? at h
  split at h
  · cases h
    exact fun c => List.mem_of_mem_drop
  · cases h

theorem eq_cons_of_expect? {c : Char} {cs rest : List Char} (h : expect? c cs = some rest) : cs = c :: rest := by
  cases cs with
  | nil => cases h
  | cons d cs =>
    simp only [expect?] at h
    split at h
    · next hd => rw [hd, Option.some.inj h]
    · cases h

/-- A timestamp has a colon after its hour. -/
theorem colon_of_parse? {w : String} {t : Timestamp} (h : parse? w = some t) : ':' ∈ w.toList := by
  simp only [parse?, ofChars?, bind, Option.bind_eq_some_iff, Prod.exists] at h
  obtain ⟨d, cs, hd, h⟩ := h
  have hrest : ∀ c ∈ cs, c ∈ w.toList := by
    simp only [date?, bind, Option.bind_eq_some_iff, Prod.exists] at hd
    obtain ⟨year, cs₁, hy, cs₂, he, month, cs₃, hm, cs₄, he', day, cs₅, hday, date, -, hd⟩ := hd
    cases hd
    intro c hc
    have h₄ : c ∈ cs₄ := mem_of_fixedNumber? hday c hc
    have h₃ : c ∈ cs₃ := eq_cons_of_expect? he' ▸ List.mem_cons_of_mem _ h₄
    have h₂ : c ∈ cs₂ := mem_of_fixedNumber? hm c h₃
    exact mem_of_fixedNumber? hy c (eq_cons_of_expect? he ▸ List.mem_cons_of_mem _ h₂)
  cases cs with
  | nil => cases h
  | cons c cs =>
    refine hrest ':' (List.mem_cons_of_mem _ ?_)
    dsimp only at h
    split at h
    · simp only [clock?, bind, Option.bind_eq_some_iff, Prod.exists] at h
      obtain ⟨clock, cs₁, ⟨hour, cs₂, hhour, cs₃, hcolon, -⟩, -⟩ := h
      exact mem_of_fixedNumber? hhour ':' (eq_cons_of_expect? hcolon ▸ List.mem_cons_self)
    · cases h

end Timestamp

namespace Token

/-! ## The shape of a number -/

/-- The characters in a number apart from digits. -/
def marks : List Char := ['.', 'e', 'E', '+', '-']

section Shape

variable {cs : List Char} {c : Char} {w : String}

theorem mem_of_readSigned (hc : c ∈ cs) (hm : c ∉ marks) : c ∈ (readSigned cs).2 := by
  unfold readSigned
  split
  · rcases List.mem_cons.1 hc with rfl | h
    · exact absurd (by decide) hm
    · exact h
  · rcases List.mem_cons.1 hc with rfl | h
    · exact absurd (by decide) hm
    · exact h
  · exact hc

theorem isDigit_of_isMantissa (h : isMantissa cs = true) (hc : c ∈ cs) (hm : c ∉ marks) : isDigit c = true := by
  simp only [isMantissa, Bool.and_eq_true, List.all_eq_true] at h
  apply h.2
  rcases cutAt_cases (· == '.') cs with hcut | ⟨before, d, after, hd, rfl, hcut⟩
  · rw [hcut]
    exact List.mem_append_left _ hc
  · rw [hcut]
    rcases List.mem_append.1 hc with h | h
    · exact List.mem_append_left _ h
    · rcases List.mem_cons.1 h with rfl | h
      · rw [eq_of_beq hd] at hm
        exact absurd (by decide) hm
      · exact List.mem_append_right _ h

theorem isDigit_of_isExponent (h : isExponent cs = true) (hc : c ∈ cs) (hm : c ∉ marks) : isDigit c = true := by
  simp only [isExponent, Bool.and_eq_true, List.all_eq_true] at h
  exact h.2 c (mem_of_readSigned hc hm)

/-- **What has the shape of a number is written with digits and marks.** -/
theorem isDigit_of_isNumeral (h : isNumeral w = true) (hc : c ∈ w.toList) (hm : c ∉ marks) : isDigit c = true := by
  have hc := mem_of_readSigned hc hm
  unfold isNumeral at h
  rcases cutAt_cases (fun c => c == 'e' || c == 'E') (readSigned w.toList).2 with
    hcut | ⟨before, d, after, hd, he, hcut⟩
  · rw [hcut] at h
    exact isDigit_of_isMantissa h hc hm
  · rw [hcut] at h
    obtain ⟨hbefore, hafter⟩ := Bool.and_eq_true_iff.1 h
    rw [he] at hc
    rcases List.mem_append.1 hc with hc | hc
    · exact isDigit_of_isMantissa hbefore hc hm
    · rcases List.mem_cons.1 hc with rfl | hc
      · simp only [Bool.or_eq_true, beq_iff_eq] at hd
        rcases hd with rfl | rfl <;> exact absurd (by decide) hm
      · exact isDigit_of_isExponent hafter hc hm

theorem isDigit_of_isDigit (h : c.isDigit = true) : isDigit c = true := by rw [isDigit, h, Bool.true_or]

theorem isMantissa_renderMagnitude (n scale : Nat) : isMantissa (Decimal.renderMagnitude n scale) = true := by
  have hpoint : ∀ {ds : List Char}, (∀ c ∈ ds, c.isDigit = true) → ∀ c ∈ ds, (c == '.') = false := fun h c hc =>
    Decimal.beq_false_of_isDigit (h c hc) rfl
  by_cases hs : scale = 0
  · have hd : ∀ c ∈ Decimal.digits n, c.isDigit = true := fun c => Decimal.isDigit_of_mem_digits
    rw [Decimal.renderMagnitude, if_pos hs, isMantissa, cutAt_of_forall (hpoint hd)]
    simp only [Option.getD_none, List.append_nil, Bool.and_eq_true, List.all_eq_true]
    exact ⟨by simp [Decimal.digits, Nat.toDigits_ne_nil], fun c hc => isDigit_of_isDigit (hd c hc)⟩
  · obtain ⟨whole, fraction, he, hw, -, hp⟩ := Decimal.renderMagnitude_of_pos n hs
    have hd : ∀ c ∈ whole ++ fraction, c.isDigit = true := fun c hc => isDigit_of_mem_padded (hp ▸ hc)
    rw [he, isMantissa, cutAt_append (hpoint fun c hc => hd c (List.mem_append_left _ hc)) rfl]
    simp only [Option.getD_some, Bool.and_eq_true, List.all_eq_true]
    exact ⟨by simp [hw], fun c hc => isDigit_of_isDigit (hd c hc)⟩

theorem isNumeral_render (d : Decimal) : isNumeral d.render = true := by
  simp only [isNumeral, Decimal.readSigned_render, cutAt_of_forall Decimal.not_exponentMark_of_mem,
    isMantissa_renderMagnitude]

theorem ne_nil_of_isNumeral (h : isNumeral w = true) : w.toList ≠ [] := by
  intro hnil
  rw [isNumeral, hnil] at h
  cases h

end Shape

/-! ## The atom that a word spells -/

/-- Words whose first letters differ in more than case are no spellings of each other. -/
theorem sameFolded_cons {s t : String} {c d : Char} {cs ds : List Char} (hs : s.toList = c :: cs)
    (ht : t.toList = d :: ds) (h : c.toLower ≠ d.toLower) : sameFolded s t = false := by
  rw [sameFolded, beq_eq_false_iff_ne]
  intro he
  have := congrArg String.toList he
  simp only [foldCase, String.toList_ofList, hs, ht, List.map_cons, List.cons.injEq] at this
  exact h this.1

theorem toLower_of_isDigit {c : Char} (h : isDigit c = true) : c.toLower = c := by
  simp only [isDigit, Char.isDigit, Bool.or_eq_true, Bool.and_eq_true, decide_eq_true_eq] at h
  have hn : ¬(c.val ≥ 'A'.val ∧ c.val ≤ 'Z'.val) := fun hc => by
    rcases h with h | h
    · exact absurd (Nat.le_trans hc.1 h.2) (by decide)
    · exact absurd (Nat.le_trans h.1 hc.2) (by decide)
  exact dif_neg hn

/-- A word that begins as a number does is no truth value. -/
theorem infer_of_cons {w : String} {c : Char} {cs : List Char} (hw : w.toList = c :: cs)
    (hc : isDigit c = true ∨ c ∈ marks) : infer w =
      match Timestamp.parse? w with
      | some t => .ok (time t)
      | none => inferDecimal w := by
  have hmarks : ∀ d ∈ marks, d.toLower ≠ 't' ∧ d.toLower ≠ 'f' := by simp [marks]
  have hne : ∀ d : Char, d = 't' ∨ d = 'f' → c.toLower ≠ d.toLower := by
    intro d hd
    rcases hc with hc | hc
    · rw [toLower_of_isDigit hc]
      rintro rfl
      rcases hd with rfl | rfl <;> revert hc <;> decide
    · rcases hd with rfl | rfl
      · exact (hmarks c hc).1
      · exact (hmarks c hc).2
  have ht : ¬sameFolded w "true" = true := Bool.eq_false_iff.1 (sameFolded_cons hw rfl (hne 't' (.inl rfl)))
  have hf : ¬sameFolded w "false" = true := Bool.eq_false_iff.1 (sameFolded_cons hw rfl (hne 'f' (.inr rfl)))
  unfold infer
  exact (if_neg ht).trans (if_neg hf)

/-- What has the shape of a number is neither a truth value nor a timestamp. -/
theorem infer_of_isNumeral {w : String} (h : isNumeral w = true) : infer w = inferDecimal w := by
  obtain ⟨c, cs, hw⟩ := List.exists_cons_of_ne_nil (ne_nil_of_isNumeral h)
  have hc : isDigit c = true ∨ c ∈ marks :=
    or_iff_not_imp_right.2 (isDigit_of_isNumeral h (hw ▸ List.mem_cons_self))
  rw [infer_of_cons hw hc]
  cases ht : Timestamp.parse? w with
  | none => rfl
  | some t =>
    have hcolon : isDigit ':' = true := isDigit_of_isNumeral h (Timestamp.colon_of_parse? ht) (by decide)
    exact absurd hcolon (by decide)

/-- **The text of a decimal spells the decimal.** -/
theorem infer_decimal {d : Decimal} (h : d.scale < 2 ^ 32) : infer d.render = .ok (decimal d) := by
  rw [infer_of_isNumeral (isNumeral_render d), inferDecimal, if_pos (isNumeral_render d), Decimal.parse_render h]

/-- **The text of a timestamp spells the timestamp.** -/
theorem infer_time {t : Timestamp} (h : t.Printable) : infer t.render = .ok (time t) := by
  obtain ⟨c, cs, he, hc⟩ := Timestamp.render_eq_cons h
  simp only [infer_of_cons he (.inl (isDigit_of_isDigit hc)), Timestamp.parse?_render h]

/-- The text of a truth value spells it. -/
theorem infer_boolean (b : Bool) : infer (if b then "true" else "false") = .ok (boolean b) := by
  cases b <;> rfl

theorem inferDecimal_cases (w : String) :
    (∃ d, inferDecimal w = .ok (decimal d) ∧ d.scale < 2 ^ 32) ∨ inferDecimal w = .ok (string w) ∨
      inferDecimal w = .error .overflow := by
  unfold inferDecimal
  split
  · split
    · next d hd => exact .inl ⟨d, rfl, Decimal.scale_lt_of_parse hd⟩
    · exact .inr (.inr rfl)
    · exact .inr (.inl rfl)
  · exact .inr (.inl rfl)

/-- Whatever a word spells that is no string can be written. -/
theorem infer_cases (w : String) :
    (∃ b, infer w = .ok (boolean b)) ∨ (∃ t, infer w = .ok (time t) ∧ t.Printable) ∨
      (∃ d, infer w = .ok (decimal d) ∧ d.scale < 2 ^ 32) ∨ infer w = .ok (string w) ∨
      infer w = .error .overflow := by
  unfold infer
  split
  · exact .inl ⟨true, rfl⟩
  · split
    · exact .inl ⟨false, rfl⟩
    · cases ht : Timestamp.parse? w with
      | some t => exact .inr (.inl ⟨t, rfl, Timestamp.printable_of_parse? ht⟩)
      | none => exact .inr (.inr (inferDecimal_cases w))

/-- **A word spells no atom exactly if it is a number that overflows.** -/
theorem infer_eq_error_iff {w : String} {e : Error} :
    infer w = .error e ↔ e = .overflow ∧ isNumeral w = true ∧ Decimal.parse w = .error .overflow := by
  constructor
  · intro h
    have hdecimal : inferDecimal w = .error e := by
      unfold infer at h
      split at h
      · cases h
      · split at h
        · cases h
        · split at h
          · cases h
          · exact h
    unfold inferDecimal at hdecimal
    split at hdecimal
    · next hw =>
      split at hdecimal
      · cases hdecimal
      · next ho => exact ⟨(Except.error.inj hdecimal).symm, hw, ho⟩
      · cases hdecimal
    · cases hdecimal
  · rintro ⟨rfl, hw, ho⟩
    rw [infer_of_isNumeral hw, inferDecimal, if_pos hw, ho]

/-- The least 64-bit integer has no magnitude of its type, so a number with that exponent overflows. -/
theorem infer_leastExponent : infer "1e-9223372036854775808" = .error .overflow :=
  infer_eq_error_iff.2 ⟨rfl, by decide +kernel, by decide +kernel⟩

end Token

end RuleExpr
