import RuleExpr.Proofs.Token.Readable
import RuleExpr.Proofs.Token.Equality
import RuleExpr.Token.Render

/-!
# What the text of a value spells

The text of a decimal, a truth value or a time is read again where a string stands beside the value.

**The text of a readable value spells the value, but for times in a year that has not four digits**, whose text spells
itself (`infer_text`): such a year is written with a sign (`infer_time_of_year`). So a value is equal to its text
exactly if its year has four digits (`looseEqual_text`).
-/

namespace RuleExpr

namespace Timestamp

variable {t : Timestamp}

/-- The year has four digits. -/
def ShortYear (t : Timestamp) : Prop := 0 ≤ t.date.year ∧ t.date.year ≤ 9999

instance : DecidablePred ShortYear := fun _ => inferInstanceAs (Decidable (_ ∧ _))

/-- Any other year has a sign in front. -/
theorem render_eq_cons_of_year (h : ¬t.ShortYear) : ∃ c cs, t.render.toList = c :: cs ∧ (c = '-' ∨ c = '+') := by
  have hy : ¬(0 ≤ t.date.year ∧ t.date.year ≤ 9999) := h
  rw [toList_render, dateText, yearText, if_neg hy]
  split
  · exact ⟨'-', _, rfl, .inl rfl⟩
  · exact ⟨'+', _, rfl, .inr rfl⟩

theorem parse?_of_year (h : ¬t.ShortYear) : parse? t.render = none := by
  obtain ⟨c, cs, he, hc⟩ := render_eq_cons_of_year h
  rw [Option.eq_none_iff_forall_ne_some]
  intro t' hparse
  simp only [parse?, ofChars?, bind, Option.bind_eq_some_iff, Prod.exists] at hparse
  obtain ⟨d, rest, hd, -⟩ := hparse
  have hdigit : c.isDigit = true := (hyphen_of_date? hd).1 c (by simp [he])
  rcases hc with rfl | rfl <;> cases hdigit

/-- No time has the shape of a number, for the letter in the middle. -/
theorem isNumeral_render (t : Timestamp) : Token.isNumeral t.render = false := by
  rw [Bool.eq_false_iff]
  intro h
  have hmem : 'T' ∈ t.render.toList := by simp [toList_render]
  exact absurd (Token.isDigit_of_isNumeral h hmem (by decide)) (by decide)

end Timestamp

namespace Token

/-- A decimal, a truth value or a time. -/
def isTyped : Token → Bool
  | decimal _ | boolean _ | time _ => true
  | _ => false

/-- If the value is a time then its year has four digits. -/
def ShortYear : Token → Prop
  | time t => t.ShortYear
  | _ => True

instance : DecidablePred ShortYear
  | time t => inferInstanceAs (Decidable t.ShortYear)
  | decimal _ | string _ | boolean _ | null | list _ | map _ | block _ _ => .isTrue trivial

/-- The text of a time in any other year spells itself. -/
theorem infer_time_of_year {t : Timestamp} (h : ¬t.ShortYear) : infer t.render = .ok (string t.render) := by
  obtain ⟨c, cs, he, hc⟩ := Timestamp.render_eq_cons_of_year h
  have hmark : c ∈ marks := by rcases hc with rfl | rfl <;> decide
  simp only [infer_of_cons he (.inr hmark), Timestamp.parse?_of_year h, inferDecimal, Timestamp.isNumeral_render,
    Bool.false_eq_true, if_false]

variable {v : Token}

/-- **What the text of a typed value spells.** -/
theorem infer_text (hr : v.Readable) (ht : v.isTyped = true) :
    infer v.text = .ok (if v.ShortYear then v else string v.text) := by
  cases v with
  | decimal d => exact (infer_decimal hr.of_decimal).trans (congrArg Except.ok (if_pos trivial).symm)
  | boolean b => exact (infer_boolean b).trans (congrArg Except.ok (if_pos trivial).symm)
  | time t =>
    by_cases hy : (time t).ShortYear
    · rw [if_pos hy]
      exact infer_time (Timestamp.printable_iff.2 ⟨hr.of_time, hy⟩)
    · rw [if_neg hy]
      exact infer_time_of_year hy
  | _ => cases ht

theorem isBlock_of_isTyped (ht : v.isTyped = true) : v.isBlock = false := by
  cases v with
  | block => cases ht
  | _ => rfl

theorem keyed_of_isTyped (ht : v.isTyped = true) : v.Keyed := by
  cases v with
  | decimal d => exact .decimal d
  | boolean b => exact .boolean b
  | time t => exact .time t
  | _ => cases ht

theorem equal_string_of_isTyped (ht : v.isTyped = true) (s : String) : equal (string s) v = false := by
  cases v with
  | decimal d => simp [equal]
  | boolean b => simp [equal]
  | time t => simp [equal]
  | _ => cases ht

/-- What the text spells is of the kind of the value, and equal to it, exactly if it is the value. -/
theorem infer_text_equal_iff (hr : v.Readable) (ht : v.isTyped = true) :
    (∃ u, infer v.text = .ok u ∧ u.kind = v.kind ∧ u.equal v = true) ↔ v.ShortYear := by
  rw [infer_text hr ht]
  by_cases hy : v.ShortYear
  · rw [if_pos hy]
    exact iff_of_true ⟨v, rfl, rfl, (keyed_of_isTyped ht).equal_refl⟩ hy
  · rw [if_neg hy]
    refine iff_of_false ?_ hy
    rintro ⟨_, ⟨⟩, -, he⟩
    rw [equal_string_of_isTyped ht] at he
    cases he

theorem kind_of_isTyped (ht : v.isTyped = true) : v.kind ≠ .string := by
  cases v with
  | decimal d => exact (by decide : Kind.decimal ≠ Kind.string)
  | boolean b => exact (by decide : Kind.boolean ≠ Kind.string)
  | time t => exact (by decide : Kind.time ≠ Kind.string)
  | _ => cases ht

/-- A value compares equal to its text exactly if the text spells it. -/
theorem looseEqual_text (hr : v.Readable) (ht : v.isTyped = true) :
    v.looseEqual (string v.text) = .ok (decide v.ShortYear) := by
  rw [looseEqual_string_right (kind_of_isTyped ht), infer_text hr ht]
  by_cases hy : v.ShortYear
  · rw [if_pos hy, decide_eq_true hy]
    exact congrArg Except.ok (keyed_of_isTyped ht).equal_refl
  · rw [if_neg hy, decide_eq_false hy]
    exact congrArg Except.ok (equal_string_of_isTyped ht _)

end Token

end RuleExpr
