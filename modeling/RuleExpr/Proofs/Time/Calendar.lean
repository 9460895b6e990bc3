import RuleExpr.Time.Calendar
import Mathlib.Algebra.Ring.Nat

/-!
# Dates and day numbers

Every day number is that of one date of the calendar, and every date of the calendar has its own day number:

- `toDays_ofDays`: the date with a day number has that number;
- `ofDays_toDays`: a date of the calendar is the one with its number.

The two halves of a day number are treated apart. The year is the one whose first day is not after the day and whose
next year begins after it (`yearOf_eq`); the month is found by going through the lengths of the months (`monthOf_sum`).
-/

namespace RuleExpr.Date

/-! ## Years -/

/-- A year is followed by the next after its length. -/
theorem daysBeforeYear_succ (y : Int) : daysBeforeYear (y + 1) = daysBeforeYear y + yearLength y := by
  simp only [daysBeforeYear, yearLength, isLeap]
  grind

/-- Later years begin later, by a year's length at least. -/
theorem daysBeforeYear_lt {y z : Int} (h : y < z) : daysBeforeYear y + yearLength y ≤ daysBeforeYear z := by
  rw [← daysBeforeYear_succ]
  simp only [daysBeforeYear]
  omega

/-- The days before a year that is counted in centuries and fours of years. -/
theorem daysBeforeYear_of_parts (a : Int) {b c d : Int} (hb : 0 ≤ b ∧ b ≤ 3) (hc : 0 ≤ c ∧ c ≤ 24)
    (hd : 0 ≤ d ∧ d ≤ 3) :
    daysBeforeYear (400 * a + 100 * b + 4 * c + d + 1) = 146097 * a + 36524 * b + 1461 * c + 365 * d := by
  simp only [daysBeforeYear]
  omega

/-- The last of four years is a leap year, unless it ends a century and not the last of four. -/
theorem isLeap_of_parts (a : Int) {b c : Int} (hc : 0 ≤ c ∧ c ≤ 24) (hb : c ≠ 24 ∨ b = 3) :
    isLeap (400 * a + 100 * b + 4 * c + 3 + 1) = true := by
  simp only [isLeap, Bool.and_eq_true, Bool.or_eq_true, beq_iff_eq, bne_iff_ne]
  omega

/-- The year found for a day has begun by then, and the day lies in it. -/
theorem yearOf_spec (n : Int) :
    daysBeforeYear (yearOf n).1 + (yearOf n).2 = n ∧ (yearOf n).2 < yearLength (yearOf n).1 := by
  simp only [yearOf]
  generalize ha : n / 146097 = a
  generalize hr : n % 146097 = r
  generalize hb : min 3 (r / 36524) = b
  generalize hs : r - b * 36524 = s
  generalize hc : s / 1461 = c
  generalize ht : s % 1461 = t
  generalize hd : min 3 (t / 365) = d
  have hb' : 0 ≤ b ∧ b ≤ 3 := by omega
  have hc' : 0 ≤ c ∧ c ≤ 24 := by omega
  have hd' : 0 ≤ d ∧ d ≤ 3 := by omega
  rw [daysBeforeYear_of_parts a hb' hc' hd']
  refine ⟨by omega, ?_⟩
  unfold yearLength
  split
  · omega
  · next hl =>
    -- only a leap year has a day 365, counted from 0
    by_cases h3 : d = 3
    · subst h3
      have := mt (isLeap_of_parts a hc') hl
      omega
    · omega

/-- Only one year has begun by a day and has not ended before it. -/
theorem yearOf_eq {y n : Int} {r : Nat} (h : daysBeforeYear y + r = n) (hr : r < yearLength y) : yearOf n = (y, r) := by
  obtain ⟨he, hl⟩ := yearOf_spec n
  have hy : (yearOf n).1 = y := by
    rcases Int.lt_trichotomy (yearOf n).1 y with hlt | heq | hgt
    · have := daysBeforeYear_lt hlt
      omega
    · exact heq
    · have := daysBeforeYear_lt hgt
      omega
  have hs : (yearOf n).2 = r := by
    rw [hy] at he
    omega
  exact Prod.ext hy hs

/-! ## Months -/

/-- A number below the sum of the lengths lies in one of them. -/
theorem exists_month : ∀ (lengths : List Nat) {rest : Nat}, rest < lengths.sum →
    ∃ i n r, lengths[i]? = some n ∧ r < n ∧ rest = (lengths.take i).sum + r
  | [], _, h => absurd h (Nat.not_lt_zero _)
  | n :: lengths, rest, h => by
    by_cases hn : rest < n
    · exact ⟨0, n, rest, rfl, hn, by simp⟩
    · rw [List.sum_cons] at h
      obtain ⟨i, m, r, hi, hr, he⟩ := exists_month lengths (show rest - n < lengths.sum by omega)
      refine ⟨i + 1, m, r, hi, hr, ?_⟩
      rw [List.take_succ_cons, List.sum_cons]
      omega

/-- The month in whose length a number lies is found, with the number left. -/
theorem monthOf_sum : ∀ {lengths : List Nat} (month : Nat) {i n r : Nat}, lengths[i]? = some n → r < n →
    monthOf month lengths ((lengths.take i).sum + r) = (month + i, r + 1)
  | [], _, _, _, _, h, _ => by simp at h
  | m :: lengths, month, 0, n, r, h, hr => by
    cases Option.some.inj h
    rw [monthOf, List.take_zero, List.sum_nil, Nat.zero_add, if_pos hr]
    rfl
  | m :: lengths, month, i + 1, n, r, h, hr => by
    have he : m + (lengths.take i).sum + r - m = (lengths.take i).sum + r := by omega
    have hge : ¬m + (lengths.take i).sum + r < m := by omega
    rw [List.getElem?_cons_succ] at h
    rw [monthOf, List.take_succ_cons, List.sum_cons, if_neg hge, he, monthOf_sum (month + 1) h hr]
    simp only [Prod.mk.injEq, and_true]
    omega

theorem length_monthLengths (y : Int) : (monthLengths y).length = 12 := rfl

theorem sum_monthLengths (y : Int) : (monthLengths y).sum = yearLength y := by
  unfold monthLengths yearLength
  split <;> rfl

/-! ## Dates -/

/-- A date of the calendar: its month is one of the twelve, and has its day. -/
structure Valid (d : Date) : Prop where
  month : 1 ≤ d.month
  day : 1 ≤ d.day
  length : ∃ n, (monthLengths d.year)[d.month - 1]? = some n ∧ d.day ≤ n

theorem Valid.month_le {d : Date} (h : d.Valid) : d.month ≤ 12 := by
  obtain ⟨n, hn, -⟩ := h.length
  have := (List.getElem?_eq_some_iff.1 hn).1
  rw [length_monthLengths] at this
  omega

theorem Valid.day_le {d : Date} (h : d.Valid) : d.day ≤ 31 := by
  obtain ⟨n, hn, hd⟩ := h.length
  have hm : n ∈ monthLengths d.year := List.mem_of_getElem? hn
  have hle : ∀ m ∈ monthLengths d.year, m ≤ 31 := by
    unfold monthLengths
    cases isLeap d.year <;> decide
  exact Nat.le_trans hd (hle n hm)

theorem ordinal_eq (d : Date) : d.ordinal = ((monthLengths d.year).take (d.month - 1)).sum + d.day := by
  rw [ordinal, List.sum_eq_foldl]

/-- A date in the year and month that are found for a number of days. -/
theorem exists_ofDays (n : Int) : ∃ i m r, (monthLengths (yearOf (n + epoch)).1)[i]? = some m ∧ r < m ∧
    (yearOf (n + epoch)).2 = ((monthLengths (yearOf (n + epoch)).1).take i).sum + r ∧
    ofDays n = ⟨(yearOf (n + epoch)).1, 1 + i, r + 1⟩ := by
  have hlt := (yearOf_spec (n + epoch)).2
  rw [← sum_monthLengths] at hlt
  obtain ⟨i, m, r, hi, hr, he⟩ := exists_month _ hlt
  refine ⟨i, m, r, hi, hr, he, ?_⟩
  simp only [ofDays, he, monthOf_sum 1 hi hr]

/-- The year of a day is the one found for it. -/
theorem year_ofDays (n : Int) : (ofDays n).year = (yearOf (n + epoch)).1 := by
  obtain ⟨i, m, r, -, -, -, he⟩ := exists_ofDays n
  rw [he]

/-- A day later, at most one year has begun. -/
theorem year_ofDays_le {m n : Int} (h : m ≤ n + 1) : (ofDays m).year ≤ (ofDays n).year + 1 := by
  rw [year_ofDays, year_ofDays]
  obtain ⟨hm, -⟩ := yearOf_spec (m + epoch)
  obtain ⟨hn, hlt⟩ := yearOf_spec (n + epoch)
  generalize (yearOf (m + epoch)).1 = y at *
  generalize (yearOf (n + epoch)).1 = z at *
  by_cases hyz : y ≤ z + 1
  · exact hyz
  · have h₁ := daysBeforeYear_lt (y := z) (z := z + 1) (by omega)
    have h₂ := daysBeforeYear_lt (y := z + 1) (z := y) (by omega)
    have h₃ : 365 ≤ yearLength (z + 1) := by
      unfold yearLength
      split <;> decide
    omega

/-- Every day number gives a date of the calendar. -/
theorem valid_ofDays (n : Int) : (ofDays n).Valid := by
  obtain ⟨i, m, r, hi, hr, -, he⟩ := exists_ofDays n
  rw [he]
  exact ⟨Nat.le_add_right 1 i, Nat.le_add_left 1 r, m, by simpa using hi, hr⟩

/-- **The date with a day number has that number.** -/
theorem toDays_ofDays (n : Int) : (ofDays n).toDays = n := by
  obtain ⟨i, m, r, -, -, hs, he⟩ := exists_ofDays n
  have hn := (yearOf_spec (n + epoch)).1
  rw [hs] at hn
  simp only [toDays, ordinal_eq, he, Nat.add_sub_cancel_left]
  omega

/-- **A date of the calendar is the one with its day number.** -/
theorem ofDays_toDays {d : Date} (h : d.Valid) : ofDays d.toDays = d := by
  obtain ⟨n, hn, hle⟩ := h.length
  have hday := h.day
  have hlt : d.day - 1 < n := by omega
  have hsum : ((monthLengths d.year).take (d.month - 1)).sum + (d.day - 1) < yearLength d.year := by
    have h₁ := congrArg List.sum (List.take_append_drop (d.month - 1) (monthLengths d.year))
    rw [List.drop_eq_getElem_cons (List.getElem?_eq_some_iff.1 hn).1, List.sum_append, List.sum_cons,
      (List.getElem?_eq_some_iff.1 hn).2, sum_monthLengths] at h₁
    omega
  have hyear : yearOf (d.toDays + epoch) =
      (d.year, ((monthLengths d.year).take (d.month - 1)).sum + (d.day - 1)) := by
    refine yearOf_eq ?_ hsum
    simp only [toDays, ordinal_eq]
    omega
  have hmonth := h.month
  simp only [ofDays, hyear, monthOf_sum 1 hn hlt]
  have h₁ : 1 + (d.month - 1) = d.month := by omega
  have h₂ : d.day - 1 + 1 = d.day := by omega
  rw [h₁, h₂]

end RuleExpr.Date
