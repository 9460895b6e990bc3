import RuleExpr.Time.Rfc3339
import RuleExpr.Proofs.Decimal.Text
import RuleExpr.Proofs.Time.Calendar

/-!
# Timestamps in RFC 3339 read back

A timestamp is printable (`Timestamp.Printable`) when its clock is one of the day, its year has four digits and its
offset is a number of whole minutes below a day.

- `parse?_render`: the text of a printable timestamp reads back as the timestamp;
- `printable_of_parse?`: only printable timestamps are read.

Each part of the text is read by its own reader, up to where the next part begins; so each part has a lemma for any
characters that follow. The digits after the point are the exception: no digit and no point may follow them (`Stops`).
-/

namespace RuleExpr

/-- A clock of the day: a leap second is the last of its minute. -/
structure Clock.Valid (c : Clock) : Prop where
  second : c.second < 86400
  nano : c.nano < 2 * Clock.nanosPerSecond
  leap : Clock.nanosPerSecond ≤ c.nano → c.second % 60 = 59

namespace Timestamp

open RuleExpr.Decimal (digits padded tenPow)
open RuleExpr.Text (digitsValue)

/-! ## Numbers of a fixed width -/

section Fixed

variable {width n : Nat} {rest : List Char}

theorem isDigit_of_mem_zeroPadded {c : Char} (h : c ∈ zeroPadded width n) : c.isDigit = true :=
  Text.isDigit_of_mem_padded h

theorem length_zeroPadded (hw : 0 < width) (h : n < 10 ^ width) : (zeroPadded width n).length = width := by
  have := (Nat.length_toDigits_le_iff (b := 10) (by decide) hw).2 h
  simp only [zeroPadded, padded, digits, List.length_append, List.length_replicate]
  omega

theorem fixedNumber?_zeroPadded (hw : 0 < width) (h : n < 10 ^ width) :
    fixedNumber? width (zeroPadded width n ++ rest) = some (n, rest) := by
  have hl := length_zeroPadded hw h
  have hall : (zeroPadded width n).all Char.isDigit = true := List.all_eq_true.2 fun _ => isDigit_of_mem_zeroPadded
  rw [fixedNumber?, List.take_left' hl, List.drop_left' hl, if_pos ⟨hl, hall⟩]
  exact congrArg (fun m => some (m, rest)) (Text.digitsValue_padded width n)

/-- A number that is read has no more digits than its width. -/
theorem lt_of_fixedNumber? {cs : List Char} (h : fixedNumber? width cs = some (n, rest)) : n < 10 ^ width := by
  simp only [fixedNumber?] at h
  split at h
  · next hd =>
    cases h
    have := Text.digitsValue_lt (List.all_eq_true.1 hd.2)
    rwa [hd.1] at this
  · cases h

end Fixed

theorem expect?_cons (c : Char) (rest : List Char) : expect? c (c :: rest) = some rest := if_pos rfl

/-! ## The date -/

theorem date?_dateText {d : Date} (hv : d.Valid) (hy : 0 ≤ d.year ∧ d.year ≤ 9999) (rest : List Char) :
    date? (dateText d ++ rest) = some (d, rest) := by
  have hyear : d.year.toNat < 10 ^ 4 := by omega
  have hmonth : d.month < 10 ^ 2 := Nat.lt_of_le_of_lt hv.month_le (by decide)
  have hday : d.day < 10 ^ 2 := Nat.lt_of_le_of_lt hv.day_le (by decide)
  have hcast : (d.year.toNat : Int) = d.year := by omega
  obtain ⟨n, hn, hle⟩ := hv.length
  have hfields : Date.ofFields? d.year d.month d.day = some d := by
    have hrange : Date.leastYear ≤ d.year ∧ d.year ≤ Date.greatestYear ∧ 1 ≤ d.month ∧ 1 ≤ d.day ∧ d.day ≤ n :=
      ⟨by unfold Date.leastYear; omega, by unfold Date.greatestYear; omega, hv.month, hv.day, hle⟩
    simp only [Date.ofFields?, hn, if_pos hrange]
  simp only [date?, dateText, yearText, if_pos hy, List.append_assoc, List.cons_append]
  simp only [fixedNumber?_zeroPadded (by decide : 0 < 4) hyear, fixedNumber?_zeroPadded (by decide : 0 < 2) hmonth,
    fixedNumber?_zeroPadded (by decide : 0 < 2) hday, expect?_cons, hcast, hfields, bind, Option.bind]

theorem valid_of_ofFields? {year : Int} {month day : Nat} {d : Date} (h : Date.ofFields? year month day = some d) :
    d.Valid ∧ d.year = year := by
  simp only [Date.ofFields?] at h
  split at h
  · next n hn =>
    split at h
    · next hr =>
      cases h
      exact ⟨⟨hr.2.2.1, hr.2.2.2.1, n, hn, hr.2.2.2.2⟩, rfl⟩
    · cases h
  · cases h

/-- A date that is read is one of the calendar, in a year of four digits. -/
theorem valid_of_date? {cs rest : List Char} {d : Date} (h : date? cs = some (d, rest)) :
    d.Valid ∧ 0 ≤ d.year ∧ d.year ≤ 9999 := by
  simp only [date?, bind, Option.bind_eq_some_iff, Prod.exists] at h
  obtain ⟨year, _, hy, _, _, month, _, -, _, _, day, _, -, d', hd, he⟩ := h
  cases he
  obtain ⟨hv, hd⟩ := valid_of_ofFields? hd
  have hlt := lt_of_fixedNumber? hy
  exact ⟨hv, by omega, by omega⟩

/-! ## The time of day -/

/-- The text goes on with neither a digit nor a point. -/
def Stops (rest : List Char) : Prop := ∀ c ∈ rest.head?, c.isDigit = false ∧ c ≠ '.'

section Fraction

variable {rest : List Char}

/-- The digits of a fraction end where the text stops. -/
theorem span_digits (ds : List Char) (hr : Stops rest) (hd : ∀ c ∈ ds, c.isDigit = true) :
    (ds ++ rest).takeWhile Char.isDigit = ds ∧ (ds ++ rest).dropWhile Char.isDigit = rest := by
  rw [List.takeWhile_append_of_pos hd, List.dropWhile_append_of_pos hd]
  cases rest with
  | nil => simp
  | cons c cs =>
    have hc : c.isDigit = false := (hr c rfl).1
    simp [hc]

theorem fraction?_zeroPadded {width n : Nat} (hr : Stops rest) (hw : 0 < width) (hw' : width ≤ 9)
    (h : n < 10 ^ width) : fraction? (zeroPadded width n ++ rest) = some (n * tenPow (9 - width), rest) := by
  have hl := length_zeroPadded hw h
  obtain ⟨ht, hd⟩ := span_digits (zeroPadded width n) hr fun _ => isDigit_of_mem_zeroPadded
  have hne : (zeroPadded width n).isEmpty = false := by
    rw [List.isEmpty_eq_false_iff, ← List.length_pos_iff, hl]
    exact hw
  have htake : (zeroPadded width n).take 9 = zeroPadded width n := List.take_of_length_le (by rw [hl]; exact hw')
  simp only [fraction?, ht, hd, hne, htake, hl, Bool.false_eq_true, if_false]
  rw [zeroPadded, Text.digitsValue_padded]

/-- Without a point there is no fraction. -/
theorem optionalFraction?_of_stops (hr : Stops rest) : optionalFraction? rest = some (0, rest) := by
  unfold optionalFraction?
  split
  · exact absurd rfl (hr '.' rfl).2
  · rfl

/-- Nanoseconds read back from the digits after a point, if the places that are left out are zeros. -/
theorem optionalFraction?_point {width n nano : Nat} (hr : Stops rest) (hw : 0 < width) (hw' : width ≤ 9)
    (h : n < 10 ^ width) (hn : n * tenPow (9 - width) = nano) :
    optionalFraction? ('.' :: zeroPadded width n ++ rest) = some (nano, rest) := by
  rw [List.cons_append, optionalFraction?, fraction?_zeroPadded hr hw hw' h, hn]

/-- Nanoseconds read back from as many digits as show them. -/
theorem optionalFraction?_fractionText {nano : Nat} (hr : Stops rest) (h : nano < 10 ^ 9) :
    optionalFraction? (fractionText nano ++ rest) = some (nano, rest) := by
  unfold fractionText
  split
  · next h0 =>
    subst h0
    exact optionalFraction?_of_stops hr
  · split
    · have hn : nano / 1000000 * 1000000 = nano := by omega
      exact optionalFraction?_point hr (by decide) (by decide) (by omega) hn
    · split
      · have hn : nano / 1000 * 1000 = nano := by omega
        exact optionalFraction?_point hr (by decide) (by decide) (by omega) hn
      · exact optionalFraction?_point hr (by decide) (by decide) h (Nat.mul_one nano)

end Fraction

section ClockTime

variable {c : Clock} {rest : List Char}

/-- The fields that are shown are those of the clock, a leap second as second 60. -/
theorem clockOf?_shown (h : c.Valid) : clockOf? c.hour c.minute c.shownSecond c.shownNano = some c := by
  have hs := h.second
  have hn : c.nano < 2000000000 := h.nano
  have hl : 1000000000 ≤ c.nano → c.second % 60 = 59 := h.leap
  have hshown : c.shownSecond = c.second % 60 + c.nano / 1000000000 := rfl
  have hrange : c.hour < 24 ∧ c.minute < 60 ∧ c.shownSecond ≤ 60 := by
    unfold Clock.hour Clock.minute
    omega
  have hminute : c.hour * 3600 + c.minute * 60 + c.second % 60 = c.second := by
    unfold Clock.hour Clock.minute
    omega
  have hnano : c.shownNano = c.nano % 1000000000 := rfl
  rw [clockOf?, if_pos hrange, Option.some.injEq]
  obtain ⟨second, nano⟩ := c
  simp only at hs hn hl hshown hminute hnano
  split
  · simp only [Clock.mk.injEq, Clock.nanosPerSecond]
    omega
  · simp only [Clock.mk.injEq]
    omega

theorem clock?_clockText (h : c.Valid) (hr : Stops rest) : clock? (clockText c ++ rest) = some (c, rest) := by
  have hs := h.second
  have hn : c.nano < 2000000000 := h.nano
  have hl : 1000000000 ≤ c.nano → c.second % 60 = 59 := h.leap
  have hhour : c.hour < 10 ^ 2 := by
    unfold Clock.hour
    omega
  have hminute : c.minute < 10 ^ 2 := by
    unfold Clock.minute
    omega
  have hsecond : c.shownSecond < 10 ^ 2 := by
    unfold Clock.shownSecond Clock.nanosPerSecond
    omega
  have hnano : c.shownNano < 10 ^ 9 := Nat.mod_lt _ (by decide)
  simp only [clock?, clockText, List.append_assoc, List.cons_append]
  simp only [fixedNumber?_zeroPadded (by decide : 0 < 2) hhour, fixedNumber?_zeroPadded (by decide : 0 < 2) hminute,
    fixedNumber?_zeroPadded (by decide : 0 < 2) hsecond, expect?_cons, optionalFraction?_fractionText hr hnano,
    clockOf?_shown h, bind, Option.bind]

theorem lt_of_fraction? {cs : List Char} {nano : Nat} (h : fraction? cs = some (nano, rest)) : nano < 10 ^ 9 := by
  simp only [fraction?] at h
  split at h
  · cases h
  · cases h
    have hd : ∀ c ∈ (cs.takeWhile Char.isDigit).take 9, c.isDigit = true := fun c hc =>
      List.all_eq_true.1 List.all_takeWhile c (List.mem_of_mem_take hc)
    have hlt := Text.digitsValue_lt hd
    have hlen : ((cs.takeWhile Char.isDigit).take 9).length + (9 - (cs.takeWhile Char.isDigit).length) = 9 := by
      rw [List.length_take]
      omega
    calc digitsValue ((cs.takeWhile Char.isDigit).take 9) * tenPow (9 - (cs.takeWhile Char.isDigit).length)
        < 10 ^ ((cs.takeWhile Char.isDigit).take 9).length * 10 ^ (9 - (cs.takeWhile Char.isDigit).length) :=
          Nat.mul_lt_mul_of_pos_right hlt (Nat.pow_pos (by decide))
      _ = 10 ^ 9 := by rw [← Nat.pow_add, hlen]

theorem lt_of_optionalFraction? {cs : List Char} {nano : Nat} (h : optionalFraction? cs = some (nano, rest)) :
    nano < 10 ^ 9 := by
  unfold optionalFraction? at h
  split at h
  · exact lt_of_fraction? h
  · cases h
    decide

/-- A clock that is read is one of the day. -/
theorem valid_of_clock? {cs : List Char} (h : clock? cs = some (c, rest)) : c.Valid := by
  simp only [clock?, bind, Option.bind_eq_some_iff, Prod.exists] at h
  obtain ⟨hour, _, -, _, -, minute, _, -, _, -, second, _, -, nano, _, hn, c', hc, he⟩ := h
  cases he
  have hn := lt_of_optionalFraction? hn
  simp only [clockOf?] at hc
  split at hc
  · next hr =>
    split at hc
    · cases hc
      exact ⟨by show hour * 3600 + minute * 60 + 59 < 86400; omega,
        by show 1000000000 + nano < 2 * 1000000000; omega,
        fun _ => by show (hour * 3600 + minute * 60 + 59) % 60 = 59; omega⟩
    · cases hc
      exact ⟨by show hour * 3600 + minute * 60 + second < 86400; omega,
        by show nano < 2 * 1000000000; omega,
        fun hle => absurd hle (by show ¬1000000000 ≤ nano; omega)⟩
  · cases hc

end ClockTime

/-! ## The offset -/

/-- How the zero offset and the others are written. -/
def zoneText (offset : Int) : List Char := if offset = 0 then ['Z'] else offsetText offset

section Offset

variable {offset : Int}

theorem sign?_offsetSign (offset : Int) (rest : List Char) :
    sign? (offsetSign offset :: rest) = some (decide (offset < 0), rest) := by
  unfold offsetSign
  split
  · next h => simp [sign?, h]
  · next h => simp [sign?, h]

/-- An offset of whole minutes reads back. -/
theorem offset?_zoneText (hlt : offset.natAbs < 86400) (hmin : offset % 60 = 0) :
    offset? (expect? ':') (zoneText offset) = some (offset, []) := by
  unfold zoneText
  split
  · next h => simp [offset?, h]
  · have hhours : (offset.natAbs + 30) / 60 / 60 < 10 ^ 2 := by omega
    have hminutes : (offset.natAbs + 30) / 60 % 60 < 10 ^ 2 := by omega
    have hsign : ¬(offsetSign offset = 'Z' ∨ offsetSign offset = 'z') := by
      unfold offsetSign
      split <;> decide
    have hm := @fixedNumber?_zeroPadded 2 _ [] (by decide) hminutes
    rw [List.append_nil] at hm
    have h60 : (offset.natAbs + 30) / 60 % 60 < 60 := Nat.mod_lt _ (by decide)
    have hvalue : (if decide (offset < 0) = true
        then -(((offset.natAbs + 30) / 60 / 60 : Nat) * 3600 + ((offset.natAbs + 30) / 60 % 60 : Nat) * 60 : Int)
        else ((offset.natAbs + 30) / 60 / 60 : Nat) * 3600 + ((offset.natAbs + 30) / 60 % 60 : Nat) * 60) = offset := by
      simp only [decide_eq_true_eq]
      split <;> omega
    simp only [offset?, offsetText, List.cons_append, Bool.or_eq_true, decide_eq_true_eq, if_neg hsign, signedOffset?]
    simp only [sign?_offsetSign, fixedNumber?_zeroPadded (by decide : 0 < 2) hhours, expect?_cons, hm, if_pos h60,
      hvalue, bind, Option.bind]

/-- An offset is written with a sign or a `Z`, at which a fraction stops. -/
theorem stops_zoneText (offset : Int) : Stops (zoneText offset) := by
  unfold zoneText offsetText offsetSign
  split
  · simp [Stops]
  · split <;> simp [Stops]

end Offset

/-! ## The whole text -/

/-- A timestamp that the format shows exactly: four digits of a year, and whole minutes of an offset. -/
structure Printable (t : Timestamp) : Prop where
  clock : t.clock.Valid
  year : 0 ≤ t.date.year ∧ t.date.year ≤ 9999
  offset : t.offset.natAbs < 86400
  minutes : t.offset % 60 = 0

section Whole

variable {t : Timestamp}

/-- Whole minutes of an offset leave the second of the minute, and so the leap seconds, where they are. -/
theorem valid_localClock (h : t.Printable) : t.localClock.Valid := by
  have hm := h.minutes
  have hs : t.localClock.second = (t.localSecond % 86400).toNat := rfl
  have hl : t.localSecond = t.day * 86400 + t.clock.second + t.offset := rfl
  refine ⟨by omega, h.clock.nano, fun hn => ?_⟩
  have := h.clock.leap hn
  omega

/-- Offsets move the day by one at most. -/
theorem inRange_day (h : t.Printable) : Date.inRange t.day = true := by
  have hs := h.clock.second
  have ho := h.offset
  have hd : t.localDay = (t.day * 86400 + t.clock.second + t.offset) / 86400 := rfl
  have hy := h.year
  have h₁ := Date.year_ofDays_le (m := t.day) (n := t.localDay) (by omega)
  have h₂ := Date.year_ofDays_le (m := t.localDay) (n := t.day) (by omega)
  have hr : Date.leastYear ≤ (Date.ofDays t.day).year ∧ (Date.ofDays t.day).year ≤ Date.greatestYear := by
    simp only [date] at hy
    unfold Date.leastYear Date.greatestYear
    omega
  simp only [Date.inRange, hr.1, hr.2, decide_true, Bool.and_self]

/-- A timestamp is the one at its local day and clock. -/
theorem ofLocal?_local (h : t.Printable) : ofLocal? t.localDay t.localClock t.offset = some t := by
  have hs := h.clock.second
  have hsecond : t.localDay * 86400 + t.localClock.second - t.offset = t.day * 86400 + t.clock.second := by
    have hd : t.localDay = t.localSecond / 86400 := rfl
    have hc : t.localClock.second = (t.localSecond % 86400).toNat := rfl
    have hl : t.localSecond = t.day * 86400 + t.clock.second + t.offset := rfl
    omega
  have hday : (t.day * 86400 + t.clock.second) / 86400 = t.day := by omega
  have hrest : ((t.day * 86400 + t.clock.second) % 86400).toNat = t.clock.second := by omega
  simp only [ofLocal?, hsecond, hday, hrest]
  rw [if_pos ⟨h.offset, inRange_day h⟩]
  rfl

/-- The text of a timestamp part by part. -/
theorem toList_render (t : Timestamp) :
    t.render.toList = dateText t.date ++ 'T' :: (clockText t.localClock ++ zoneText t.offset) := by
  simp only [render, String.toList_ofList, renderWith, zoneText, List.append_assoc, List.cons_append]

/-- **The text of a printable timestamp reads back.** -/
theorem parse?_render (h : t.Printable) : parse? t.render = some t := by
  have hdate := date?_dateText (d := t.date) (Date.valid_ofDays _) h.year
  have hclock := clock?_clockText (valid_localClock h) (stops_zoneText t.offset)
  have hdays : t.date.toDays = t.localDay := Date.toDays_ofDays _
  rw [parse?, toList_render, ofChars?]
  simp only [hdate, hclock, offset?_zoneText h.offset h.minutes, hdays, ofLocal?_local h, bind, Option.bind]
  rfl

/-! ## What can be read -/

/-- Hours and minutes that are read make whole minutes, whatever stands between them. -/
theorem minutes_of_signedOffset? {between : List Char → Option (List Char)} {cs rest : List Char} {offset : Int}
    (h : signedOffset? between cs = some (offset, rest)) : offset % 60 = 0 := by
  simp only [signedOffset?, bind, Option.bind_eq_some_iff, Prod.exists] at h
  obtain ⟨negative, _, -, hours, _, -, _, -, minutes, _, -, h⟩ := h
  split at h
  · cases h
    split <;> omega
  · cases h

theorem minutes_of_offset? {between : List Char → Option (List Char)} {cs rest : List Char} {offset : Int}
    (h : offset? between cs = some (offset, rest)) : offset % 60 = 0 := by
  unfold offset? at h
  split at h
  · split at h
    · cases h
      rfl
    · exact minutes_of_signedOffset? h
  · cases h

/-- The local day and clock of a timestamp are those it was given by. -/
theorem local_of_ofLocal? {day offset : Int} {clock : Clock} (hc : clock.second < 86400)
    (h : ofLocal? day clock offset = some t) :
    t.localDay = day ∧ t.offset = offset ∧ t.clock.nano = clock.nano ∧
      (t.clock.second : Int) = (day * 86400 + clock.second - offset) % 86400 ∧ offset.natAbs < 86400 := by
  simp only [ofLocal?] at h
  split at h
  · next hr =>
    cases h
    refine ⟨?_, rfl, rfl, ?_, hr.1⟩
    · simp only [localDay, localSecond]
      omega
    · show (((day * 86400 + clock.second - offset) % 86400).toNat : Int) = _
      omega
  · cases h

/-- **Only printable timestamps are read.** -/
theorem printable_of_parse? {text : String} (h : parse? text = some t) : t.Printable := by
  simp only [parse?, ofChars?, bind, Option.bind_eq_some_iff, Prod.exists] at h
  obtain ⟨d, cs, hd, h⟩ := h
  obtain ⟨hvalid, hyear⟩ := valid_of_date? hd
  split at h
  · cases h
  · split at h
    · simp only [Option.bind_eq_some_iff, Prod.exists] at h
      obtain ⟨clock, _, hclock, offset, _, hoffset, h⟩ := h
      split at h
      · have hc := valid_of_clock? hclock
        have hmin := minutes_of_offset? hoffset
        obtain ⟨hday, ho, hnano, hsecond, hlt⟩ := local_of_ofLocal? hc.second h
        have hdate : t.date = d := by rw [date, hday, Date.ofDays_toDays hvalid]
        refine ⟨⟨by omega, hnano ▸ hc.nano, fun hle => ?_⟩, hdate ▸ hyear, ho ▸ hlt, ho ▸ hmin⟩
        have := hc.leap (hnano ▸ hle)
        omega
      · cases h
    · cases h

end Whole

end Timestamp

end RuleExpr
