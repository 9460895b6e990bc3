import RuleExpr.Time.Timestamp

/-!
# Times from their fields

What has been read of a time, field by field. A field may be read twice if it says the same. A date is made from the
first of these that is complete: year, month and day; year and day of the year; year, week and day of the week (weeks
from Sunday, then from Monday); ISO year, week and day of the week. All fields read have to agree with it.

- `Fields.date?`, `Fields.clock?` and `Fields.local?` make a date, a time of day, and both;
- `Fields.timestamp?` needs an offset, or seconds since 1970, as well.
-/

namespace RuleExpr

/-- The fields of a time that have been read. -/
structure Fields where
  year : Option Int := none
  century : Option Int := none
  yearOfCentury : Option Int := none
  isoYear : Option Int := none
  isoYearOfCentury : Option Int := none
  quarter : Option Nat := none
  month : Option Nat := none
  weekFromSunday : Option Nat := none
  weekFromMonday : Option Nat := none
  isoWeek : Option Nat := none
  weekday : Option Nat := none
  ordinal : Option Nat := none
  day : Option Nat := none
  halfDay : Option Nat := none
  hourOfHalf : Option Nat := none
  minute : Option Nat := none
  second : Option Nat := none
  nanosecond : Option Nat := none
  unixSeconds : Option Int := none
  offset : Option Int := none

namespace Fields

/-- The value of a field after it has been read again; none if the two readings differ. -/
def agree {α : Type} [DecidableEq α] (old : Option α) (new : α) : Option (Option α) :=
  match old with
  | none => some (some new)
  | some v => if v = new then some (some new) else none

/-! ## Reading a field -/

/-- Years are 32-bit numbers: their magnitude is bounded by `2 ^ 31`. -/
def wordBound : Int := 2147483648

section

variable (f : Fields) (n : Int)

/-- Reads the year, a 32-bit number. -/
def setYear? : Option Fields :=
  if -wordBound ≤ n ∧ n < wordBound then (agree f.year n).map fun year => { f with year } else none

/-- Reads the full hundreds of the year. -/
def setCentury? : Option Fields :=
  if 0 ≤ n ∧ n < wordBound then (agree f.century n).map fun century => { f with century } else none

/-- Reads the last two digits of the year. -/
def setYearOfCentury? : Option Fields :=
  if 0 ≤ n ∧ n ≤ 99 then (agree f.yearOfCentury n).map fun yearOfCentury => { f with yearOfCentury } else none

/-- Reads the year of the ISO week. -/
def setIsoYear? : Option Fields :=
  if -wordBound ≤ n ∧ n < wordBound then (agree f.isoYear n).map fun isoYear => { f with isoYear } else none

/-- Reads the last two digits of the year of the ISO week. -/
def setIsoYearOfCentury? : Option Fields :=
  if 0 ≤ n ∧ n ≤ 99 then (agree f.isoYearOfCentury n).map fun isoYearOfCentury => { f with isoYearOfCentury }
  else none

/-- Reads the quarter, from 1. -/
def setQuarter? : Option Fields :=
  if 1 ≤ n ∧ n ≤ 4 then (agree f.quarter n.toNat).map fun quarter => { f with quarter } else none

/-- Reads the month, from 1. -/
def setMonth? : Option Fields :=
  if 1 ≤ n ∧ n ≤ 12 then (agree f.month n.toNat).map fun month => { f with month } else none

/-- Reads the week of the year, when weeks begin on Sunday. -/
def setWeekFromSunday? : Option Fields :=
  if 0 ≤ n ∧ n ≤ 53 then (agree f.weekFromSunday n.toNat).map fun weekFromSunday => { f with weekFromSunday }
  else none

/-- Reads the week of the year, when weeks begin on Monday. -/
def setWeekFromMonday? : Option Fields :=
  if 0 ≤ n ∧ n ≤ 53 then (agree f.weekFromMonday n.toNat).map fun weekFromMonday => { f with weekFromMonday }
  else none

/-- Reads the ISO week, from 1. -/
def setIsoWeek? : Option Fields :=
  if 1 ≤ n ∧ n ≤ 53 then (agree f.isoWeek n.toNat).map fun isoWeek => { f with isoWeek } else none

/-- Reads the day of the week, 0 for Monday. -/
def setWeekday? : Option Fields :=
  if 0 ≤ n ∧ n ≤ 6 then (agree f.weekday n.toNat).map fun weekday => { f with weekday } else none

/-- Reads the day of the year, from 1. -/
def setOrdinal? : Option Fields :=
  if 1 ≤ n ∧ n ≤ 366 then (agree f.ordinal n.toNat).map fun ordinal => { f with ordinal } else none

/-- Reads the day of the month, from 1. -/
def setDay? : Option Fields :=
  if 1 ≤ n ∧ n ≤ 31 then (agree f.day n.toNat).map fun day => { f with day } else none

/-- Reads the half of the day, 0 for the morning. -/
def setHalfDay? : Option Fields :=
  if 0 ≤ n ∧ n ≤ 1 then (agree f.halfDay n.toNat).map fun halfDay => { f with halfDay } else none

/-- Reads the hour on a dial of twelve, from 1. -/
def setDialHour? : Option Fields :=
  if 1 ≤ n ∧ n ≤ 12 then (agree f.hourOfHalf (n.toNat % 12)).map fun hourOfHalf => { f with hourOfHalf } else none

/-- Reads the hour of the day. -/
def setHour? : Option Fields :=
  if 0 ≤ n ∧ n ≤ 23 then do
    let halfDay ← agree f.halfDay (n.toNat / 12)
    let hourOfHalf ← agree f.hourOfHalf (n.toNat % 12)
    some { f with halfDay, hourOfHalf }
  else none

/-- Reads the minute of the hour. -/
def setMinute? : Option Fields :=
  if 0 ≤ n ∧ n ≤ 59 then (agree f.minute n.toNat).map fun minute => { f with minute } else none

/-- Reads the second, 60 for a leap second. -/
def setSecond? : Option Fields :=
  if 0 ≤ n ∧ n ≤ 60 then (agree f.second n.toNat).map fun second => { f with second } else none

/-- Reads the nanoseconds of the second. -/
def setNanosecond? : Option Fields :=
  if 0 ≤ n ∧ n < Clock.nanosPerSecond then (agree f.nanosecond n.toNat).map fun nanosecond => { f with nanosecond }
  else none

/-- Reads the seconds since 1970. -/
def setUnixSeconds? : Option Fields := (agree f.unixSeconds n).map fun unixSeconds => { f with unixSeconds }

/-- Reads the offset in seconds. -/
def setOffset? : Option Fields := (agree f.offset n).map fun offset => { f with offset }

end

/-! ## Dates -/

/-- A year from the whole of it, its century, and the year of the century; two digits alone mean 1970 to 2069. The outer
option says whether the fields fit together, the inner one whether they are enough. -/
def resolveYear (year century yearOfCentury : Option Int) : Option (Option Int) :=
  match year, century, yearOfCentury with
  | y, none, none => some y
  | some y, c, r => if 0 ≤ y ∧ c.getD (y / 100) = y / 100 ∧ r.getD (y % 100) = y % 100 then some (some y) else none
  | none, some c, some r => if c * 100 + r < wordBound then some (some (c * 100 + r)) else none
  | none, none, some r => some (some (r + if r < 70 then 2000 else 1900))
  | none, some _, none => none

/-- A field that has been read has the given value. -/
def fits {α : Type} [DecidableEq α] (field : Option α) (value : α) : Bool := field.all (· == value)

/-- The century or the year of the century agrees with a year, which must not be negative. -/
def fitsPart (field : Option Int) (year part : Int) : Bool := field.all fun v => 0 ≤ year && v == part

/-- All fields of a date that have been read agree with the date. -/
def agreesWith (f : Fields) (d : Date) : Bool :=
  fits f.year d.year && fitsPart f.century d.year (d.year / 100) && fitsPart f.yearOfCentury d.year (d.year % 100)
    && fits f.month d.month && fits f.day d.day && fits f.quarter d.quarter
    && fits f.isoYear d.isoWeek.1 && fitsPart f.isoYearOfCentury d.isoWeek.1 (d.isoWeek.1 % 100)
    && fits f.isoWeek d.isoWeek.2 && fits f.weekday d.weekday
    && fits f.ordinal d.ordinal && fits f.weekFromSunday (d.weekFrom 6) && fits f.weekFromMonday (d.weekFrom 0)

/-- The date that the first complete set of fields names. -/
def candidate? (f : Fields) (year isoYear : Option Int) : Option Date :=
  match year, f.month, f.day with
  | some y, some m, some d => Date.ofFields? y m d
  | _, _, _ =>
    match year, f.ordinal with
    | some y, some n => Date.ofOrdinal? y n
    | _, _ =>
      match year, f.weekFromSunday, f.weekday with
      | some y, some w, some d => Date.ofWeek? 6 y w d
      | _, _, _ =>
        match year, f.weekFromMonday, f.weekday with
        | some y, some w, some d => Date.ofWeek? 0 y w d
        | _, _, _ =>
          match isoYear, f.isoWeek, f.weekday with
          | some y, some w, some d => Date.ofIsoWeek? y w d
          | _, _, _ => none

/-- The date that the fields name, if they are enough and agree. -/
def date? (f : Fields) : Option Date := do
  let year ← resolveYear f.year f.century f.yearOfCentury
  let isoYear ← resolveYear f.isoYear none f.isoYearOfCentury
  let d ← f.candidate? year isoYear
  if f.agreesWith d then some d else none

/-! ## Times of day -/

/-- The time of day that the fields name: hour and minute are needed, and a second if there are nanoseconds. -/
def clock? (f : Fields) : Option Clock := do
  let half ← f.halfDay
  let hour ← f.hourOfHalf
  let minute ← f.minute
  let start := (half * 12 + hour) * 3600 + minute * 60
  match f.second, f.nanosecond with
  | none, none => some ⟨start, 0⟩
  | none, some _ => none
  | some s, nano => some (if s = 60 then ⟨start + 59, Clock.nanosPerSecond + nano.getD 0⟩ else ⟨start + s, nano.getD 0⟩)

/-! ## Dates and times together -/

/-- The seconds since 1970 that have been read agree with a local time; a leap second may count as the next one. -/
def fitsUnix (f : Fields) (day : Int) (clock : Clock) (offset : Int) : Bool :=
  let seconds := day * 86400 + clock.second - offset
  f.unixSeconds.all fun given => given == seconds || (clock.nano ≥ Clock.nanosPerSecond && given == seconds + 1)

/-- Whether the fields contradict each other or the calendar, so that seconds since 1970 cannot complete them. -/
def dateContradicts (f : Fields) : Bool :=
  match resolveYear f.year f.century f.yearOfCentury, resolveYear f.isoYear none f.isoYearOfCentury with
  | some year, some isoYear =>
    match f.candidate? year isoYear with
    | some d => !f.agreesWith d
    | none =>
      (year.isSome && ((f.month.isSome && f.day.isSome) || f.ordinal.isSome
        || ((f.weekFromSunday.isSome || f.weekFromMonday.isSome) && f.weekday.isSome)))
      || (isoYear.isSome && f.isoWeek.isSome && f.weekday.isSome)
  | _, _ => !((f.year.isNone && f.century.isSome && f.yearOfCentury.isNone))

/-- The local day and clock that seconds since 1970 give, where all other fields have to agree. A leap second is the
last second of a minute, and may be counted as the first of the next one. -/
def ofUnix? (f : Fields) (unix offset : Int) : Option (Int × Clock) := do
  let counted := unix + offset
  let leap := f.second = some 60
  let seconds := if leap ∧ counted % 60 = 0 then counted - 1 else counted
  if !Date.inRange (counted / 86400) || (leap && seconds % 60 != 59) then none
  else do
    let d := Date.ofDays (seconds / 86400)
    let clock : Clock := ⟨(seconds % 86400).toNat, 0⟩
    let f ← if leap then some f else f.setSecond? (clock.second % 60 : Nat)
    let f ← f.setYear? d.year
    let f ← f.setOrdinal? d.ordinal
    let f ← f.setHour? clock.hour
    let f ← f.setMinute? clock.minute
    let date ← f.date?
    let clock ← f.clock?
    some (date.toDays, clock)

/-- The local day and clock that the fields name, as written at an offset. -/
def local? (f : Fields) (offset : Int) : Option (Int × Clock) :=
  match f.date?, f.clock? with
  | some d, some c => if f.fitsUnix d.toDays c offset then some (d.toDays, c) else none
  | _, _ =>
    match f.unixSeconds with
    | some unix => if f.dateContradicts then none else f.ofUnix? unix offset
    | none => none

/-- The timestamp that the fields name; seconds since 1970 without an offset are Universal Time. -/
def timestamp? (f : Fields) : Option Timestamp := do
  let offset ← match f.offset, f.unixSeconds with
    | some o, _ => some o
    | none, some _ => some 0
    | none, none => none
  let (day, clock) ← f.local? offset
  Timestamp.ofLocal? day clock offset

end Fields

end RuleExpr
