/-!
# The Gregorian calendar

Dates of the proleptic Gregorian calendar, counted in days from 1970-01-01.

- `Date.toDays` and `Date.ofDays` go between a date and its day number;
- `Date.ofOrdinal?`, `Date.ofIsoWeek?` and `Date.ofWeek?` read the other ways of naming a day;
- `Date.weekday`, `Date.ordinal`, `Date.isoWeek` and `Date.weekFrom` are the fields that a layout shows.

Years run from `leastYear` to `greatestYear`.
-/

namespace RuleExpr

/-- A day of the calendar. -/
structure Date where
  year : Int
  month : Nat
  day : Nat
  deriving DecidableEq

namespace Date

/-- The first year that is counted. -/
def leastYear : Int := -262143

/-- The last year that is counted. -/
def greatestYear : Int := 262142

/-- Every fourth year is a leap year, but of the full centuries only every fourth. -/
def isLeap (year : Int) : Bool := year % 4 == 0 && (year % 100 != 0 || year % 400 == 0)

/-- The lengths of the twelve months. -/
def monthLengths (year : Int) : List Nat :=
  [31, if isLeap year then 29 else 28, 31, 30, 31, 30, 31, 31, 30, 31, 30, 31]

/-- The number of days of a year. -/
def yearLength (year : Int) : Nat := if isLeap year then 366 else 365

/-- Days from 0001-01-01 to the first day of the year. -/
def daysBeforeYear (year : Int) : Int :=
  let y := year - 1
  365 * y + y / 4 - y / 100 + y / 400

/-- Days from 0001-01-01 to 1970-01-01. -/
def epoch : Int := 719162

/-- The date with the given fields, if it exists. -/
def ofFields? (year : Int) (month day : Nat) : Option Date :=
  match (monthLengths year)[month - 1]? with
  | some n =>
    if leastYear ≤ year ∧ year ≤ greatestYear ∧ 1 ≤ month ∧ 1 ≤ day ∧ day ≤ n then some ⟨year, month, day⟩ else none
  | none => none

/-- The day of the year, from 1. -/
def ordinal (d : Date) : Nat := ((monthLengths d.year).take (d.month - 1)).foldl (· + ·) 0 + d.day

/-- The number of the day, 0 for 1970-01-01. -/
def toDays (d : Date) : Int := daysBeforeYear d.year + d.ordinal - 1 - epoch

/-- The month and day of the month at `rest` days after the first day of `month`; `lengths` are those of the months
from `month` on. -/
def monthOf (month : Nat) : List Nat → Nat → Nat × Nat
  | [], rest => (month, rest + 1)
  | n :: lengths, rest => if rest < n then (month, rest + 1) else monthOf (month + 1) lengths (rest - n)

/-- The year and the day of the year, from 0, of a number of days after 0001-01-01. -/
def yearOf (days : Int) : Int × Nat :=
  let n400 := days / 146097
  let r400 := days % 146097
  let n100 := min 3 (r400 / 36524)
  let r100 := r400 - n100 * 36524
  let n4 := r100 / 1461
  let r4 := r100 % 1461
  let n1 := min 3 (r4 / 365)
  (400 * n400 + 100 * n100 + 4 * n4 + n1 + 1, (r4 - n1 * 365).toNat)

/-- The date with the given day number. -/
def ofDays (n : Int) : Date :=
  match yearOf (n + epoch) with
  | (year, rest) =>
    match monthOf 1 (monthLengths year) rest with
    | (month, day) => ⟨year, month, day⟩

/-- The day number is that of a counted year. -/
def inRange (n : Int) : Bool := leastYear ≤ (ofDays n).year && (ofDays n).year ≤ greatestYear

/-- The date with the given day of the year. -/
def ofOrdinal? (year : Int) (ordinal : Nat) : Option Date :=
  if leastYear ≤ year ∧ year ≤ greatestYear ∧ 1 ≤ ordinal ∧ ordinal ≤ yearLength year then
    match monthOf 1 (monthLengths year) (ordinal - 1) with
    | (month, day) => some ⟨year, month, day⟩
  else none

/-! ## Weeks -/

/-- The day of the week of a day number, 0 for Monday. -/
def weekdayOf (n : Int) : Nat := ((n + 3) % 7).toNat

/-- The day of the week, 0 for Monday. -/
def weekday (d : Date) : Nat := weekdayOf d.toDays

/-- The days from the last day of the week `start` up to the day of the week `w`. -/
def daysSince (w start : Nat) : Nat := (w + 7 - start) % 7

/-- The week of the year when week 1 begins on the year's first day of the week `start`. -/
def weekFrom (start : Nat) (d : Date) : Nat := (d.ordinal + 6 - daysSince d.weekday start) / 7

/-- The ISO year and week: a week belongs to the year of its Thursday. -/
def isoWeek (d : Date) : Int × Nat :=
  let thursday := ofDays (d.toDays - d.weekday + 3)
  (thursday.year, (thursday.ordinal - 1) / 7 + 1)

/-- The day of an ISO year, week and day of the week, if the year has that week. -/
def ofIsoWeek? (year : Int) (week weekday : Nat) : Option Date :=
  let january4 := (Date.mk year 1 4)
  let monday := january4.toDays - january4.weekday
  let n := monday + 7 * ((week : Int) - 1) + weekday
  let d := ofDays n
  if 1 ≤ week ∧ (isoWeek d).1 = year ∧ inRange n then some d else none

/-- The day of a year, week and day of the week, when week 1 begins on the first day of the week `start`. -/
def ofWeek? (start : Nat) (year : Int) (week weekday : Nat) : Option Date :=
  (ofOrdinal? year 1).bind fun first =>
    let ordinal : Int := 1 + daysSince start first.weekday + ((week : Int) - 1) * 7 + daysSince weekday start
    if week > 53 ∨ ordinal ≤ 0 then none else ofOrdinal? year ordinal.toNat

/-- The quarter of the year, from 1. -/
def quarter (d : Date) : Nat := (d.month - 1) / 3 + 1

end Date

end RuleExpr
