import RuleExpr.Time.Layout
import RuleExpr.Time.Rfc3339

/-!
# Writing a time in a layout

Each item of a layout writes a field of the local date and time of day, or of the offset. A number is filled up to its
width; years outside 0 to 9999 have a sign. `Timestamp.format?` gives no text for a layout that does not exist.
-/

namespace RuleExpr

namespace Layout

open Decimal (digits)
open Timestamp (zeroPadded)

/-- The names of the months. -/
def monthNames : List String :=
  ["January", "February", "March", "April", "May", "June", "July", "August", "September", "October", "November",
    "December"]

/-- The names of the days of the week, from Monday. -/
def weekdayNames : List String :=
  ["Monday", "Tuesday", "Wednesday", "Thursday", "Friday", "Saturday", "Sunday"]

/-- A name, or its first three letters. -/
def nameText (long : Bool) (name : String) : List Char := if long then name.toList else name.toList.take 3

/-- Fills a text up to a width on its left; zeros go after a sign. -/
def fill (pad : Pad) (width : Nat) (sign digits : List Char) : List Char :=
  let missing := width - (sign.length + digits.length)
  match pad with
  | .none => sign ++ digits
  | .zero => sign ++ List.replicate missing '0' ++ digits
  | .space => List.replicate missing ' ' ++ sign ++ digits

/-- A number up to a width, with a minus if it is negative. -/
def numberText (pad : Pad) (width : Nat) (n : Int) : List Char :=
  fill pad width (if n < 0 then ['-'] else []) (digits n.natAbs)

/-- A two-digit number from an octet; tens beyond nine go on with the characters after `9`. -/
def twoDigits (pad : Pad) (n : Int) : List Char :=
  let v := (n % 256).toNat
  let ones := Char.ofNat ('0'.toNat + v % 10)
  match v / 10, pad with
  | 0, .none => [ones]
  | 0, .space => [' ', ones]
  | tens, _ => [Char.ofNat ('0'.toNat + tens), ones]

/-- A year: four digits, or more with a sign if it is not between 0 and 9999. -/
def yearText (pad : Pad) (year : Int) : List Char :=
  if 0 ≤ year ∧ year ≤ 9999 then numberText pad 4 year
  else fill pad 5 [Timestamp.offsetSign year] (digits year.natAbs)

/-- The hour on a dial of twelve. -/
def dialHour (hour : Nat) : Nat := if hour % 12 = 0 then 12 else hour % 12

/-- The text of a number of a timestamp. -/
def fieldText (t : Timestamp) (field : Field) (pad : Pad) : List Char :=
  let date := t.date
  let clock := t.localClock
  match field with
  | .year => yearText pad date.year
  | .century => twoDigits pad (date.year / 100)
  | .yearOfCentury => twoDigits pad (date.year % 100)
  | .isoYear => yearText pad date.isoWeek.1
  | .isoYearOfCentury => twoDigits pad (date.isoWeek.1 % 100)
  | .quarter => digits date.quarter
  | .month => twoDigits pad date.month
  | .day => twoDigits pad date.day
  | .weekFromSunday => twoDigits pad (date.weekFrom 6)
  | .weekFromMonday => twoDigits pad (date.weekFrom 0)
  | .isoWeek => twoDigits pad date.isoWeek.2
  | .weekdayFromSunday => digits ((date.weekday + 1) % 7)
  | .weekdayFromMonday => digits (date.weekday + 1)
  | .ordinal => numberText pad 3 date.ordinal
  | .hour => twoDigits pad clock.hour
  | .hour12 => twoDigits pad (dialHour clock.hour)
  | .minute => twoDigits pad clock.minute
  | .second => twoDigits pad clock.shownSecond
  | .nanosecond => numberText pad 9 clock.shownNano
  | .unixSeconds => numberText pad 9 t.unixSeconds

/-- Two digits behind a separator. -/
def minutePart (separator : List Char) (n : Nat) : List Char := separator ++ zeroPadded 2 n

/-- An offset in a style; minutes are rounded where seconds are not written. -/
def offsetText (style : OffsetStyle) (offset : Int) : List Char :=
  let seconds := offset.natAbs
  let rounded := (seconds + 30) / 60
  let sign := Timestamp.offsetSign offset
  match style with
  | .plain => sign :: zeroPadded 2 (rounded / 60) ++ minutePart [] (rounded % 60)
  | .colon => sign :: zeroPadded 2 (rounded / 60) ++ minutePart [':'] (rounded % 60)
  | .doubleColon =>
    sign :: zeroPadded 2 (seconds / 3600) ++ minutePart [':'] (seconds / 60 % 60) ++ minutePart [':'] (seconds % 60)
  | .tripleColon => sign :: zeroPadded 2 (seconds / 3600)

/-- The name of an offset as a zone: hours and minutes, and seconds if there are any. -/
def zoneText (offset : Int) : List Char :=
  let seconds := offset.natAbs
  Timestamp.offsetSign offset :: zeroPadded 2 (seconds / 3600) ++ minutePart [':'] (seconds / 60 % 60)
    ++ (if seconds % 60 = 0 then [] else minutePart [':'] (seconds % 60))

/-- The text of an item; none where an item is for reading only. -/
def itemText? (t : Timestamp) : Item → Option (List Char)
  | .literal text => some text
  | .blank text => some text
  | .number field pad => some (fieldText t field pad)
  | .monthName long => some (nameText long (monthNames[t.date.month - 1]?.getD ""))
  | .weekdayName long => some (nameText long (weekdayNames[t.date.weekday]?.getD ""))
  | .halfDay upper =>
    let name := if t.localClock.hour < 12 then "am" else "pm"
    some (if upper then name.toList.map Char.toUpper else name.toList)
  | .fraction => some (Timestamp.fractionText t.localClock.shownNano)
  | .fixedFraction digits point =>
    some ((if point then ['.'] else []) ++ zeroPadded digits (t.localClock.shownNano / Decimal.tenPow (9 - digits)))
  | .zoneName => some (zoneText t.offset)
  | .offset style => some (offsetText style t.offset)
  | .looseOffset => none
  | .rfc3339 => some (t.renderWith "+00:00".toList)

/-- The texts of the items, one after the other. -/
def itemsText? (t : Timestamp) : List Item → Option (List Char)
  | [] => some []
  | item :: items => do
    let text ← itemText? t item
    let rest ← itemsText? t items
    some (text ++ rest)

end Layout

/-- The text of a timestamp in a layout, if the layout exists. -/
def Timestamp.format? (t : Timestamp) (layout : String) : Option String := do
  let items ← Layout.parse? layout
  let text ← Layout.itemsText? t items
  some (String.ofList text)

end RuleExpr
