import RuleExpr.Time.Timestamp
import RuleExpr.Decimal.Render
import RuleExpr.Text.Search

/-!
# Timestamps in RFC 3339

- `Timestamp.render` writes the date, `T`, the time of day with no, three, six or nine digits after the point, as few as
  show it exactly, and the offset, `Z` for none. Years outside 0 to 9999 have a sign;
- `Timestamp.parse?` reads four-digit years, `T`, `t` or a blank in the middle, any number of digits after the point
  (nine of them count), and `Z`, `z` or a signed offset of hours and minutes.
-/

namespace RuleExpr

open Decimal (digits padded)

namespace Timestamp

/-! ## Writing -/

/-- A number with zeros in front up to `width` digits. -/
def zeroPadded (width n : Nat) : List Char := padded width (digits n)

/-- A year: four digits, or more with a sign in front if it is not between 0 and 9999. -/
def yearText (year : Int) : List Char :=
  if 0 ≤ year ∧ year ≤ 9999 then zeroPadded 4 year.toNat
  else (if year < 0 then '-' else '+') :: zeroPadded 4 year.natAbs

/-- The digits after the point of a second, in groups of three, as few as show it exactly. -/
def fractionText (nano : Nat) : List Char :=
  if nano = 0 then []
  else if nano % 1000000 = 0 then '.' :: zeroPadded 3 (nano / 1000000)
  else if nano % 1000 = 0 then '.' :: zeroPadded 6 (nano / 1000)
  else '.' :: zeroPadded 9 nano

/-- The sign of an offset. -/
def offsetSign (offset : Int) : Char := if offset < 0 then '-' else '+'

/-- An offset as a sign, hours and minutes, rounded to the nearest minute. -/
def offsetText (offset : Int) : List Char :=
  let minutes := (offset.natAbs + 30) / 60
  offsetSign offset :: zeroPadded 2 (minutes / 60) ++ ':' :: zeroPadded 2 (minutes % 60)

/-- A date as year, month and day. -/
def dateText (d : Date) : List Char :=
  yearText d.year ++ '-' :: zeroPadded 2 d.month ++ '-' :: zeroPadded 2 d.day

/-- A time of day as hours, minutes and seconds. -/
def clockText (c : Clock) : List Char :=
  zeroPadded 2 c.hour ++ ':' :: zeroPadded 2 c.minute ++ ':' :: zeroPadded 2 c.shownSecond ++ fractionText c.shownNano

/-- The local date and time of day, and the offset. -/
def renderWith (zero : List Char) (t : Timestamp) : List Char :=
  dateText t.date ++ 'T' :: clockText t.localClock ++ (if t.offset = 0 then zero else offsetText t.offset)

/-- The text of a timestamp. -/
def render (t : Timestamp) : String := String.ofList (renderWith ['Z'] t)

/-! ## Reading -/

/-- Reads exactly `width` digits. -/
def fixedNumber? (width : Nat) (cs : List Char) : Option (Nat × List Char) :=
  if (cs.take width).length = width ∧ (cs.take width).all Char.isDigit then
    some (Text.digitsValue (cs.take width), cs.drop width)
  else none

/-- Reads one given character. -/
def expect? (c : Char) : List Char → Option (List Char)
  | [] => none
  | d :: cs => if d = c then some cs else none

/-- Reads the digits after a point as nanoseconds; digits beyond the ninth do not count. -/
def fraction? (cs : List Char) : Option (Nat × List Char) :=
  let ds := cs.takeWhile Char.isDigit
  if ds.isEmpty then none
  else some (Text.digitsValue (ds.take 9) * Decimal.tenPow (9 - ds.length), cs.dropWhile Char.isDigit)

/-- Reads a sign; a minus may also be written with the character U+2212. -/
def sign? : List Char → Option (Bool × List Char)
  | [] => none
  | c :: cs =>
    if c = '+' then some (false, cs) else if c = '-' || c = Char.ofNat 0x2212 then some (true, cs) else none

/-- Reads a signed offset as seconds, where `between` reads what stands between hours and minutes. -/
def signedOffset? (between : List Char → Option (List Char)) (cs : List Char) : Option (Int × List Char) := do
  let (negative, cs) ← sign? cs
  let (hours, cs) ← fixedNumber? 2 cs
  let cs ← between cs
  let (minutes, cs) ← fixedNumber? 2 cs
  if minutes < 60 then
    let seconds : Int := hours * 3600 + minutes * 60
    some (if negative then -seconds else seconds, cs)
  else none

/-- Reads `Z`, `z` or a signed offset. -/
def offset? (between : List Char → Option (List Char)) (cs : List Char) : Option (Int × List Char) :=
  match cs with
  | c :: rest => if c = 'Z' || c = 'z' then some (0, rest) else signedOffset? between cs
  | [] => none

/-- A clock from its fields; the second 60 is a leap second. -/
def clockOf? (hour minute second nano : Nat) : Option Clock :=
  if hour < 24 ∧ minute < 60 ∧ second ≤ 60 then
    some (if second = 60 then ⟨hour * 3600 + minute * 60 + 59, Clock.nanosPerSecond + nano⟩
      else ⟨hour * 3600 + minute * 60 + second, nano⟩)
  else none

/-- Reads the digits after a point if there is a point. -/
def optionalFraction? : List Char → Option (Nat × List Char)
  | '.' :: cs => fraction? cs
  | cs => some (0, cs)

/-- Reads a date written as year, month and day. -/
def date? (cs : List Char) : Option (Date × List Char) := do
  let (year, cs) ← fixedNumber? 4 cs
  let cs ← expect? '-' cs
  let (month, cs) ← fixedNumber? 2 cs
  let cs ← expect? '-' cs
  let (day, cs) ← fixedNumber? 2 cs
  let d ← Date.ofFields? year month day
  some (d, cs)

/-- Reads a time of day. -/
def clock? (cs : List Char) : Option (Clock × List Char) := do
  let (hour, cs) ← fixedNumber? 2 cs
  let cs ← expect? ':' cs
  let (minute, cs) ← fixedNumber? 2 cs
  let cs ← expect? ':' cs
  let (second, cs) ← fixedNumber? 2 cs
  let (nano, cs) ← optionalFraction? cs
  let c ← clockOf? hour minute second nano
  some (c, cs)

/-- The timestamp that the whole text writes. -/
def ofChars? (cs : List Char) : Option Timestamp := do
  let (d, cs) ← date? cs
  match cs with
  | [] => none
  | c :: cs =>
    if c = 'T' || c = 't' || c = ' ' then
      let (clock, cs) ← clock? cs
      let (offset, cs) ← offset? (expect? ':') cs
      if cs.isEmpty then ofLocal? d.toDays clock offset else none
    else none

/-- The timestamp that a text writes in RFC 3339. -/
def parse? (text : String) : Option Timestamp := ofChars? text.toList

end Timestamp

end RuleExpr
