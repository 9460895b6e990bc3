import RuleExpr.Time.Calendar

/-!
# Points in time

A timestamp is an instant of Universal Time together with the offset of the place where it was written. Two timestamps
are at the same time exactly when their instants agree, whatever their offsets (`sameInstant`, `compare`). A leap second
is the last second of a minute with more than a whole second of nanoseconds.
-/

namespace RuleExpr

/-- A time of day: the second and the nanosecond within it; a leap second has `10 ^ 9` nanoseconds or more. -/
structure Clock where
  second : Nat
  nano : Nat
  deriving DecidableEq

namespace Clock

/-- The nanoseconds of a second, `10 ^ 9`. -/
def nanosPerSecond : Nat := 1000000000

/-- The hour of the day. -/
def hour (c : Clock) : Nat := c.second / 3600

/-- The minute of the hour. -/
def minute (c : Clock) : Nat := c.second / 60 % 60

/-- The second of the minute as it is shown, 60 for a leap second. -/
def shownSecond (c : Clock) : Nat := c.second % 60 + c.nano / nanosPerSecond

/-- The nanoseconds as they are shown, below `10 ^ 9`. -/
def shownNano (c : Clock) : Nat := c.nano % nanosPerSecond

end Clock

/-- An instant, as the day number and the clock of Universal Time, and an offset in seconds east. -/
structure Timestamp where
  day : Int
  clock : Clock
  offset : Int
  deriving DecidableEq

namespace Timestamp

/-- The instant without the offset. -/
def instant (t : Timestamp) : Int × Nat × Nat := (t.day, t.clock.second, t.clock.nano)

/-- Whether the two are at the same time. -/
def sameInstant (s t : Timestamp) : Bool := s.instant == t.instant

/-- The order of the instants. -/
def compare (s t : Timestamp) : Ordering :=
  (Ord.compare s.day t.day).then
    ((Ord.compare s.clock.second t.clock.second).then (Ord.compare s.clock.nano t.clock.nano))

instance : Ord Timestamp := ⟨compare⟩

/-! ## Local date and clock -/

/-- The second of the local day and the local day number. -/
def localSecond (t : Timestamp) : Int := t.day * 86400 + t.clock.second + t.offset

/-- The local day number. -/
def localDay (t : Timestamp) : Int := t.localSecond / 86400

/-- The local date. -/
def date (t : Timestamp) : Date := Date.ofDays t.localDay

/-- The local time of day. -/
def localClock (t : Timestamp) : Clock := ⟨(t.localSecond % 86400).toNat, t.clock.nano⟩

/-- The timestamp at a local day and clock, if the offset is less than a day and its instant is on a counted day. -/
def ofLocal? (day : Int) (clock : Clock) (offset : Int) : Option Timestamp :=
  let second := day * 86400 + clock.second - offset
  if offset.natAbs < 86400 ∧ Date.inRange (second / 86400) then
    some ⟨second / 86400, ⟨(second % 86400).toNat, clock.nano⟩, offset⟩
  else none

/-- The beginning of the local day. -/
def midnight? (t : Timestamp) : Option Timestamp := ofLocal? t.localDay ⟨0, 0⟩ t.offset

/-- The seconds from 1970-01-01T00:00:00Z, leap seconds not counted. -/
def unixSeconds (t : Timestamp) : Int := t.day * 86400 + t.clock.second

/-! ## Differences -/

/-- One second more or less for a leap second that lies between the two times of day. -/
def leapBetween (a b : Clock) : Int :=
  if a.second > b.second then (if b.nano ≥ Clock.nanosPerSecond then 1 else 0)
  else if a.second < b.second then (if a.nano ≥ Clock.nanosPerSecond then -1 else 0)
  else 0

/-- The nanoseconds from `b` to `a`. -/
def since (a b : Timestamp) : Int :=
  (a.unixSeconds - b.unixSeconds + leapBetween a.clock b.clock) * Clock.nanosPerSecond
    + ((a.clock.nano : Int) - b.clock.nano)

/-- The whole days from `b` to `a`, toward zero. -/
def daysSince (a b : Timestamp) : Int := (a.since b).tdiv (86400 * Clock.nanosPerSecond)

end Timestamp

end RuleExpr
