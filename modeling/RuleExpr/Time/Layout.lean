import RuleExpr.Text.Blank

/-!
# Layouts of times

A layout is a text in which `%` and a letter stand for a field of a date and time of day, blanks for any white space,
and all else for itself. `Layout.parse?` takes a layout apart into items; composite letters stand for several items. A
mark after the `%` overrides how a number is padded.
-/

namespace RuleExpr

open RuleExpr.Text

namespace Layout

/-- How a number is filled up to its width. -/
inductive Pad where
  | none
  | zero
  | space
  deriving DecidableEq

/-- The numbers of a date and time of day. -/
inductive Field where
  | year
  | century
  | yearOfCentury
  | isoYear
  | isoYearOfCentury
  | quarter
  | month
  | day
  | weekFromSunday
  | weekFromMonday
  | isoWeek
  | weekdayFromSunday
  | weekdayFromMonday
  | ordinal
  | hour
  | hour12
  | minute
  | second
  | nanosecond
  | unixSeconds
  deriving DecidableEq

/-- What of an offset is written, and how its parts are separated. -/
inductive OffsetStyle where
  | plain
  | colon
  | doubleColon
  | tripleColon
  deriving DecidableEq

/-- An item of a layout. -/
inductive Item where
  | literal (text : List Char)
  | blank (text : List Char)
  | number (field : Field) (pad : Pad)
  | monthName (long : Bool)
  | weekdayName (long : Bool)
  | halfDay (upper : Bool)
  | fraction
  | fixedFraction (digits : Nat) (point : Bool)
  | zoneName
  | offset (style : OffsetStyle)
  | looseOffset
  | rfc3339
  deriving DecidableEq

/-- The numbers that one letter stands for, padded with zeros unless said otherwise. -/
def numberOf? : Char → Option Item
  | 'C' => some (.number .century .zero)
  | 'G' => some (.number .isoYear .zero)
  | 'H' => some (.number .hour .zero)
  | 'I' => some (.number .hour12 .zero)
  | 'M' => some (.number .minute .zero)
  | 'S' => some (.number .second .zero)
  | 'U' => some (.number .weekFromSunday .zero)
  | 'V' => some (.number .isoWeek .zero)
  | 'W' => some (.number .weekFromMonday .zero)
  | 'Y' => some (.number .year .zero)
  | 'd' => some (.number .day .zero)
  | 'e' => some (.number .day .space)
  | 'f' => some (.number .nanosecond .zero)
  | 'g' => some (.number .isoYearOfCentury .zero)
  | 'j' => some (.number .ordinal .zero)
  | 'k' => some (.number .hour .space)
  | 'l' => some (.number .hour12 .space)
  | 'm' => some (.number .month .zero)
  | 'q' => some (.number .quarter .none)
  | 's' => some (.number .unixSeconds .none)
  | 'u' => some (.number .weekdayFromMonday .none)
  | 'w' => some (.number .weekdayFromSunday .none)
  | 'y' => some (.number .yearOfCentury .zero)
  | _ => none

/-- Month, day and year of the century with slashes between them. -/
def slashDate : List Item :=
  [.number .month .zero, .literal ['/'], .number .day .zero, .literal ['/'], .number .yearOfCentury .zero]

/-- Hour, minute and second with colons between them. -/
def colonClock : List Item :=
  [.number .hour .zero, .literal [':'], .number .minute .zero, .literal [':'], .number .second .zero]

/-- What a letter stands for, numbers apart. -/
def othersOf? : Char → Option (List Item)
  | 'A' => some [.weekdayName true]
  | 'B' => some [.monthName true]
  | 'D' | 'x' => some slashDate
  | 'F' => some
    [.number .year .zero, .literal ['-'], .number .month .zero, .literal ['-'], .number .day .zero]
  | 'P' => some [.halfDay false]
  | 'R' => some [.number .hour .zero, .literal [':'], .number .minute .zero]
  | 'T' | 'X' => some colonClock
  | 'Z' => some [.zoneName]
  | 'a' => some [.weekdayName false]
  | 'b' | 'h' => some [.monthName false]
  | 'c' => some ([.weekdayName false, .blank [' '], .monthName false, .blank [' '], .number .day .space, .blank [' ']]
      ++ colonClock ++ [.blank [' '], .number .year .zero])
  | 'n' => some [.blank ['\n']]
  | 'p' => some [.halfDay true]
  | 'r' => some [.number .hour12 .zero, .literal [':'], .number .minute .zero, .literal [':'], .number .second .zero,
      .blank [' '], .halfDay true]
  | 't' => some [.blank ['\t']]
  | 'v' => some [.number .day .space, .literal ['-'], .monthName false, .literal ['-'], .number .year .zero]
  | 'z' => some [.offset .plain]
  | '+' => some [.rfc3339]
  | '%' => some [.literal ['%']]
  | _ => none

/-- The padding that a mark asks for. -/
def padOf? : Char → Option Pad
  | '-' => some .none
  | '0' => some .zero
  | '_' => some .space
  | _ => none

/-- The items after a `%`, and how many characters they take. -/
def directive? : List Char → Option (List Item × Nat)
  | ':' :: ':' :: ':' :: 'z' :: _ => some ([.offset .tripleColon], 4)
  | ':' :: ':' :: 'z' :: _ => some ([.offset .doubleColon], 3)
  | ':' :: 'z' :: _ => some ([.offset .colon], 2)
  | '.' :: '3' :: 'f' :: _ => some ([.fixedFraction 3 true], 3)
  | '.' :: '6' :: 'f' :: _ => some ([.fixedFraction 6 true], 3)
  | '.' :: '9' :: 'f' :: _ => some ([.fixedFraction 9 true], 3)
  | '.' :: 'f' :: _ => some ([.fraction], 2)
  | '3' :: 'f' :: _ => some ([.fixedFraction 3 false], 2)
  | '6' :: 'f' :: _ => some ([.fixedFraction 6 false], 2)
  | '9' :: 'f' :: _ => some ([.fixedFraction 9 false], 2)
  | '#' :: 'z' :: _ => some ([.looseOffset], 2)
  | c :: cs =>
    match padOf? c, cs with
    | some pad, d :: _ =>
      match numberOf? d with
      | some (.number field _) => some ([.number field pad], 2)
      | _ => none
    | some _, [] => none
    | none, _ =>
      match numberOf? c with
      | some item => some ([item], 1)
      | none => (othersOf? c).map (·, 1)
  | [] => none

/-- Puts a character in front of the items; a blank is joined to a blank that they begin with. -/
def cons (c : Char) (items : List Item) : List Item :=
  if isBlank c then
    match items with
    | .blank text :: rest => .blank (c :: text) :: rest
    | _ => .blank [c] :: items
  else .literal [c] :: items

/-- The items of a layout from a position on; the first `skip` characters belong to the item before. -/
def parseFrom? : Nat → List Char → Option (List Item)
  | _, [] => some []
  | skip + 1, _ :: cs => parseFrom? skip cs
  | 0, c :: cs =>
    if c = '%' then
      match directive? cs with
      | some (items, taken) => (parseFrom? taken cs).map (items ++ ·)
      | none => none
    else (parseFrom? 0 cs).map (cons c)

/-- The items of a layout, if all its directives exist. -/
def parse? (layout : String) : Option (List Item) := parseFrom? 0 layout.toList

end Layout

end RuleExpr
