import RuleExpr.Function
import RuleExpr.Arguments
import RuleExpr.Time.Reading

/-!
# Times

Order of instants, reading and writing in layouts, whole days between two times, and the fields of the local date and
time of day.
-/

namespace RuleExpr.TimeOperation

/-- The two arguments as times. -/
def onTimes (function : String) (op : Timestamp → Timestamp → Token) (args : List Token) : Except Error Token := do
  let (a, b) ← Arguments.two function args
  let s ← Arguments.time function a
  let t ← Arguments.time function b
  .ok (op s t)

/-- The only argument as a time. -/
def onTime (function : String) (op : Timestamp → Except Error Token) (args : List Token) : Except Error Token := do
  let a ← Arguments.one function args
  let t ← Arguments.time function a
  op t

/-- Whether a time is neither before the second nor after the third. -/
def inRange (args : List Token) : Except Error Token := do
  let (a, b, c) ← Arguments.three "betweenTimes" args
  let t ← Arguments.time "betweenTimes" a
  let lo ← Arguments.time "betweenTimes" b
  let hi ← Arguments.time "betweenTimes" c
  .ok (.boolean (lo.compare t != .gt && t.compare hi != .gt))

/-- The time that a text writes in RFC 3339. -/
def parsed (args : List Token) : Except Error Token := do
  let a ← Arguments.one "parseTime" args
  let text ← Arguments.string "parseTime" a
  match Timestamp.parse? text with
  | some t => .ok (.time t)
  | none => .error (.invalidArgument (.notATime text))

/-- The time that a text writes in a layout. -/
def parsedBy (args : List Token) : Except Error Token := do
  let (a, b) ← Arguments.two "parseTime" args
  let text ← Arguments.string "parseTime" a
  let layout ← Arguments.string "parseTime" b
  match Timestamp.parseLayout? text layout with
  | some t => .ok (.time t)
  | none => .error (.invalidArgument (.layoutMismatch text layout))

/-- The text of a time in a layout. -/
def formatted (t : Timestamp) (layout : String) : Except Error String :=
  match t.format? layout with
  | some text => .ok text
  | none => .error (.invalidArgument (.invalidLayout layout))

/-- The text of a time in a layout. -/
def rendered (args : List Token) : Except Error Token := do
  let (a, b) ← Arguments.two "formatTime" args
  let t ← Arguments.time "formatTime" a
  let layout ← Arguments.string "formatTime" b
  let text ← formatted t layout
  .ok (.string text)

/-- Whether a time in a layout is an expected text. -/
def rendersAs (args : List Token) : Except Error Token := do
  let (a, b, c) ← Arguments.three "matchTime" args
  let t ← Arguments.time "matchTime" a
  let layout ← Arguments.string "matchTime" b
  let expected ← Arguments.string "matchTime" c
  let text ← formatted t layout
  .ok (.boolean (text == expected))

/-- A time as it is shown where it has no midnight. -/
def shown (t : Timestamp) : String :=
  String.ofList
    (Timestamp.dateText t.date ++ ' ' :: Timestamp.clockText t.localClock ++ ' ' :: Layout.zoneText t.offset)

/-- The beginning of the day of a time, at its offset. -/
def midnight (t : Timestamp) : Except Error Token :=
  match t.midnight? with
  | some m => .ok (.time m)
  | none => .error (.invalidArgument (.noMidnight (shown t)))

end RuleExpr.TimeOperation

namespace RuleExpr.TimeField

/-- The name of a field. -/
def name : TimeField → String
  | hour => "hour"
  | minute => "minute"
  | month => "month"
  | monthDay => "monthDay"
  | weekDay => "weekDay"
  | year => "year"

/-- The value of a field of the local date and time of day; weeks begin on Sunday, with 0. -/
def value (t : Timestamp) : TimeField → Int
  | hour => t.localClock.hour
  | minute => t.localClock.minute
  | month => t.date.month
  | monthDay => t.date.day
  | weekDay => (t.date.weekday + 1) % 7
  | year => t.date.year

end RuleExpr.TimeField

namespace RuleExpr.TimeOperation

/-- What an operation on times gives. -/
def run : TimeOperation → List Token → Except Error Token
  | after, args => onTimes "after" (fun s t => .boolean (s.compare t == .gt)) args
  | before, args => onTimes "before" (fun s t => .boolean (s.compare t == .lt)) args
  | .between, args => inRange args
  | .parse, args => parsed args
  | .parseLayout, args => parsedBy args
  | .format, args => rendered args
  | .matchesLayout, args => rendersAs args
  | days, args => onTimes "days" (fun s t => .decimal (.ofInt (t.daysSince s))) args
  | .date, args => onTime "date" midnight args
  | field f, args => onTime f.name (fun t => .ok (.decimal (.ofInt (f.value t)))) args

/-- The part of the catalogue for times, in order of registration. -/
def catalogue : List Function :=
  let entry (signature : Signature) (op : TimeOperation) : Function := ⟨signature, .builtin (.time op)⟩
  let t := Kind.time
  let s := Kind.string
  let b := Kind.boolean
  let d := Kind.decimal
  let fieldEntry (f : TimeField) (description : String) : Function :=
    entry ⟨f.name, [t], false, d, description, s!"({f.name} (. Created))"⟩ (field f)
  [entry ⟨"after", [t, t], false, b, "Whether the first time is later than the second",
      "(after (. Shipped) (. Ordered))"⟩ after,
    entry ⟨"before", [t, t], false, b, "Whether the first time is earlier than the second",
      "(before (. Ordered) (. Shipped))"⟩ before,
    entry ⟨"betweenTimes", [t, t, t], false, b,
      "Whether the first time lies within the inclusive range of the other two",
      "(betweenTimes (. At) (. Open) (. Close))"⟩ .between,
    entry ⟨"parseTime", [s], false, t, "Time from RFC 3339 text", "(parseTime \"2024-03-01T10:00:00Z\")"⟩ .parse,
    entry ⟨"parseTime", [s, s], false, t, "Time from text in a strftime layout",
      "(parseTime \"01/03/2024\" \"%d/%m/%Y\")"⟩ .parseLayout,
    entry ⟨"formatTime", [t, s], false, s, "Time rendered with a strftime layout",
      "(formatTime (. Created) \"%Y-%m-%d\")"⟩ .format,
    entry ⟨"matchTime", [t, s, s], false, b, "Whether the time rendered with the layout equals the expected text",
      "(matchTime (. Created) \"%m\" \"03\")"⟩ .matchesLayout,
    entry ⟨"days", [t, t], false, d, "Whole days from the first time to the second",
      "(days (. Ordered) (. Shipped))"⟩ days,
    entry ⟨"date", [t], false, t, "Midnight of the same day in the same offset", "(date (. Created))"⟩ .date,
    fieldEntry .hour "Hour of the day, 0 to 23", fieldEntry .minute "Minute of the hour",
    fieldEntry .month "Month of the year, 1 to 12", fieldEntry .monthDay "Day of the month",
    fieldEntry .weekDay "Day of the week, 0 for Sunday", fieldEntry .year "Calendar year"]

end RuleExpr.TimeOperation
