import RuleExpr.Time.Fields
import RuleExpr.Time.Format

/-!
# Reading a time in a layout

Each item of a layout takes characters off the text and gives fields. White space may be missing or added before
numbers and wherever the layout has a blank; names are read in any case.

- `Timestamp.parseLayout?` reads a whole text: with an offset, or without one as Universal Time, or without a time of
  day as midnight.
-/

namespace RuleExpr

open RuleExpr.Text

namespace Layout

/-- The text without white space in front. -/
def skipBlanks (cs : List Char) : List Char := cs.dropWhile isBlank

/-- Numbers that are read are below this bound, `2 ^ 63`. -/
def numberBound : Nat := 9223372036854775808

/-- Reads digits, at least `least` and at most `most` of them. -/
def number? (least most : Nat) (cs : List Char) : Option (Int × List Char) :=
  let ds := (cs.takeWhile Char.isDigit).take most
  if ds.length < least ∨ digitsValue ds ≥ numberBound then none else some (digitsValue ds, cs.drop ds.length)

/-- Reads digits, at least one of them and as many as there are. -/
def longNumber? (cs : List Char) : Option (Int × List Char) := number? 1 cs.length cs

/-- Reads a number with an optional sign; without a sign it has at most four digits. -/
def signedNumber? : List Char → Option (Int × List Char)
  | '-' :: cs => (longNumber? cs).map fun (n, rest) => (-n, rest)
  | '+' :: cs => longNumber? cs
  | cs => number? 1 4 cs

/-- The greatest number of digits of a number. -/
def Field.width : Field → Nat
  | .quarter | .weekdayFromSunday | .weekdayFromMonday => 1
  | .ordinal => 3
  | .nanosecond => 9
  | .year | .isoYear => 4
  | _ => 2

/-- Reads the digits of a number. -/
def fieldNumber? (field : Field) (cs : List Char) : Option (Int × List Char) :=
  match field with
  | .year | .isoYear => signedNumber? cs
  | .unixSeconds => longNumber? cs
  | _ => number? 1 field.width cs

/-- Gives a number that has been read to its field. -/
def setField? (field : Field) (n : Int) (f : Fields) : Option Fields :=
  match field with
  | .year => f.setYear? n
  | .century => f.setCentury? n
  | .yearOfCentury => f.setYearOfCentury? n
  | .isoYear => f.setIsoYear? n
  | .isoYearOfCentury => f.setIsoYearOfCentury? n
  | .quarter => f.setQuarter? n
  | .month => f.setMonth? n
  | .day => f.setDay? n
  | .weekFromSunday => f.setWeekFromSunday? n
  | .weekFromMonday => f.setWeekFromMonday? n
  | .isoWeek => f.setIsoWeek? n
  | .weekdayFromSunday => if n ≤ 6 then f.setWeekday? ((n + 6) % 7) else none
  | .weekdayFromMonday => f.setWeekday? (n - 1)
  | .ordinal => f.setOrdinal? n
  | .hour => f.setHour? n
  | .hour12 => f.setDialHour? n
  | .minute => f.setMinute? n
  | .second => f.setSecond? n
  | .nanosecond => f.setNanosecond? n
  | .unixSeconds => f.setUnixSeconds? n

/-! ## Names -/

/-- Whether the text begins with a name, in any case. -/
def beginsWith (name cs : List Char) : Bool :=
  (name.map Char.toLower).isPrefixOf ((cs.take name.length).map Char.toLower)

/-- Reads the first three letters of one of the names, and the rest of the name if it is there and may be. -/
def name? (long : Bool) (names : List String) (cs : List Char) : Option (Nat × List Char) :=
  (names.findIdx? fun name => beginsWith (name.toList.take 3) cs).map fun i =>
    let rest := (names[i]?.getD "").toList.drop 3
    let cs := cs.drop 3
    (i, if long && beginsWith rest cs then cs.drop rest.length else cs)

/-- Reads `am` or `pm`, in any case, as the half of the day. -/
def halfDay? (cs : List Char) : Option (Nat × List Char) :=
  if beginsWith ['a', 'm'] cs then some (0, cs.drop 2)
  else if beginsWith ['p', 'm'] cs then some (1, cs.drop 2)
  else none

/-! ## Offsets -/

/-- Skips colons and white space. -/
def skipColons (cs : List Char) : Option (List Char) := some (cs.dropWhile fun c => c == ':' || isBlank c)

/-- Reads an offset that may lack its minutes. -/
def looseOffset? (cs : List Char) : Option (Int × List Char) :=
  match Timestamp.offset? skipColons cs with
  | some r => some r
  | none => do
    let (negative, cs) ← Timestamp.sign? cs
    let (hours, cs) ← Timestamp.fixedNumber? 2 cs
    let cs ← skipColons cs
    if cs.isEmpty then some (if negative then -(hours * 3600 : Int) else hours * 3600, cs) else none

/-- Reads `UTC`, `Z` or an offset. -/
def universalOrOffset? (cs : List Char) : Option (Int × List Char) :=
  if beginsWith ['u', 't', 'c'] cs then some (0, cs.drop 3) else Timestamp.offset? skipColons cs

/-! ## Items -/

/-- Reads a fixed number of digits after the point. -/
def fixedFraction? (digits : Nat) (cs : List Char) : Option (Int × List Char) :=
  (Timestamp.fixedNumber? digits cs).map fun (n, rest) => ((n * Decimal.tenPow (9 - digits) : Nat), rest)

/-- Reads an item that stands for itself or for one field. -/
def simpleItem? (item : Item) (f : Fields) (cs : List Char) : Option (Fields × List Char) :=
  match item with
  | .literal text => if text.isPrefixOf cs then some (f, cs.drop text.length) else none
  | .blank _ => some (f, skipBlanks cs)
  | .number field _ => do
    let (n, cs) ← fieldNumber? field (skipBlanks cs)
    let f ← setField? field n f
    some (f, cs)
  | .monthName long => do
    let (i, cs) ← name? long monthNames cs
    let f ← f.setMonth? (i + 1 : Nat)
    some (f, cs)
  | .weekdayName long => do
    let (i, cs) ← name? long weekdayNames cs
    let f ← f.setWeekday? i
    some (f, cs)
  | .halfDay _ => do
    let (half, cs) ← halfDay? cs
    let f ← f.setHalfDay? half
    some (f, cs)
  | .fraction =>
    match cs with
    | '.' :: cs => do
      let (n, cs) ← Timestamp.fraction? cs
      let f ← f.setNanosecond? n
      some (f, cs)
    | _ => some (f, cs)
  | .fixedFraction digits point =>
    match point, cs with
    | true, '.' :: rest => do
      let (n, cs) ← fixedFraction? digits rest
      let f ← f.setNanosecond? n
      some (f, cs)
    | true, _ => some (f, cs)
    | false, _ => do
      let (n, cs) ← fixedFraction? digits cs
      let f ← f.setNanosecond? n
      some (f, cs)
  | .zoneName => some (f, cs.dropWhile fun c => !isBlank c)
  | .offset _ => do
    let (o, cs) ← Timestamp.signedOffset? skipColons (skipBlanks cs)
    let f ← f.setOffset? o
    some (f, cs)
  | .looseOffset => do
    let (o, cs) ← looseOffset? (skipBlanks cs)
    let f ← f.setOffset? o
    some (f, cs)
  | .rfc3339 => none

/-- Reads items that stand for themselves or for one field each. -/
def simpleItems? : List Item → Fields → List Char → Option (Fields × List Char)
  | [], f, cs => some (f, cs)
  | item :: items, f, cs => do
    let (f, cs) ← simpleItem? item f cs
    simpleItems? items f cs

/-- Date items with blanks allowed around the hyphens. -/
def looseDate : List Item :=
  [.number .year .zero, .blank [], .literal ['-'], .number .month .zero, .blank [], .literal ['-'],
    .number .day .zero]

/-- Time items with blanks allowed around the colons. -/
def looseClock : List Item :=
  [.number .hour .zero, .blank [], .literal [':'], .number .minute .zero, .blank [], .literal [':'],
    .number .second .zero, .fraction, .blank []]

/-- Reads a date, a time of day and an offset in a loose form of RFC 3339. -/
def looseRfc3339? (f : Fields) (cs : List Char) : Option (Fields × List Char) := do
  let (f, cs) ← simpleItems? looseDate f cs
  match cs with
  | [] => none
  | c :: cs =>
    if c = 'T' || c = 't' || c = ' ' then do
      let (f, cs) ← simpleItems? looseClock f cs
      let (o, cs) ← universalOrOffset? (skipBlanks cs)
      let f ← f.setOffset? o
      some (f, cs)
    else none

/-- Reads the items of a layout. -/
def items? : List Item → Fields → List Char → Option (Fields × List Char)
  | [], f, cs => some (f, cs)
  | item :: items, f, cs => do
    let (f, cs) ← if item = .rfc3339 then looseRfc3339? f cs else simpleItem? item f cs
    items? items f cs

/-- The fields of a text that a layout reads as a whole. -/
def fields? (layout : List Item) (cs : List Char) : Option Fields := do
  let (f, rest) ← items? layout {} cs
  if rest.isEmpty then some f else none

end Layout

/-- The timestamp that a text writes in a layout. -/
def Timestamp.parseLayout? (text layout : String) : Option Timestamp := do
  let items ← Layout.parse? layout
  let f ← Layout.fields? items text.toList
  match f.timestamp? with
  | some t => some t
  | none =>
    match f.local? 0 with
    | some (day, clock) => Timestamp.ofLocal? day clock 0
    | none => do
      let d ← f.date?
      Timestamp.ofLocal? d.toDays ⟨0, 0⟩ 0

end RuleExpr
