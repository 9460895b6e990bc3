import RuleExpr.Time.Reading
import RuleExpr.Proofs.Time.Rfc3339

/-!
# Times that layouts read

A timestamp is regular when its clock is one of the day and its offset is a number of whole minutes below a day
(`Timestamp.Regular`); it is printable if moreover its year has four digits (`printable_iff`).

The fields that a layout reads are bounded (`Fields.Bounded`): each setter checks its number, and so does every reader
of an offset. The bound is kept by one item (`bounded_simpleItem?`), so by a whole layout (`bounded_items?`), and
bounded fields make clocks of the day (`valid_local?`). **Whatever a layout reads is regular**
(`regular_of_parseLayout?`), in any year that is counted.
-/

namespace RuleExpr

namespace Timestamp

/-- A timestamp in any year: the format shows its clock and its offset exactly. -/
structure Regular (t : Timestamp) : Prop where
  clock : t.clock.Valid
  offset : t.offset.natAbs < 86400
  minutes : t.offset % 60 = 0

variable {t m : Timestamp} {day offset : Int} {clock : Clock}

theorem printable_iff : t.Printable ↔ t.Regular ∧ 0 ≤ t.date.year ∧ t.date.year ≤ 9999 := by
  constructor
  · intro h
    exact ⟨⟨h.clock, h.offset, h.minutes⟩, h.year⟩
  · rintro ⟨h, hy⟩
    exact ⟨h.clock, hy, h.offset, h.minutes⟩

/-- Whole minutes of an offset leave the second of the minute, and so the leap seconds, where they are. -/
theorem regular_of_ofLocal? (hc : clock.Valid) (hm : offset % 60 = 0) (h : ofLocal? day clock offset = some t) :
    t.Regular := by
  obtain ⟨-, ho, hnano, hsecond, hlt⟩ := local_of_ofLocal? hc.second h
  constructor
  · constructor
    · omega
    · rw [hnano]
      exact hc.nano
    · intro hle
      have := hc.leap (hnano ▸ hle)
      omega
  · rw [ho]
    exact hlt
  · rw [ho]
    exact hm

theorem valid_midnight : (Clock.mk 0 0).Valid := by
  constructor <;> decide

/-- The beginning of a day is as regular as any other time of it. -/
theorem regular_of_midnight? (ht : t.Regular) (h : t.midnight? = some m) : m.Regular :=
  regular_of_ofLocal? valid_midnight ht.minutes h

end Timestamp

/-! ## Bounded fields -/

namespace Fields

/-- The fields of a time of day and the offset are in their ranges. -/
structure Bounded (f : Fields) : Prop where
  halfDay : ∀ n ∈ f.halfDay, n ≤ 1
  hourOfHalf : ∀ n ∈ f.hourOfHalf, n < 12
  minute : ∀ n ∈ f.minute, n < 60
  second : ∀ n ∈ f.second, n ≤ 60
  nanosecond : ∀ n ∈ f.nanosecond, n < Clock.nanosPerSecond
  offset : ∀ n ∈ f.offset, n % 60 = 0

variable {f f' : Fields} {n : Int}

theorem bounded_empty : ({} : Fields).Bounded := by
  constructor <;> exact fun _ h => nomatch h

/-- A field has the value that was read last. -/
theorem eq_of_agree {α : Type} [DecidableEq α] {old new' : Option α} {new : α} (h : agree old new = some new') :
    new' = some new := by
  unfold agree at h
  split at h
  · exact (Option.some.inj h).symm
  · split at h
    · exact (Option.some.inj h).symm
    · cases h

/-- A setter checks the number, and then puts it into its field. -/
theorem exists_of_set {α : Type} [DecidableEq α] {p : Prop} [Decidable p] {old : Option α} {new : α}
    {put : Option α → Fields} (h : (if p then (agree old new).map put else none) = some f') :
    p ∧ f' = put (some new) := by
  split at h
  · next hp =>
    obtain ⟨new', hnew, rfl⟩ := Option.map_eq_some_iff.1 h
    exact ⟨hp, by rw [eq_of_agree hnew]⟩
  · cases h

namespace Bounded

theorem setHalfDay? (hf : f.Bounded) (h : f.setHalfDay? n = some f') : f'.Bounded := by
  obtain ⟨hp, rfl⟩ := exists_of_set h
  refine { hf with halfDay := ?_ }
  rintro _ ⟨⟩
  omega

theorem setDialHour? (hf : f.Bounded) (h : f.setDialHour? n = some f') : f'.Bounded := by
  obtain ⟨hp, rfl⟩ := exists_of_set h
  refine { hf with hourOfHalf := ?_ }
  rintro _ ⟨⟩
  omega

theorem setHour? (hf : f.Bounded) (h : f.setHour? n = some f') : f'.Bounded := by
  unfold Fields.setHour? at h
  split at h
  · next hp =>
    simp only [bind, Option.bind_eq_some_iff] at h
    obtain ⟨halfDay, hhalf, hour, hhour, he⟩ := h
    cases he
    refine { hf with halfDay := ?_, hourOfHalf := ?_ }
    · rw [eq_of_agree hhalf]
      rintro _ ⟨⟩
      omega
    · rw [eq_of_agree hhour]
      rintro _ ⟨⟩
      omega
  · cases h

theorem setMinute? (hf : f.Bounded) (h : f.setMinute? n = some f') : f'.Bounded := by
  obtain ⟨hp, rfl⟩ := exists_of_set h
  refine { hf with minute := ?_ }
  rintro _ ⟨⟩
  omega

theorem setSecond? (hf : f.Bounded) (h : f.setSecond? n = some f') : f'.Bounded := by
  obtain ⟨hp, rfl⟩ := exists_of_set h
  refine { hf with second := ?_ }
  rintro _ ⟨⟩
  omega

theorem setNanosecond? (hf : f.Bounded) (h : f.setNanosecond? n = some f') : f'.Bounded := by
  obtain ⟨hp, rfl⟩ := exists_of_set h
  refine { hf with nanosecond := ?_ }
  rintro _ ⟨⟩
  omega

theorem setOffset? (hf : f.Bounded) (hn : n % 60 = 0) (h : f.setOffset? n = some f') : f'.Bounded := by
  obtain ⟨new, hnew, rfl⟩ := Option.map_eq_some_iff.1 h
  rw [eq_of_agree hnew]
  refine { hf with offset := ?_ }
  rintro _ ⟨⟩
  exact hn

/-- The weekday is not one of the bounded fields. -/
theorem setWeekday? (hf : f.Bounded) (h : f.setWeekday? n = some f') : f'.Bounded := by
  obtain ⟨-, rfl⟩ := exists_of_set h
  exact { hf with }

end Bounded

open Layout

/-- **Every setter keeps the fields bounded**, those of other fields because they leave the bounded ones alone. -/
theorem bounded_setField? (field : Field) (hf : f.Bounded) (h : setField? field n f = some f') : f'.Bounded := by
  cases field
  case hour => exact hf.setHour? h
  case hour12 => exact hf.setDialHour? h
  case minute => exact hf.setMinute? h
  case second => exact hf.setSecond? h
  case nanosecond => exact hf.setNanosecond? h
  case weekdayFromSunday =>
    simp only [setField?] at h
    split at h
    · exact hf.setWeekday? h
    · cases h
  case weekdayFromMonday => exact hf.setWeekday? h
  case unixSeconds =>
    obtain ⟨_, -, rfl⟩ := Option.map_eq_some_iff.1 h
    exact { hf with }
  all_goals
    obtain ⟨-, rfl⟩ := exists_of_set h
    exact { hf with }

/-! ## Items -/

section Items

variable {cs rest : List Char}

/-- Hours alone are whole minutes as well. -/
theorem minutes_of_looseOffset? (h : looseOffset? cs = some (n, rest)) : n % 60 = 0 := by
  unfold looseOffset? at h
  split at h
  · next r hr =>
    cases h
    exact Timestamp.minutes_of_offset? hr
  · simp only [bind, Option.bind_eq_some_iff, Prod.exists] at h
    obtain ⟨negative, _, -, hours, _, -, _, -, h⟩ := h
    split at h
    · cases h
      split <;> omega
    · cases h

theorem minutes_of_universalOrOffset? (h : universalOrOffset? cs = some (n, rest)) : n % 60 = 0 := by
  unfold universalOrOffset? at h
  split at h
  · cases h
    rfl
  · exact Timestamp.minutes_of_offset? h

/-- One item keeps the fields bounded. -/
theorem bounded_simpleItem? {item : Item} (hf : f.Bounded) (h : simpleItem? item f cs = some (f', rest)) :
    f'.Bounded := by
  cases item with
  | literal text =>
    simp only [simpleItem?] at h
    split at h
    · cases h
      exact hf
    · cases h
  | blank text =>
    cases h
    exact hf
  | number field pad =>
    simp only [simpleItem?, bind, Option.bind_eq_some_iff, Prod.exists] at h
    obtain ⟨_, _, -, _, hset, he⟩ := h
    cases he
    exact bounded_setField? field hf hset
  | monthName long =>
    simp only [simpleItem?, bind, Option.bind_eq_some_iff, Prod.exists] at h
    obtain ⟨_, _, -, _, hset, he⟩ := h
    cases he
    exact bounded_setField? .month hf hset
  | weekdayName long =>
    simp only [simpleItem?, bind, Option.bind_eq_some_iff, Prod.exists] at h
    obtain ⟨_, _, -, _, hset, he⟩ := h
    cases he
    exact hf.setWeekday? hset
  | halfDay upper =>
    simp only [simpleItem?, bind, Option.bind_eq_some_iff, Prod.exists] at h
    obtain ⟨_, _, -, _, hset, he⟩ := h
    cases he
    exact hf.setHalfDay? hset
  | fraction =>
    simp only [simpleItem?] at h
    split at h
    · simp only [bind, Option.bind_eq_some_iff, Prod.exists] at h
      obtain ⟨_, _, -, _, hset, he⟩ := h
      cases he
      exact hf.setNanosecond? hset
    · cases h
      exact hf
  | fixedFraction digits point =>
    simp only [simpleItem?] at h
    split at h
    · simp only [bind, Option.bind_eq_some_iff, Prod.exists] at h
      obtain ⟨_, _, -, _, hset, he⟩ := h
      cases he
      exact hf.setNanosecond? hset
    · cases h
      exact hf
    · simp only [bind, Option.bind_eq_some_iff, Prod.exists] at h
      obtain ⟨_, _, -, _, hset, he⟩ := h
      cases he
      exact hf.setNanosecond? hset
  | zoneName =>
    cases h
    exact hf
  | offset style =>
    simp only [simpleItem?, bind, Option.bind_eq_some_iff, Prod.exists] at h
    obtain ⟨_, _, ho, _, hset, he⟩ := h
    cases he
    exact hf.setOffset? (Timestamp.minutes_of_signedOffset? ho) hset
  | looseOffset =>
    simp only [simpleItem?, bind, Option.bind_eq_some_iff, Prod.exists] at h
    obtain ⟨_, _, ho, _, hset, he⟩ := h
    cases he
    exact hf.setOffset? (minutes_of_looseOffset? ho) hset
  | rfc3339 => cases h

theorem bounded_simpleItems? {items : List Item} (hf : f.Bounded) (h : simpleItems? items f cs = some (f', rest)) :
    f'.Bounded := by
  induction items generalizing f cs with
  | nil =>
    cases h
    exact hf
  | cons item items ih =>
    simp only [simpleItems?, bind, Option.bind_eq_some_iff, Prod.exists] at h
    obtain ⟨_, _, hitem, h⟩ := h
    exact ih (bounded_simpleItem? hf hitem) h

theorem bounded_looseRfc3339? (hf : f.Bounded) (h : looseRfc3339? f cs = some (f', rest)) : f'.Bounded := by
  simp only [looseRfc3339?, bind, Option.bind_eq_some_iff, Prod.exists] at h
  obtain ⟨_, _, hdate, h⟩ := h
  split at h
  · cases h
  · split at h
    · simp only [Option.bind_eq_some_iff, Prod.exists] at h
      obtain ⟨_, _, hclock, _, _, ho, _, hset, he⟩ := h
      cases he
      have hbounded := bounded_simpleItems? (bounded_simpleItems? hf hdate) hclock
      exact hbounded.setOffset? (minutes_of_universalOrOffset? ho) hset
    · cases h

/-- So does a layout, by induction on its items. -/
theorem bounded_items? {items : List Item} (hf : f.Bounded) (h : items? items f cs = some (f', rest)) :
    f'.Bounded := by
  induction items generalizing f cs with
  | nil =>
    cases h
    exact hf
  | cons item items ih =>
    simp only [items?, bind] at h
    split at h
    · obtain ⟨r, hitem, h⟩ := Option.bind_eq_some_iff.1 h
      exact ih (bounded_looseRfc3339? hf hitem) h
    · obtain ⟨r, hitem, h⟩ := Option.bind_eq_some_iff.1 h
      exact ih (bounded_simpleItem? hf hitem) h

theorem bounded_fields? {items : List Item} (h : fields? items cs = some f) : f.Bounded := by
  simp only [fields?, bind, Option.bind_eq_some_iff, Prod.exists] at h
  obtain ⟨_, rest, hitems, h⟩ := h
  split at h
  · cases h
    exact bounded_items? bounded_empty hitems
  · cases h

end Items

/-! ## Clocks and timestamps of bounded fields -/

section Clocks

variable {c : Clock} {t : Timestamp} {day unix offset : Int}

theorem valid_clock? (hf : f.Bounded) (h : f.clock? = some c) : c.Valid := by
  simp only [clock?, bind, Option.bind_eq_some_iff] at h
  obtain ⟨half, hhalf, hour, hhour, minute, hminute, h⟩ := h
  have hle := hf.halfDay half hhalf
  have hlt := hf.hourOfHalf hour hhour
  have hm := hf.minute minute hminute
  have hnano : ∀ n ∈ f.nanosecond, n < 1000000000 := hf.nanosecond
  have hrest : f.nanosecond.getD 0 < 1000000000 := by
    cases hn : f.nanosecond with
    | none => decide
    | some n => exact hnano n hn
  split at h
  · cases h
    constructor <;> simp only [Clock.nanosPerSecond] <;> omega
  · cases h
  · next s hs =>
    have hs := hf.second s hs
    cases h
    split
    · constructor <;> simp only [Clock.nanosPerSecond] <;> omega
    · constructor <;> simp only [Clock.nanosPerSecond] <;> omega

/-- The fields that seconds since 1970 add are bounded as well. -/
theorem valid_completed (hf : f.Bounded) {d : Date} {clock : Clock}
    (h : (do
      let f ← f.setYear? d.year
      let f ← f.setOrdinal? d.ordinal
      let f ← f.setHour? clock.hour
      let f ← f.setMinute? clock.minute
      let date ← f.date?
      let clock ← f.clock?
      some (date.toDays, clock)) = some (day, c)) : c.Valid := by
  simp only [bind, Option.bind_eq_some_iff] at h
  obtain ⟨f₁, h₁, f₂, h₂, f₃, h₃, f₄, h₄, _, -, c', hc, he⟩ := h
  cases he
  have hf₂ := bounded_setField? .ordinal (bounded_setField? .year hf h₁) h₂
  exact valid_clock? ((hf₂.setHour? h₃).setMinute? h₄) hc

theorem valid_ofUnix? (hf : f.Bounded) (h : f.ofUnix? unix offset = some (day, c)) : c.Valid := by
  unfold ofUnix? at h
  extract_lets counted leap seconds at h
  split at h
  · cases h
  · split at h
    · exact valid_completed hf h
    · obtain ⟨f', hsecond, h⟩ := Option.bind_eq_some_iff.1 h
      exact valid_completed (hf.setSecond? hsecond) h

theorem valid_local? (hf : f.Bounded) (h : f.local? offset = some (day, c)) : c.Valid := by
  unfold local? at h
  split at h
  · next hc =>
    split at h
    · cases h
      exact valid_clock? hf hc
    · cases h
  · split at h
    · split at h
      · cases h
      · exact valid_ofUnix? hf h
    · cases h

theorem regular_of_timestamp? (hf : f.Bounded) (h : f.timestamp? = some t) : t.Regular := by
  have hlocal {offset : Int} (hm : offset % 60 = 0)
      (h : ((f.local? offset).bind fun r => Timestamp.ofLocal? r.1 r.2 offset) = some t) : t.Regular := by
    obtain ⟨r, hr, h⟩ := Option.bind_eq_some_iff.1 h
    exact Timestamp.regular_of_ofLocal? (valid_local? hf hr) hm h
  simp only [timestamp?, bind] at h
  split at h
  · next o ho => exact hlocal (hf.offset o ho) h
  · exact hlocal rfl h
  · cases h

end Clocks

end Fields

/-- **Whatever a layout reads is regular.** -/
theorem Timestamp.regular_of_parseLayout? {text layout : String} {t : Timestamp}
    (h : parseLayout? text layout = some t) : t.Regular := by
  simp only [parseLayout?, bind, Option.bind_eq_some_iff] at h
  obtain ⟨items, -, f, hf, h⟩ := h
  have hf := Fields.bounded_fields? hf
  split at h
  · next ht =>
    cases h
    exact Fields.regular_of_timestamp? hf ht
  · split at h
    · next hlocal => exact regular_of_ofLocal? (Fields.valid_local? hf hlocal) rfl h
    · obtain ⟨d, -, h⟩ := Option.bind_eq_some_iff.1 h
      exact regular_of_ofLocal? valid_midnight rfl h

end RuleExpr
