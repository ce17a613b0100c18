import Cypher.Proofs.TemporalTexts

/-!
# Instants

A date and time with an offset is an instant: the local time less the offset.
Its text shows the local time to the nanosecond, but the offset in minutes, the
nearest ones. So the instant that is read from the text is off by what the
rounding adds to the offset, which is at most half a minute, and it is the right
one just when the offset is a number of minutes.

Days are numbered in the proleptic Gregorian calendar. That the number of the
following day is one more, and that of 1 January 1970 is zero, says all about
these numbers.
-/

namespace Cypher

open Temporal (number mark? ends_nil ends_cons mark?_cons number_padded)

/-! ## Days -/

namespace Date

/-- Whether a year has 366 days. -/
def isLeap (year : Int) : Bool := year % 4 = 0 && (year % 100 ≠ 0 || year % 400 = 0)

/-- How many days a month has. -/
def monthDays (year : Int) : Nat → Nat
  | 2 => if isLeap year then 29 else 28
  | 4 | 6 | 9 | 11 => 30
  | _ => 31

/-- How many days of a year are over when a month begins. -/
def daysBefore (year : Int) : Nat → Nat
  | 0 | 1 => 0
  | month + 2 => daysBefore year (month + 1) + monthDays year (month + 1)

/-- How many days there are from the year 1 to the beginning of a year. -/
def yearStart (year : Int) : Int :=
  365 * (year - 1) + (year - 1) / 4 - (year - 1) / 100 + (year - 1) / 400

/-- How many days a date is behind 1 January 1970. -/
def dayNumber (date : Date) : Int :=
  yearStart date.year + daysBefore date.year date.month + date.day - 719163

/-- A date that there is. -/
structure Real (date : Date) : Prop where
  month : 1 ≤ date.month ∧ date.month ≤ 12
  day : 1 ≤ date.day ∧ date.day ≤ monthDays date.year date.month

/-- The following day. -/
def next (date : Date) : Date :=
  if date.day < monthDays date.year date.month then { date with day := date.day + 1 }
  else if date.month < 12 then ⟨date.year, date.month + 1, 1⟩
  else ⟨date.year + 1, 1, 1⟩

theorem monthDays_pos (year : Int) (month : Nat) : 1 ≤ monthDays year month := by
  unfold monthDays
  split
  · split <;> decide
  all_goals decide

theorem Real.next {date : Date} (real : date.Real) : date.next.Real := by
  obtain ⟨⟨first, last⟩, begun, -⟩ := real
  unfold Date.next
  split_ifs with inside more
  · exact ⟨⟨first, last⟩, Nat.le_add_left 1 date.day, inside⟩
  · exact ⟨⟨Nat.le_add_left 1 date.month, more⟩, Nat.le_refl 1, monthDays_pos _ _⟩
  · exact ⟨⟨Nat.le_refl 1, Nat.le_add_left 1 11⟩, Nat.le_refl 1, monthDays_pos _ _⟩

theorem daysBefore_succ (year : Int) {month : Nat} (first : 1 ≤ month) :
    daysBefore year (month + 1) = daysBefore year month + monthDays year month := by
  cases month with
  | zero => contradiction
  | succ month => rfl

theorem yearStart_succ (year : Int) :
    yearStart (year + 1) = yearStart year + daysBefore year 12 + 31 := by
  have days : daysBefore year 12 = if isLeap year then 335 else 334 := by
    simp only [daysBefore, monthDays]
    split <;> rfl
  rw [days]
  unfold yearStart isLeap
  simp only [Bool.and_eq_true, Bool.or_eq_true, decide_eq_true_eq]
  split_ifs <;> omega

/-- The number of the following day is one more. -/
theorem dayNumber_next {date : Date} (real : date.Real) :
    date.next.dayNumber = date.dayNumber + 1 := by
  obtain ⟨⟨first, last⟩, -, within⟩ := real
  unfold next dayNumber
  split_ifs with inside more
  · dsimp only
    omega
  · have days := daysBefore_succ date.year first
    dsimp only
    omega
  · obtain december : date.month = 12 := by omega
    have days : monthDays date.year 12 = 31 := rfl
    have year := yearStart_succ date.year
    rw [december] at within inside ⊢
    dsimp only [daysBefore] at year ⊢
    omega

example : dayNumber ⟨1970, 1, 1⟩ = 0 := by decide

end Date

/-! ## Instants -/

/-- The nanoseconds since midnight. -/
def Time.nanoseconds (time : Time) : Nat :=
  ((time.hour * 60 + time.minute) * 60 + time.second) * nanosPerSecond + time.nanosecond

/-- The nanoseconds on a clock that showed midnight of 1 January 1970. -/
def LocalDateTime.nanoseconds (moment : LocalDateTime) : Int :=
  moment.date.dayNumber * (86400 * nanosPerSecond) + moment.time.nanoseconds

namespace DateTime

/-- The nanoseconds since the beginning of 1970 in universal time. -/
def instant (moment : DateTime) : Int :=
  moment.moment.nanoseconds - moment.offset * nanosPerSecond

theorem instant_withOffset (moment : LocalDateTime) (first second : Int) :
    instant ⟨moment, second⟩ = instant ⟨moment, first⟩ - (second - first) * nanosPerSecond := by
  unfold instant
  ring

example : instant ⟨⟨⟨1969, 12, 31⟩, ⟨23, 0, 0, 0⟩⟩, -3600⟩ = 0 := by decide

/-! ## Offsets -/

/-- The seconds of hours and minutes. -/
def clock? (text : List Char) : Option Nat := do
  let (hours, text) := number text
  let (minutes, rest) := number (← mark? ':' text)
  if rest = [] then some (60 * (60 * hours + minutes)) else none

/-- The offset in seconds that a text says. -/
def offset? : List Char → Option Int
  | '+' :: text => (clock? text).map fun seconds : Nat => seconds
  | '-' :: text => (clock? text).map fun seconds : Nat => -seconds
  | _ => none

/-- The whole minutes that are nearest to an offset, in seconds. -/
def wholeMinutes (offset : Int) : Int :=
  if offset < 0 then -(60 * offsetMinutes offset) else 60 * offsetMinutes offset

theorem clock?_padded (minutes : Nat) :
    clock? (Decimal.padded 2 (minutes / 60) ++ ':' :: Decimal.padded 2 (minutes % 60)) =
      some (60 * minutes) := by
  have last := number_padded 2 (minutes % 60) ends_nil
  rw [List.append_nil] at last
  rw [clock?, number_padded 2 _ (ends_cons rfl _)]
  simp only [mark?_cons, bind, Option.bind, last, if_pos, Nat.div_add_mod]

/-- The offset that is read is the one in whole minutes. -/
theorem offset?_offsetChars (offset : Int) :
    offset? (offsetChars offset) = some (wholeMinutes offset) := by
  unfold offsetChars wholeMinutes
  split_ifs with negative <;>
    simp only [List.cons_append, offset?, clock?_padded, Option.map_some, Nat.cast_mul,
      Nat.cast_ofNat]

theorem wholeMinutes_near (offset : Int) : |wholeMinutes offset - offset| ≤ 30 := by
  rw [abs_le]
  unfold wholeMinutes offsetMinutes
  split_ifs <;> omega

theorem dvd_wholeMinutes (offset : Int) : 60 ∣ wholeMinutes offset := by
  unfold wholeMinutes
  split_ifs <;> omega

theorem wholeMinutes_eq_iff (offset : Int) : wholeMinutes offset = offset ↔ 60 ∣ offset := by
  constructor
  · intro same
    rw [← same]
    exact dvd_wholeMinutes offset
  · intro whole
    unfold wholeMinutes offsetMinutes
    split_ifs <;> omega

/-- An offset of less than a day takes six characters. -/
theorem length_offsetChars {offset : Int} (within : offset.natAbs < 86400) :
    (offsetChars offset).length = 6 := by
  have hours : (Decimal.padded 2 (offsetMinutes offset / 60)).length = 2 :=
    Decimal.length_padded (by unfold offsetMinutes; omega)
  have minutes : (Decimal.padded 2 (offsetMinutes offset % 60)).length = 2 :=
    Decimal.length_padded (by omega)
  unfold offsetChars
  simp only [List.length_cons, List.length_append, hours, minutes]

/-- The date and time of a text, of which the last six characters are the offset. -/
def read? (text : List Char) : Option DateTime := do
  let moment ← LocalDateTime.read? (text.take (text.length - 6))
  let offset ← offset? (text.drop (text.length - 6))
  some ⟨moment, offset⟩

/-- From a text are read the local time as it is and the offset in whole minutes. -/
theorem read?_chars {moment : DateTime} (real : moment.moment.time.Real)
    (within : moment.offset.natAbs < 86400) :
    read? moment.chars = some ⟨moment.moment, wholeMinutes moment.offset⟩ := by
  have front : moment.chars.length - 6 = moment.moment.chars.length := by
    rw [chars, List.length_append, length_offsetChars within, Nat.add_sub_cancel]
  rw [read?, front, chars, List.take_left, List.drop_left]
  simp only [LocalDateTime.read?_chars real, offset?_offsetChars, bind, Option.bind]

end DateTime

/-! ## Serialized values -/

namespace Value

/-- From the serialized text of a date and time with an offset of less than a day are read the local
time as it is and an offset in minutes that is at most half a minute from the given one. So the
instant of the text is that of the value less what the offset gained, and it is the same instant just
when the offset is a number of minutes. -/
theorem dateTime_instant (moment : DateTime) (real : moment.moment.time.Real)
    (within : moment.offset.natAbs < 86400) :
    ∃ text shown, (dateTime moment).toJson = .string text ∧
      DateTime.read? text.toList = some shown ∧
      shown.moment = moment.moment ∧
      60 ∣ shown.offset ∧
      |shown.offset - moment.offset| ≤ 30 ∧
      shown.instant = moment.instant - (shown.offset - moment.offset) * nanosPerSecond ∧
      (shown.instant = moment.instant ↔ 60 ∣ moment.offset) := by
  have gain := DateTime.instant_withOffset moment.moment moment.offset
    (DateTime.wholeMinutes moment.offset)
  refine ⟨_, ⟨moment.moment, DateTime.wholeMinutes moment.offset⟩, rfl, ?_, rfl,
    DateTime.dvd_wholeMinutes _, DateTime.wholeMinutes_near _, gain, ?_⟩
  · rw [String.toList_ofList, DateTime.read?_chars real within]
  · have scale : (nanosPerSecond : Int) ≠ 0 := by decide
    rw [gain, sub_eq_self, mul_eq_zero, or_iff_left scale, sub_eq_zero,
      DateTime.wholeMinutes_eq_iff]

/-- An offset of nine and a half hours to the west is kept, and so is the instant. -/
theorem dateTime_instant_halfHour :
    let moment : DateTime := ⟨⟨⟨2024, 1, 2⟩, ⟨3, 4, 5, 123456000⟩⟩, -34200⟩
    moment.moment.time.Real ∧ moment.offset.natAbs < 86400 ∧
      ∃ text shown, (dateTime moment).toJson = .string text ∧
        DateTime.read? text.toList = some shown ∧ shown.instant = moment.instant := by
  intro moment
  have real : moment.moment.time.Real := ⟨by decide, by decide, by decide, by decide, by decide⟩
  have within : moment.offset.natAbs < 86400 := by decide
  obtain ⟨text, shown, written, read, -, -, -, -, same⟩ := dateTime_instant moment real within
  exact ⟨real, within, text, shown, written, read, same.mpr (by decide)⟩

/-- Noon on a clock that is 19 minutes and 32 seconds ahead is shown as noon on one that is 20 minutes
ahead, which is 28 seconds earlier. -/
theorem dateTime_instant_oddSeconds :
    let moment : DateTime := ⟨⟨⟨1930, 1, 15⟩, ⟨12, 0, 0, 0⟩⟩, 1172⟩
    moment.moment.date.Real ∧ moment.moment.time.Real ∧
      moment.moment.time.nanosecond < nanosPerSecond ∧ moment.offset.natAbs < 86400 ∧
      (dateTime moment).toJson = .string "1930-01-15T12:00:00+00:20" ∧
      ∃ shown, DateTime.read? "1930-01-15T12:00:00+00:20".toList = some shown ∧
        shown.instant = moment.instant - 28 * nanosPerSecond ∧ shown.instant ≠ moment.instant := by
  intro moment
  refine ⟨⟨by decide, by decide⟩, ⟨by decide, by decide, by decide, by decide, by decide⟩,
    by decide, by decide, ?_, ⟨moment.moment, 1200⟩, ?_, by decide, by decide⟩
  · show Json.string (String.ofList moment.chars) = _
    exact congrArg Json.string (by decide +kernel)
  · decide +kernel

/-- Two of these values have the same serialized text only if they have the same local time and
offsets less than a minute apart. So they are the same if their offsets are numbers of minutes. -/
theorem moment_eq_of_text {first second : DateTime} (real : first.moment.time.Real)
    (real' : second.moment.time.Real) (within : first.offset.natAbs < 86400)
    (within' : second.offset.natAbs < 86400)
    (same : (dateTime first).text = (dateTime second).text) :
    first.moment = second.moment ∧ |first.offset - second.offset| < 60 := by
  have chars : first.chars = second.chars := String.ofList_injective (eq_of_compact same)
  have read := DateTime.read?_chars real within
  rw [chars, DateTime.read?_chars real' within', Option.some_inj, DateTime.mk.injEq] at read
  obtain ⟨moments, offsets⟩ := read
  refine ⟨moments.symm, ?_⟩
  rw [abs_lt]
  unfold DateTime.wholeMinutes DateTime.offsetMinutes at offsets
  split_ifs at offsets <;> omega

end Value

end Cypher
