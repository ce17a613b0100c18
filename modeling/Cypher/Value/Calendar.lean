import Cypher.Decimal

/-!
# Dates, times and durations

Temporal values and their ISO 8601 texts.
-/

namespace Cypher

/-- A day of the proleptic Gregorian calendar. -/
structure Date where
  year : Int
  month : Nat
  day : Nat
  deriving DecidableEq, Repr

/-- A time of day. From `10 ^ 9` nanoseconds on it lies in the leap second after its second. -/
structure Time where
  hour : Nat
  minute : Nat
  second : Nat
  nanosecond : Nat
  deriving DecidableEq, Repr

/-- A date and a time of day. -/
structure LocalDateTime where
  date : Date
  time : Time
  deriving DecidableEq, Repr

/-- A local date and time, so many seconds ahead of universal time. -/
structure DateTime where
  moment : LocalDateTime
  offset : Int
  deriving DecidableEq, Repr

/-- The span of `seconds + nanoseconds / 10 ^ 9` seconds. -/
structure Duration where
  seconds : Int
  nanoseconds : Nat
  deriving DecidableEq, Repr

/-- How many nanoseconds a second has. -/
def nanosPerSecond : Nat := 1000000000

/-- Four digits for the years 0 to 9999; a sign and at least four digits for all others. -/
def Date.yearChars (year : Int) : List Char :=
  if 0 ≤ year ∧ year ≤ 9999 then Decimal.padded 4 year.natAbs
  else (if year < 0 then '-' else '+') :: Decimal.padded 4 year.natAbs

/-- Year, month and day, as in `2024-02-29`. -/
def Date.chars (date : Date) : List Char :=
  yearChars date.year ++ '-' :: Decimal.padded 2 date.month ++ '-' :: Decimal.padded 2 date.day

/-- Nothing, or a point and the least of three, six and nine digits that is exact. -/
def Time.fractionChars (nanosecond : Nat) : List Char :=
  if nanosecond = 0 then []
  else if nanosecond % 1000000 = 0 then '.' :: Decimal.padded 3 (nanosecond / 1000000)
  else if nanosecond % 1000 = 0 then '.' :: Decimal.padded 6 (nanosecond / 1000)
  else '.' :: Decimal.padded 9 nanosecond

/-- Hour, minute, second and fraction, as in `23:59:60.250`. -/
def Time.chars (time : Time) : List Char :=
  Decimal.padded 2 time.hour ++ ':' :: Decimal.padded 2 time.minute ++ ':' ::
    Decimal.padded 2 (time.second + time.nanosecond / nanosPerSecond) ++
    fractionChars (time.nanosecond % nanosPerSecond)

/-- Date and time around a `T`. -/
def LocalDateTime.chars (moment : LocalDateTime) : List Char :=
  moment.date.chars ++ 'T' :: moment.time.chars

/-- The offset in whole minutes, the nearest ones, away from zero in the middle. -/
def DateTime.offsetMinutes (offset : Int) : Nat := (offset.natAbs + 30) / 60

/-- The sign, hours and minutes of an offset. -/
def DateTime.offsetChars (offset : Int) : List Char :=
  let minutes := offsetMinutes offset
  (if offset < 0 then '-' else '+') :: Decimal.padded 2 (minutes / 60) ++ ':' ::
    Decimal.padded 2 (minutes % 60)

/-- Local date and time, and the offset. -/
def DateTime.chars (moment : DateTime) : List Char :=
  moment.moment.chars ++ offsetChars moment.offset

/-- The whole span in nanoseconds. -/
def Duration.total (span : Duration) : Int :=
  span.seconds * nanosPerSecond + span.nanoseconds

/-- Nothing, or a point and nine digits without the zeros at their end. -/
def Duration.fractionChars (nanoseconds : Nat) : List Char :=
  if nanoseconds = 0 then []
  else '.' :: ((Decimal.padded 9 nanoseconds).reverse.dropWhile (· == '0')).reverse

/-- `P0D`, or a number of seconds as in `-PT0.5S`. -/
def Duration.chars (span : Duration) : List Char :=
  let total := span.total
  if total = 0 then ['P', '0', 'D']
  else
    (if total < 0 then ['-'] else []) ++ ['P', 'T'] ++
      Decimal.numeral (total.natAbs / nanosPerSecond) ++
      fractionChars (total.natAbs % nanosPerSecond) ++ ['S']

example : String.ofList (Date.chars ⟨-5, 1, 2⟩) = "-0005-01-02" := by decide +kernel
example : String.ofList (Time.chars ⟨23, 59, 59, 1250000000⟩) = "23:59:60.250" := by decide +kernel
example : String.ofList (Duration.chars ⟨-1, 500000000⟩) = "-PT0.5S" := by decide +kernel

end Cypher
