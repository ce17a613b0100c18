import Cypher.Proofs.WrittenJson
import Mathlib.Data.List.TakeWhile
import Mathlib.Data.Rat.Defs
import Mathlib.Tactic.FieldSimp
import Mathlib.Tactic.Ring
import Mathlib.Tactic.Linarith

/-!
# Temporal texts

Dates, times and durations are written as texts, and each text is read back to
the value it was written for. So two values of one type have the same text only
if they are the same. Numbers in these texts have as many digits as they need,
but at least a fixed number; a reader takes digits up to the first character
that is none.

The text of a duration is a decimal number of seconds. It is that number also
below zero, where the seconds are rounded down and the nanoseconds added.
-/

namespace Cypher

open Json.Numeral (digits valueFrom digits_append digits_of_isDigit)

/-! ## Padded numerals -/

namespace Decimal

theorem valueFrom_replicate_zero (width : Nat) (ds : List Nat) :
    valueFrom 0 (List.replicate width 0 ++ ds) = valueFrom 0 ds := by
  induction width with
  | zero => rfl
  | succ width ih =>
    rw [List.replicate_succ, List.cons_append]
    exact ih

theorem isDigit_padded (width n : Nat) : ∀ c ∈ padded width n, c.isDigit = true := by
  rw [padded, List.forall_mem_append]
  refine ⟨fun c zero => ?_, isDigit_numeral n⟩
  rw [List.eq_of_mem_replicate zero]
  rfl

/-- A padded numeral is read up to the first character that is no digit. -/
theorem digits_padded (width n : Nat) {rest : List Char}
    (ends : ∀ c ∈ rest.head?, c.isDigit = false) :
    digits (padded width n ++ rest) = ((padded width n).map fun c => c.toNat - 0x30, rest) := by
  rw [digits_append _ ends, digits_of_isDigit (isDigit_padded width n), List.nil_append]

theorem valueFrom_padded (width n : Nat) :
    valueFrom 0 ((padded width n).map fun c => c.toNat - 0x30) = n := by
  rw [padded, List.map_append, List.map_replicate]
  exact (valueFrom_replicate_zero _ _).trans (valueFrom_places n)

theorem length_numeral_le {n width : Nat} (fits : n < 10 ^ (width + 1)) :
    (numeral n).length ≤ width + 1 := by
  induction width generalizing n with
  | zero =>
    rw [numeral, if_pos (by omega)]
    exact Nat.le_refl 1
  | succ width ih =>
    rw [numeral]
    split
    · exact Nat.succ_le_succ (Nat.zero_le _)
    · have shorter := @ih (n / 10) (by omega)
      rw [List.length_append, List.length_singleton]
      omega

/-- A number that fits is written with just as many digits as asked for. -/
theorem length_padded {n width : Nat} (fits : n < 10 ^ (width + 1)) :
    (padded (width + 1) n).length = width + 1 := by
  have short := length_numeral_le fits
  rw [padded, List.length_append, List.length_replicate]
  omega

end Decimal

/-! ## Readers -/

namespace Temporal

/-- The number at the front of a text, and what follows it. -/
def number (text : List Char) : Nat × List Char := (valueFrom 0 (digits text).1, (digits text).2)

/-- The number with its sign, if there is one. -/
def signed : List Char → Int × List Char
  | '-' :: text => (-((number text).1 : Int), (number text).2)
  | '+' :: text => ((number text).1, (number text).2)
  | text => ((number text).1, (number text).2)

/-- What follows a mark. -/
def mark? (c : Char) : List Char → Option (List Char)
  | [] => none
  | d :: rest => if d = c then some rest else none

/-- The nanoseconds behind a point, and what follows them. -/
def fraction : List Char → Nat × List Char
  | '.' :: text =>
      (valueFrom 0 (digits text).1 * 10 ^ (9 - (digits text).1.length), (digits text).2)
  | text => (0, text)

theorem mark?_cons (c : Char) (rest : List Char) : mark? c (c :: rest) = some rest := if_pos rfl

/-- No number goes on with this text. -/
def Ends (rest : List Char) : Prop := ∀ c ∈ rest.head?, c.isDigit = false

theorem ends_nil : Ends [] := nofun

theorem ends_cons {c : Char} (noDigit : c.isDigit = false) (rest : List Char) :
    Ends (c :: rest) := by
  rintro _ ⟨⟩
  exact noDigit

variable {rest : List Char}

theorem number_padded (width n : Nat) (ends : Ends rest) :
    number (Decimal.padded width n ++ rest) = (n, rest) := by
  rw [number, Decimal.digits_padded width n ends, Decimal.valueFrom_padded]

theorem signed_padded (width n : Nat) (ends : Ends rest) :
    signed (Decimal.padded width n ++ rest) = ((n : Int), rest) := by
  have found := number_padded width n ends
  have digit := Decimal.isDigit_padded width n
  cases text : Decimal.padded width n with
  | nil => exact absurd (List.append_eq_nil_iff.mp text).2 (Decimal.numeral_ne_nil n)
  | cons c more =>
    rw [text] at found digit
    have first : c.isDigit = true := digit c List.mem_cons_self
    -- a digit is no sign
    unfold signed
    split
    · next same =>
      cases same
      cases first
    · next same =>
      cases same
      cases first
    · rw [found]

theorem number_numeral (n : Nat) (ends : Ends rest) :
    number (Decimal.numeral n ++ rest) = (n, rest) := by
  rw [number, Decimal.digits_numeral n rest ends, Decimal.valueFrom_places]

end Temporal

open Temporal (number signed mark? fraction Ends ends_nil ends_cons mark?_cons number_padded
  signed_padded number_numeral)

/-! ## Dates -/

namespace Date

variable {rest : List Char}

/-- The date at the front of a text, and what follows it. -/
def read? (text : List Char) : Option (Date × List Char) := do
  let (year, text) := signed text
  let (month, text) := number (← mark? '-' text)
  let (day, text) := number (← mark? '-' text)
  some (⟨year, month, day⟩, text)

theorem signed_yearChars (year : Int) (ends : Ends rest) :
    signed (yearChars year ++ rest) = (year, rest) := by
  have padded := number_padded 4 year.natAbs ends
  unfold yearChars
  split_ifs with inside negative
  · rw [signed_padded 4 _ ends]
    congr 1
    omega
  · rw [List.cons_append, signed, padded]
    congr 1
    omega
  · rw [List.cons_append, signed, padded]
    congr 1
    omega

/-- A date is read from its text. -/
theorem read?_chars (date : Date) (ends : Ends rest) :
    read? (date.chars ++ rest) = some (date, rest) := by
  have dash (text : List Char) : Ends ('-' :: text) := ends_cons rfl text
  unfold read? chars
  simp only [List.append_assoc, List.cons_append, signed_yearChars _ (dash _), mark?_cons,
    number_padded _ _ (dash _), number_padded _ _ ends, bind, Option.bind]

end Date

/-! ## Times -/

namespace Time

/-- A time that there is: the seconds of a minute are below sixty, and a leap second is the one
behind the last of them. -/
structure Real (time : Time) : Prop where
  hour : time.hour < 24
  minute : time.minute < 60
  second : time.second < 60
  nanosecond : time.nanosecond < 2 * nanosPerSecond
  leap : nanosPerSecond ≤ time.nanosecond → time.second = 59

/-- The time of a text. The sixtieth second is the leap second behind the last one. -/
def read? (text : List Char) : Option Time := do
  let (hour, text) := number text
  let (minute, text) := number (← mark? ':' text)
  let (second, text) := number (← mark? ':' text)
  let nanosecond := (fraction text).1
  some (if second = 60 then ⟨hour, minute, 59, nanosPerSecond + nanosecond⟩
    else ⟨hour, minute, second, nanosecond⟩)

theorem ends_fractionChars (nanosecond : Nat) : Ends (fractionChars nanosecond) := by
  unfold fractionChars
  split_ifs <;> first | exact ends_nil | exact ends_cons rfl _

theorem fraction_padded {width n : Nat} (fits : n < 10 ^ (width + 1)) :
    (fraction ('.' :: Decimal.padded (width + 1) n)).1 = n * 10 ^ (8 - width) := by
  have found := Decimal.digits_padded (width + 1) n ends_nil
  rw [List.append_nil] at found
  rw [fraction, found, Decimal.valueFrom_padded, List.length_map, Decimal.length_padded fits,
    show 9 - (width + 1) = 8 - width by omega]

/-- A fraction is read to its nanoseconds, with however many digits it is written. -/
theorem fraction_fractionChars {nanosecond : Nat} (small : nanosecond < nanosPerSecond) :
    (fraction (fractionChars nanosecond)).1 = nanosecond := by
  have size : nanosPerSecond = 10 ^ 9 := rfl
  unfold fractionChars
  split_ifs with zero milli micro
  · exact zero.symm
  · rw [fraction_padded (show _ < 10 ^ (2 + 1) by omega)]
    omega
  · rw [fraction_padded (show _ < 10 ^ (5 + 1) by omega)]
    omega
  · rw [fraction_padded (show _ < 10 ^ (8 + 1) by omega)]
    omega

/-- A time is read from its text. -/
theorem read?_chars {time : Time} (real : time.Real) : read? time.chars = some time := by
  have colon (text : List Char) : Ends (':' :: text) := ends_cons rfl text
  have small : time.nanosecond % nanosPerSecond < nanosPerSecond := Nat.mod_lt _ (by decide)
  unfold read? chars
  simp only [List.append_assoc, List.cons_append, number_padded _ _ (colon _), mark?_cons,
    number_padded _ _ (ends_fractionChars _), fraction_fractionChars small, bind, Option.bind]
  obtain ⟨hour, minute, second, nanosecond⟩ := time
  obtain ⟨-, -, below, twice, leap⟩ := real
  dsimp only at below twice leap ⊢
  rcases Nat.lt_or_ge nanosecond nanosPerSecond with plain | behind
  · rw [Nat.div_eq_of_lt plain, Nat.mod_eq_of_lt plain, if_neg (by omega), Nat.add_zero]
  · obtain rfl : second = 59 := leap behind
    have once : nanosecond / nanosPerSecond = 1 :=
      Nat.div_eq_of_lt_le (by omega) (by omega)
    have whole : nanosPerSecond + nanosecond % nanosPerSecond = nanosecond := by
      have parts := Nat.div_add_mod nanosecond nanosPerSecond
      rw [once] at parts
      omega
    rw [once, if_pos rfl, whole]

end Time

/-! ## Dates with times -/

namespace LocalDateTime

/-- Date and time of a text. -/
def read? (text : List Char) : Option LocalDateTime := do
  let (date, text) ← Date.read? text
  let time ← Time.read? (← mark? 'T' text)
  some ⟨date, time⟩

theorem read?_chars {moment : LocalDateTime} (real : moment.time.Real) :
    read? moment.chars = some moment := by
  have separated : Ends ('T' :: moment.time.chars) := ends_cons rfl _
  rw [read?, chars, moment.date.read?_chars separated]
  simp only [bind, Option.bind, mark?_cons, Time.read?_chars real]

end LocalDateTime

/-! ## Durations -/

namespace Duration

/-- A span that there is: the nanoseconds are less than a second. -/
def Real (span : Duration) : Prop := span.nanoseconds < nanosPerSecond

/-- The seconds of a span. -/
def amount (span : Duration) : ℚ := span.seconds + span.nanoseconds / 10 ^ 9

/-- A decimal number of seconds, up to the letter for seconds. -/
def decimal? (text : List Char) : Option ℚ :=
  match number text with
  | (whole, ['S']) => some whole
  | (whole, '.' :: text) =>
      match digits text with
      | (ds, ['S']) => some (whole + valueFrom 0 ds / 10 ^ ds.length)
      | _ => none
  | _ => none

/-- The seconds that a text says. -/
def read? : List Char → Option ℚ
  | ['P', '0', 'D'] => some 0
  | '-' :: 'P' :: 'T' :: text => (decimal? text).map fun seconds => -seconds
  | 'P' :: 'T' :: text => decimal? text
  | _ => none

/-- What is left of digits without the zeros at their end. -/
theorem exists_zeros (cs : List Char) :
    ∃ zeros, cs = (cs.reverse.dropWhile (· == '0')).reverse ++ List.replicate zeros '0' := by
  have each : ∀ c ∈ cs.reverse.takeWhile (· == '0'), c = '0' := by
    intro c member
    simpa using List.mem_takeWhile_imp member
  have parts := congrArg List.reverse (@List.takeWhile_append_dropWhile _ (· == '0') cs.reverse)
  rw [List.reverse_append, List.reverse_reverse, List.eq_replicate_of_mem each,
    List.reverse_replicate] at parts
  exact ⟨_, parts.symm⟩

theorem valueFrom_zeros (value zeros : Nat) :
    valueFrom value (List.replicate zeros 0) = value * 10 ^ zeros := by
  induction zeros generalizing value with
  | zero => exact (Nat.mul_one value).symm
  | succ zeros ih =>
    show valueFrom (value * 10 + 0) (List.replicate zeros 0) = _
    rw [ih, Nat.pow_succ]
    ring

/-- Zeros at the end of a fraction do not count. -/
theorem value_kept {kept : List Char} {zeros part : Nat} (small : part < nanosPerSecond)
    (spelled : Decimal.padded 9 part = kept ++ List.replicate zeros '0') :
    (valueFrom 0 (kept.map fun c => c.toNat - 0x30) : ℚ) / 10 ^ kept.length = part / 10 ^ 9 := by
  have value := Decimal.valueFrom_padded 9 part
  have size : (Decimal.padded 9 part).length = 9 := Decimal.length_padded small
  rw [spelled, List.map_append, List.map_replicate, Decimal.valueFrom_append] at value
  rw [spelled, List.length_append, List.length_replicate] at size
  rw [← size, ← value]
  show _ = ((valueFrom (valueFrom 0 _) (List.replicate zeros 0) : Nat) : ℚ) / _
  rw [valueFrom_zeros, pow_add]
  push_cast
  field_simp

/-- A number of seconds is read with its fraction. -/
theorem decimal?_numeral (whole : Nat) {part : Nat} (small : part < nanosPerSecond) :
    decimal? (Decimal.numeral whole ++ (fractionChars part ++ ['S'])) =
      some ((whole : ℚ) + (part : ℚ) / 10 ^ 9) := by
  have letter : Ends ['S'] := ends_cons rfl []
  unfold decimal? fractionChars
  split_ifs with zero
  · subst zero
    rw [List.nil_append, number_numeral whole letter]
    simp
  · obtain ⟨zeros, spelled⟩ := exists_zeros (Decimal.padded 9 part)
    have value := value_kept small spelled
    have digit := Decimal.isDigit_padded 9 part
    generalize ((Decimal.padded 9 part).reverse.dropWhile (· == '0')).reverse = kept
      at spelled value ⊢
    rw [spelled, List.forall_mem_append] at digit
    have found : digits (kept ++ ['S']) = (kept.map fun c => c.toNat - 0x30, ['S']) := by
      rw [digits_append _ letter, digits_of_isDigit digit.1, List.nil_append]
    rw [List.cons_append, number_numeral whole (ends_cons rfl _)]
    simp only [found, List.length_map, value]

theorem amount_eq (span : Duration) : span.amount = (span.total : ℚ) / 10 ^ 9 := by
  rw [amount, total, nanosPerSecond]
  push_cast
  field_simp
  norm_num

/-- Whole seconds and the rest of them. -/
theorem whole_add_part (nanoseconds : Nat) :
    ((nanoseconds / nanosPerSecond : Nat) : ℚ) + (nanoseconds % nanosPerSecond : Nat) / 10 ^ 9 =
      nanoseconds / 10 ^ 9 := by
  have parts : (10 ^ 9 * (nanoseconds / nanosPerSecond : Nat) +
      (nanoseconds % nanosPerSecond : Nat) : ℚ) = nanoseconds := by
    exact_mod_cast Nat.div_add_mod nanoseconds nanosPerSecond
  rw [← parts]
  field_simp

/-- The text of a span says how many seconds it has. -/
theorem read?_chars (span : Duration) : read? span.chars = some span.amount := by
  have small : span.total.natAbs % nanosPerSecond < nanosPerSecond := Nat.mod_lt _ (by decide)
  have decimal := decimal?_numeral (span.total.natAbs / nanosPerSecond) small
  rw [whole_add_part] at decimal
  have magnitude : ((span.total.natAbs : Nat) : ℚ) = |(span.total : ℚ)| := by
    rw [← Int.cast_natCast, Int.natCast_natAbs, Int.cast_abs]
  rw [amount_eq]
  unfold chars
  dsimp only
  split_ifs with zero negative
  · rw [zero]
    simp [read?]
  · have below : (span.total : ℚ) < 0 := by exact_mod_cast negative
    simp only [List.append_assoc, List.cons_append, List.nil_append, read?, decimal, magnitude,
      abs_of_neg below, Option.map_some, neg_div, neg_neg]
  · have notBelow : (0 : ℚ) ≤ span.total := by exact_mod_cast Int.not_lt.mp negative
    simp only [List.append_assoc, List.cons_append, List.nil_append, read?, decimal, magnitude,
      abs_of_nonneg notBelow]

/-- A span is determined by how many seconds it has. -/
theorem eq_of_amount {first second : Duration} (real : first.Real) (real' : second.Real)
    (same : first.amount = second.amount) : first = second := by
  have total : first.total = second.total := by
    rw [amount_eq, amount_eq] at same
    have scaled : (first.total : ℚ) = second.total := by
      field_simp at same
      exact same
    exact_mod_cast scaled
  obtain ⟨seconds, nanoseconds⟩ := first
  obtain ⟨seconds', nanoseconds'⟩ := second
  simp only [Duration.total, Real, nanosPerSecond] at total real real'
  obtain rfl : seconds = seconds' := by omega
  obtain rfl : nanoseconds = nanoseconds' := by omega
  rfl

end Duration

/-! ## Serialized values -/

namespace Value

/-- A text that is written as JSON is determined by what is written. -/
theorem eq_of_compact {first second : String}
    (same : (Json.string first).compact = (Json.string second).compact) : first = second := by
  have texts : Json.stringText first = Json.stringText second := String.ofList_injective same
  have tokens : Json.Token.tokens (Json.stringText first ++ []) = _ :=
    Json.Token.tokens_stringText first
  rw [texts, Json.Token.tokens_stringText] at tokens
  cases tokens
  rfl

/-- Two dates, two times that there are, two of both, and two spans have the same serialized text
only if they are the same. The text of a span is the decimal number of its seconds, with
its nanoseconds added also where it is negative. -/
theorem temporal_texts :
    (∀ first second : Date, (date first).text = (date second).text → first = second) ∧
    (∀ first second : Time, first.Real → second.Real →
      (localTime first).text = (localTime second).text → first = second) ∧
    (∀ first second : LocalDateTime, first.time.Real → second.time.Real →
      (localDateTime first).text = (localDateTime second).text → first = second) ∧
    (∀ first second : Duration, first.Real → second.Real →
      (duration first).text = (duration second).text → first = second) ∧
    ∀ span : Duration, ∃ text, (duration span).toJson = .string text ∧
      Duration.read? text.toList = some ((span.seconds : ℚ) + (span.nanoseconds : ℚ) / 10 ^ 9) := by
  have chars {first second : List Char}
      (same : (Json.string (String.ofList first)).compact =
        (Json.string (String.ofList second)).compact) : first = second :=
    String.ofList_injective (eq_of_compact same)
  refine ⟨?_, ?_, ?_, ?_, ?_⟩
  · intro first second same
    have read := first.read?_chars ends_nil
    rw [show first.chars = second.chars from chars same, second.read?_chars ends_nil] at read
    cases read
    rfl
  · intro first second real real' same
    have read := Time.read?_chars real
    rw [show first.chars = second.chars from chars same, Time.read?_chars real'] at read
    cases read
    rfl
  · intro first second real real' same
    have read := LocalDateTime.read?_chars real
    rw [show first.chars = second.chars from chars same, LocalDateTime.read?_chars real'] at read
    cases read
    rfl
  · intro first second real real' same
    have read := first.read?_chars
    rw [show first.chars = second.chars from chars same, second.read?_chars] at read
    exact Duration.eq_of_amount real real' (Option.some.inj read).symm
  · intro span
    exact ⟨_, rfl, by rw [String.toList_ofList, span.read?_chars, Duration.amount]⟩

/-- A leap second with a long fraction, and spans around zero. -/
theorem temporal_texts_leapSecond :
    Time.Real ⟨23, 59, 59, 1000000001⟩ ∧
    (localTime ⟨23, 59, 59, 1000000001⟩).text = "\"23:59:60.000000001\"" ∧
    (∀ time : Time, time.Real → (localTime time).text = "\"23:59:60.000000001\"" →
      time = ⟨23, 59, 59, 1000000001⟩) ∧
    (duration ⟨-1, 999999999⟩).text = "\"-PT0.000000001S\"" ∧
    ∀ span : Duration, span.Real → (duration span).text = "\"-PT0.000000001S\"" →
      span = ⟨-1, 999999999⟩ := by
  obtain ⟨-, time, -, span, -⟩ := temporal_texts
  have leap : Time.Real ⟨23, 59, 59, 1000000001⟩ :=
    ⟨by decide, by decide, by decide, by decide, by decide⟩
  have timeText : (localTime ⟨23, 59, 59, 1000000001⟩).text = "\"23:59:60.000000001\"" := by
    decide +kernel
  have spanText : (duration ⟨-1, 999999999⟩).text = "\"-PT0.000000001S\"" := by decide +kernel
  refine ⟨leap, timeText, ?_, spanText, ?_⟩
  · intro other real same
    exact time _ _ real leap (same.trans timeText.symm)
  · intro other real same
    have short : Duration.Real ⟨-1, 999999999⟩ := show 999999999 < nanosPerSecond by decide
    exact span _ _ real short (same.trans spanText.symm)

end Value

end Cypher
