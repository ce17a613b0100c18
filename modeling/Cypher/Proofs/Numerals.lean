import Cypher.Proofs.ProperJson

/-!
# Numerals

The digits of a natural number have its value, and digits that begin with no
superfluous zero are those of the number that is their value. So among the
numerals of JSON the ones that say a natural number are the numerals of natural
numbers, as far as they fit 64 bits: one with a sign, a fraction or an exponent
says something else, whatever its value.

Reading a numeral does not look at what follows it, as long as this is no part
of a numeral itself.
-/

namespace Cypher

open Json.Numeral (digits valueFrom)

/-! ## Digits -/

namespace Decimal

/-- The digits of a numeral. -/
def places (n : Nat) : List Nat := (numeral n).map fun c => c.toNat - 0x30

theorem isDigit_digitChar {digit : Nat} (small : digit < 10) :
    (digitChar digit).isDigit = true := by
  have each : ∀ d : Fin 10, (digitChar d).isDigit = true := by decide
  exact each ⟨digit, small⟩

theorem toNat_digitChar {digit : Nat} (small : digit < 10) :
    (digitChar digit).toNat - 0x30 = digit := by
  have each : ∀ d : Fin 10, (digitChar d).toNat - 0x30 = d := by decide
  exact each ⟨digit, small⟩

theorem isDigit_numeral (n : Nat) : ∀ c ∈ numeral n, c.isDigit = true := by
  fun_induction numeral n with
  | case1 n small => exact List.forall_mem_singleton.mpr (isDigit_digitChar small)
  | case2 n large ih =>
    intro c member
    rcases List.mem_append.mp member with before | last
    · exact ih c before
    · rw [List.mem_singleton.mp last]
      exact isDigit_digitChar (Nat.mod_lt n (by decide))

theorem valueFrom_append (start : Nat) (front back : List Nat) :
    valueFrom start (front ++ back) = valueFrom (valueFrom start front) back :=
  List.foldl_append

theorem le_valueFrom (start : Nat) (ds : List Nat) : start ≤ valueFrom start ds := by
  induction ds generalizing start with
  | nil => exact Nat.le_refl start
  | cons digit rest ih =>
    have further := ih (start * 10 + digit)
    show start ≤ valueFrom (start * 10 + digit) rest
    omega

/-- A numeral has the value that it was written for. -/
theorem valueFrom_places (n : Nat) : valueFrom 0 (places n) = n := by
  rw [places]
  fun_induction numeral n with
  | case1 n small => simpa [valueFrom] using toNat_digitChar small
  | case2 n large ih =>
    rw [List.map_append, valueFrom_append, ih, List.map_singleton,
      toNat_digitChar (Nat.mod_lt n (by decide))]
    show n / 10 * 10 + n % 10 = n
    omega

theorem places_ne_nil (n : Nat) : places n ≠ [] := by
  rw [places, ne_eq, List.map_eq_nil_iff]
  exact numeral_ne_nil n

/-- The first of several digits is no zero. -/
def Unpadded (ds : List Nat) : Prop := ∀ next rest, ds ≠ 0 :: next :: rest

theorem unpadded_places (n : Nat) : Unpadded (places n) := by
  rw [places]
  fun_induction numeral n with
  | case1 n small => simp [Unpadded]
  | case2 n large ih =>
    have value := valueFrom_places (n / 10)
    rw [places] at value
    intro next rest same
    rw [List.map_append] at same
    match front : (numeral (n / 10)).map fun c => c.toNat - 0x30 with
    | [] => exact numeral_ne_nil (n / 10) (List.map_eq_nil_iff.mp front)
    | [digit] =>
      -- one digit in front of the last is a zero only when the number has one digit
      rw [front] at same value
      obtain rfl : digit = 0 := (List.cons.inj same).1
      have zero : n / 10 = 0 := value.symm
      omega
    | digit :: second :: more =>
      rw [front] at same
      obtain rfl : digit = 0 := (List.cons.inj same).1
      exact ih second more front

/-- Digits are those of the number that is their value. -/
theorem numeral_valueFrom {ds : List Nat} (some : ds ≠ []) (unpadded : Unpadded ds)
    (small : ∀ digit ∈ ds, digit < 10) : numeral (valueFrom 0 ds) = ds.map digitChar := by
  induction ds using List.reverseRecOn with
  | nil => exact absurd rfl some
  | append_singleton front last ih =>
    have final : last < 10 := small last (by simp)
    cases front with
    | nil =>
      show numeral (0 * 10 + last) = [digitChar last]
      rw [Nat.zero_mul, Nat.zero_add, numeral, if_pos final]
    | cons first more =>
      have before : Unpadded (first :: more) := by
        rintro next rest ⟨⟩
        exact unpadded next (rest ++ [last]) rfl
      have positive : 0 < valueFrom 0 (first :: more) := by
        have least := le_valueFrom (0 * 10 + first) more
        have leading : first ≠ 0 := by
          rintro rfl
          cases more with
          | nil => exact unpadded last [] rfl
          | cons next rest => exact before next rest rfl
        show 0 < valueFrom (0 * 10 + first) more
        omega
      have value : valueFrom 0 (first :: more ++ [last]) =
          valueFrom 0 (first :: more) * 10 + last := valueFrom_append 0 (first :: more) [last]
      rw [value, numeral, if_neg (by omega),
        show (valueFrom 0 (first :: more) * 10 + last) / 10 = valueFrom 0 (first :: more) by omega,
        show (valueFrom 0 (first :: more) * 10 + last) % 10 = last by omega,
        ih (List.cons_ne_nil _ _) before
          fun digit member => small digit (List.mem_append_left _ member),
        List.map_append, List.map_singleton]

end Decimal

namespace Json.Numeral

open Decimal

/-! ## What follows a numeral -/

/-- Whether a minus sign stands in front, and what follows it. -/
def splitSign : List Char → Bool × List Char
  | '-' :: cs => (true, cs)
  | cs => (false, cs)

theorem splitSign_cons (c : Char) (cs : List Char) :
    splitSign (c :: cs) = if c = '-' then (true, cs) else (false, c :: cs) := by
  unfold splitSign
  split <;> simp_all

theorem readSign_cons (c : Char) (cs : List Char) : readSign (c :: cs) =
    if c = '-' then (true, cs) else if c = '+' then (false, cs) else (false, c :: cs) := by
  unfold readSign
  split <;> simp_all

section Parts

variable {text after : List Char} {ds : List Nat}

theorem someDigits_eq_ok :
    someDigits text = .ok (ds, after) ↔ ds ≠ [] ∧ digits text = (ds, after) := by
  cases text with
  | nil =>
    refine iff_of_false nofun ?_
    rintro ⟨some, none⟩
    exact some (Prod.mk.inj none).1.symm
  | cons c more =>
    unfold someDigits
    obtain ⟨found, last⟩ := digits (c :: more)
    cases found with
    | nil => simp +contextual [eq_comm]
    | cons digit others => simp +contextual [eq_comm]

theorem readWhole_eq_ok :
    readWhole text = .ok (ds, after) ↔ ds ≠ [] ∧ Unpadded ds ∧ digits text = (ds, after) := by
  unfold readWhole
  constructor
  · intro found
    obtain ⟨⟨whole, last⟩, first, found⟩ := bind_eq_ok found
    rw [someDigits_eq_ok] at first
    split at found
    · cases found
    · next unpadded =>
      cases found
      refine ⟨first.1, ?_, first.2⟩
      rintro next rest rfl
      exact unpadded next rest after rfl
  · rintro ⟨some, unpadded, found⟩
    simp only [someDigits_eq_ok.mpr ⟨some, found⟩, bind, Except.bind]
    split
    · next padded =>
      cases padded
      exact absurd rfl (unpadded _ _)
    · rfl

theorem readFraction_of_ne (other : ∀ c ∈ text.head?, c ≠ '.') :
    readFraction text = .ok (none, text) := by
  unfold readFraction
  split
  · exact absurd rfl (other '.' rfl)
  · rfl

theorem readExponent_of_ne (other : ∀ c ∈ text.head?, c ≠ 'e' ∧ c ≠ 'E') :
    readExponent text = .ok (none, text) := by
  cases text with
  | nil => rfl
  | cons c more =>
    have neither := other c rfl
    rw [readExponent, if_neg (not_or.mpr neither)]

/-- What is read is a sign, a whole part, a fraction and an exponent. -/
theorem read_eq_ok {n : Numeral} : read text = .ok (n, after) ↔
    ∃ afterWhole afterFraction, readWhole (splitSign text).2 = .ok (n.whole, afterWhole) ∧
      readFraction afterWhole = .ok (n.fraction, afterFraction) ∧
      readExponent afterFraction = .ok (n.exponent, after) ∧ n.negative = (splitSign text).1 := by
  have sign : read text = (do
      let whole ← readWhole (splitSign text).2
      let fraction ← readFraction whole.2
      let exponent ← readExponent fraction.2
      .ok (⟨(splitSign text).1, whole.1, fraction.1, exponent.1⟩, exponent.2)) := by
    cases text with
    | nil => rfl
    | cons c more =>
      unfold read
      rw [splitSign_cons]
      by_cases minus : c = '-'
      · subst minus
        rfl
      · rw [if_neg minus]
        split
        · next same =>
          split at same
          · next first => exact absurd (List.cons.inj first).1 minus
          · cases same
            rfl
  rw [sign]
  constructor
  · intro found
    obtain ⟨⟨whole, afterWhole⟩, first, found⟩ := bind_eq_ok found
    obtain ⟨⟨fraction, afterFraction⟩, second, found⟩ := bind_eq_ok found
    obtain ⟨⟨exponent, last⟩, third, found⟩ := bind_eq_ok found
    cases found
    exact ⟨afterWhole, afterFraction, first, second, third, rfl⟩
  · rintro ⟨afterWhole, afterFraction, first, second, third, negative⟩
    simp only [first, second, third, ← negative, bind, Except.bind]

end Parts

/-- A numeral begins with its sign or a digit. -/
theorem head_of_read {c : Char} {cs after : List Char} {n : Numeral}
    (found : read (c :: cs) = .ok (n, after)) : c = '-' ∨ c.isDigit = true := by
  obtain ⟨afterWhole, afterFraction, first, -⟩ := read_eq_ok.mp found
  rw [splitSign_cons] at first
  split_ifs at first with minus
  · exact .inl minus
  · refine .inr ?_
    obtain ⟨some, -, whole⟩ := readWhole_eq_ok.mp first
    by_contra noDigit
    rw [digits, if_neg noDigit] at whole
    exact some (Prod.mk.inj whole).1.symm

theorem splitSign_of_positive {text : List Char} (positive : (splitSign text).1 = false) :
    (splitSign text).2 = text := by
  cases text with
  | nil => rfl
  | cons c more =>
    rw [splitSign_cons] at positive ⊢
    split_ifs at positive ⊢
    rfl

theorem readFraction_eq_none {text after : List Char}
    (found : readFraction text = .ok (none, after)) : text = after := by
  unfold readFraction at found
  split at found
  · obtain ⟨read, -, found⟩ := bind_eq_ok found
    cases found
  · cases found
    rfl

theorem readExponent_eq_none {text after : List Char}
    (found : readExponent text = .ok (none, after)) : text = after := by
  cases text with
  | nil =>
    cases found
    rfl
  | cons c more =>
    rw [readExponent] at found
    split at found
    · obtain ⟨read, -, found⟩ := bind_eq_ok found
      cases found
    · cases found
      rfl

section Following

variable {text after rest : List Char}

theorem digits_append (text : List Char) (ends : ∀ c ∈ rest.head?, c.isDigit = false) :
    digits (text ++ rest) = ((digits text).1, (digits text).2 ++ rest) := by
  induction text with
  | nil =>
    cases rest with
    | nil => rfl
    | cons c more => simp [digits, ends c rfl]
  | cons c more ih => by_cases digit : c.isDigit <;> simp [digits, digit, ih]

/-- No numeral goes on with this text. -/
def Apart (rest : List Char) : Prop :=
  ∀ c ∈ rest.head?, c.isDigit = false ∧ c ≠ '.' ∧ c ≠ 'e' ∧ c ≠ 'E'

theorem Apart.digits_append (apart : Apart rest) {ds : List Nat}
    (found : digits text = (ds, after)) :
    digits (text ++ rest) = (ds, after ++ rest) := by
  rw [Numeral.digits_append text fun c first => (apart c first).1, found]

theorem someDigits_append (apart : Apart rest) {ds : List Nat}
    (found : someDigits text = .ok (ds, after)) :
    someDigits (text ++ rest) = .ok (ds, after ++ rest) := by
  rw [someDigits_eq_ok] at found ⊢
  exact ⟨found.1, apart.digits_append found.2⟩

theorem readWhole_append (apart : Apart rest) {ds : List Nat}
    (found : readWhole text = .ok (ds, after)) :
    readWhole (text ++ rest) = .ok (ds, after ++ rest) := by
  rw [readWhole_eq_ok] at found ⊢
  exact ⟨found.1, found.2.1, apart.digits_append found.2.2⟩

theorem readFraction_append (apart : Apart rest) {fraction : Option (List Nat)}
    (found : readFraction text = .ok (fraction, after)) :
    readFraction (text ++ rest) = .ok (fraction, after ++ rest) := by
  cases text with
  | nil =>
    cases found
    exact readFraction_of_ne fun c first => (apart c first).2.1
  | cons c more =>
    by_cases point : c = '.'
    · subst point
      rw [readFraction] at found
      obtain ⟨⟨ds, last⟩, some, found⟩ := bind_eq_ok found
      cases found
      rw [List.cons_append, readFraction, someDigits_append apart some]
      rfl
    · have other : ∀ d ∈ (c :: more).head?, d ≠ '.' := by simpa using point
      rw [readFraction_of_ne other] at found
      cases found
      exact readFraction_of_ne (by simpa using point)

theorem readSign_append (some : text ≠ []) :
    readSign (text ++ rest) = ((readSign text).1, (readSign text).2 ++ rest) := by
  obtain ⟨c, more, rfl⟩ := List.exists_cons_of_ne_nil some
  simp only [List.cons_append, readSign_cons]
  split_ifs <;> rfl

theorem readExponent_append (apart : Apart rest) {exponent : Option (Bool × List Nat)}
    (found : readExponent text = .ok (exponent, after)) :
    readExponent (text ++ rest) = .ok (exponent, after ++ rest) := by
  cases text with
  | nil =>
    cases found
    exact readExponent_of_ne fun c first => (apart c first).2.2
  | cons c more =>
    rw [readExponent] at found
    rw [List.cons_append, readExponent]
    split at found
    · next letter =>
      rw [if_pos letter]
      have some : more ≠ [] := by
        rintro rfl
        cases found
      rw [readSign_append some]
      generalize readSign more = signed at found
      obtain ⟨negative, afterSign⟩ := signed
      obtain ⟨⟨ds, last⟩, read, found⟩ := bind_eq_ok found
      cases found
      simp only [someDigits_append apart read, bind, Except.bind]
    · next neither =>
      cases found
      rw [if_neg neither, List.cons_append]

/-- A numeral is read up to the text that is apart from it. -/
theorem read_append (apart : Apart rest) {n : Numeral} (found : read text = .ok (n, after)) :
    read (text ++ rest) = .ok (n, after ++ rest) := by
  rw [read_eq_ok] at found ⊢
  obtain ⟨afterWhole, afterFraction, first, second, third, negative⟩ := found
  have some : text ≠ [] := by
    rintro rfl
    cases first
  have sign : splitSign (text ++ rest) = ((splitSign text).1, (splitSign text).2 ++ rest) := by
    obtain ⟨c, more, rfl⟩ := List.exists_cons_of_ne_nil some
    simp only [List.cons_append, splitSign_cons]
    split_ifs <;> rfl
  rw [sign]
  exact ⟨afterWhole ++ rest, afterFraction ++ rest, readWhole_append apart first,
    readFraction_append apart second, readExponent_append apart third, negative⟩

end Following

/-! ## Integers -/

section Integers

theorem digits_of_isDigit {text : List Char} (each : ∀ c ∈ text, c.isDigit = true) :
    digits text = (text.map fun c => c.toNat - 0x30, []) := by
  induction text with
  | nil => rfl
  | cons c more ih =>
    rw [List.forall_mem_cons] at each
    simp [digits, each.1, ih each.2]

theorem digits_lt (text : List Char) : ∀ digit ∈ (digits text).1, digit < 10 := by
  fun_induction digits text with
  | case1 => exact List.forall_mem_nil _
  | case2 c rest isDigit more after same ih =>
    rw [same] at ih
    refine List.forall_mem_cons.mpr ⟨?_, ih⟩
    have upper : c.toNat ≤ 57 := (Bool.and_eq_true_iff.mp isDigit).2 |> of_decide_eq_true
    omega
  | case3 => exact List.forall_mem_nil _

theorem digitChar_of_isDigit {c : Char} (isDigit : c.isDigit = true) :
    digitChar (c.toNat - 0x30) = c := by
  rw [Char.isDigit, Bool.and_eq_true_iff] at isDigit
  have lower : 48 ≤ c.toNat := of_decide_eq_true isDigit.1
  have upper : c.toNat ≤ 57 := of_decide_eq_true isDigit.2
  rw [digitChar, if_pos (by omega), show 0x30 + (c.toNat - 0x30) = c.toNat by omega,
    Char.ofNat_toNat]

/-- The digits of a text are what it begins with. -/
theorem digits_eq (text : List Char) : (digits text).1.map digitChar ++ (digits text).2 = text := by
  fun_induction digits text with
  | case1 => rfl
  | case2 c rest isDigit more after same ih =>
    rw [same] at ih
    rw [List.map_cons, digitChar_of_isDigit isDigit, List.cons_append, ih]
  | case3 => rfl

/-- Digits are appended until the number does not fit any more. -/
theorem accumulate_of_lt {start : Nat} {ds : List Nat} (fits : valueFrom start ds < UInt64.size) :
    accumulate start ds = (valueFrom start ds, ds.length) := by
  induction ds generalizing start with
  | nil => rfl
  | cons digit rest ih =>
    have next : start * 10 + digit < UInt64.size := lt_of_le_of_lt (le_valueFrom _ rest) fits
    rw [accumulate, if_pos next, ih fits]
    rfl

theorem accumulate_of_length {start : Nat} {ds : List Nat}
    (all : (accumulate start ds).2 = ds.length) : (accumulate start ds).1 = valueFrom start ds := by
  fun_induction accumulate start ds with
  | case1 => rfl
  | case2 significand digit rest fits value count same ih =>
    rw [same] at ih
    exact ih (Nat.succ.inj all)
  | case3 => cases all

/-- The text is a numeral that stands for the number. -/
def Denotes (text : List Char) (number : Number) : Prop :=
  ∃ n, read text = .ok (n, []) ∧ n.number? = some number

theorem read_numeral (count : Nat) :
    read (numeral count) = .ok (⟨false, places count, none, none⟩, []) := by
  have whole : digits (numeral count) = (places count, []) :=
    digits_of_isDigit (isDigit_numeral count)
  have sign : splitSign (numeral count) = (false, numeral count) := by
    obtain ⟨c, more, text⟩ := List.exists_cons_of_ne_nil (numeral_ne_nil count)
    have first : c.isDigit = true := isDigit_numeral count c (text ▸ List.mem_cons_self)
    rw [text, splitSign_cons, if_neg (by rintro rfl; cases first)]
  rw [read_eq_ok, sign]
  exact ⟨[], [], readWhole_eq_ok.mpr ⟨places_ne_nil count, unpadded_places count, whole⟩,
    rfl, rfl, rfl⟩

theorem read_minus (count : Nat) :
    read ('-' :: numeral count) = .ok (⟨true, places count, none, none⟩, []) := by
  have whole : digits (numeral count) = (places count, []) :=
    digits_of_isDigit (isDigit_numeral count)
  rw [read_eq_ok]
  exact ⟨[], [], readWhole_eq_ok.mpr ⟨places_ne_nil count, unpadded_places count, whole⟩,
    rfl, rfl, rfl⟩

theorem significand_places {count : Nat} (fits : count < UInt64.size) (negative : Bool) :
    (Numeral.mk negative (places count) none none).significand = (count, 0) := by
  have value := valueFrom_places count
  rw [significand, accumulate_of_lt (value.symm ▸ fits), value]
  show (count, _) = _
  congr 1
  omega

/-- A natural number of 64 bits is denoted by its numeral. -/
theorem denotes_numeral {count : Nat} (fits : count < UInt64.size) :
    Denotes (numeral count) (.integer count) := by
  refine ⟨_, read_numeral count, ?_⟩
  rw [number?, significand_places fits]
  simp only [Option.isNone_none, and_self, if_true]

/-- An integer that a text can say is denoted by its own numeral. -/
theorem denotes_signedNumeral {value : Int} (fits : (Number.integer value).Fits) :
    Denotes (signedNumeral value) (.integer value) := by
  obtain ⟨low, high⟩ := fits
  have least : Int64.minValue.toInt = -2 ^ 63 := rfl
  have size : UInt64.size = 2 ^ 64 := rfl
  have small : value.natAbs < UInt64.size := by omega
  rw [signedNumeral]
  split
  · next negative =>
    refine ⟨_, read_minus _, ?_⟩
    rw [number?, significand_places small]
    simp only [Option.isNone_none, and_self, Bool.true_eq_false, and_false, if_false, true_and]
    rw [if_pos ⟨by omega, show value.natAbs ≤ 2 ^ 63 by omega⟩]
    congr 2
    omega
  · next natural =>
    have same : ((value.natAbs : Nat) : Int) = value := by omega
    exact same ▸ denotes_numeral small

/-- A whole part that no power of ten scales is taken as it is. -/
theorem significand_of_whole {n : Numeral} (noFraction : n.fraction = none)
    (noShift : n.significand.2 = 0) : n.significand.1 = valueFrom 0 n.whole := by
  have all : (accumulate 0 n.whole).2 = n.whole.length := by
    have shift : n.significand.2 = (n.whole.length : Int) - (accumulate 0 n.whole).2 - 0 := by
      rw [significand, noFraction]
      rfl
    omega
  rw [← accumulate_of_length all, significand, noFraction]
  rfl

/-- A text without fraction and exponent is the numeral of its digits. -/
theorem numeral_of_read {text : List Char} {n : Numeral} (found : read text = .ok (n, []))
    (noFraction : n.fraction = none) (noExponent : n.exponent = none)
    (positive : n.negative = false) :
    text = numeral (valueFrom 0 n.whole) := by
  obtain ⟨afterWhole, afterFraction, first, second, third, negative⟩ := read_eq_ok.mp found
  rw [noFraction] at second
  rw [noExponent] at third
  obtain rfl : afterFraction = [] := readExponent_eq_none third
  obtain rfl : afterWhole = [] := readFraction_eq_none second
  obtain ⟨some, unpadded, whole⟩ := readWhole_eq_ok.mp first
  have unsigned : (splitSign text).2 = text := splitSign_of_positive (negative ▸ positive)
  rw [unsigned] at whole
  have spelled := digits_eq text
  have small := digits_lt text
  rw [whole] at spelled small
  rw [numeral_valueFrom some unpadded small, ← spelled, List.append_nil]

/-- Only the numerals of natural numbers say natural numbers, as far as these fit 64 bits. -/
theorem Denotes.natural?_eq_some_iff {text : List Char} {number : Number}
    (denotes : Denotes text number) {count : Nat} :
    number.natural? = some count ↔ text = numeral count ∧ count < UInt64.size := by
  obtain ⟨n, found, value⟩ := denotes
  constructor
  · intro natural
    unfold number? at value
    dsimp only at value
    split at value
    · next plain =>
      obtain ⟨⟨noFraction, noExponent, noShift⟩, positive⟩ := plain
      rw [Option.isNone_iff_eq_none] at noFraction noExponent
      cases value
      rw [Number.natural?, if_pos (Int.natCast_nonneg _), Int.toNat_natCast] at natural
      cases natural
      refine ⟨?_, n.significand_lt⟩
      rw [significand_of_whole noFraction noShift]
      exact numeral_of_read found noFraction noExponent positive
    · split at value
      · next below =>
        cases value
        rw [Number.natural?, if_neg (by omega)] at natural
        cases natural
      · obtain ⟨x, -, rfl⟩ := Option.map_eq_some_iff.mp value
        cases natural
  · rintro ⟨rfl, fits⟩
    rw [read_numeral] at found
    cases found
    rw [number?, significand_places fits] at value
    cases value
    rw [Number.natural?, if_pos (Int.natCast_nonneg count), Int.toNat_natCast]

end Integers

end Json.Numeral

namespace Decimal

open Json.Numeral (digits_append digits_of_isDigit)

/-- A numeral is read up to the first character that is no digit. -/
theorem digits_numeral (n : Nat) (rest : List Char) (ends : ∀ c ∈ rest.head?, c.isDigit = false) :
    digits (numeral n ++ rest) = (places n, rest) := by
  rw [digits_append _ ends, digits_of_isDigit (isDigit_numeral n), places, List.nil_append]

end Decimal

end Cypher
