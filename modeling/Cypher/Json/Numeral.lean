import Cypher.Json.Basic
import Cypher.Decimal

/-!
# JSON numerals

A numeral has a sign, a whole part without leading zeros, and perhaps a
fraction and an exponent. Its value is an integer when it has neither and fits
64 bits, and a double otherwise: the leading digits that fit 64 bits are
rounded to a double, which is then scaled by a power of ten, every step
rounding to nearest.
-/

namespace Cypher.Json

/-- The parts of a numeral, each a list of digits. -/
structure Numeral where
  negative : Bool
  whole : List Nat
  fraction : Option (List Nat)
  /-- Whether the exponent is negative, and its digits. -/
  exponent : Option (Bool × List Nat)
  deriving DecidableEq, Repr

namespace Numeral

/-- The digits at the front, and what follows them. -/
def digits : List Char → List Nat × List Char
  | [] => ([], [])
  | c :: rest =>
      if c.isDigit then
        let (more, after) := digits rest
        ((c.toNat - 0x30) :: more, after)
      else ([], c :: rest)

/-- Digits of which there must be at least one. -/
def someDigits (cs : List Char) : Except Fault (List Nat × List Char) :=
  match cs, digits cs with
  | [], _ => .error .unexpectedEnd
  | _, ([], _) => .error .malformed
  | _, (read, rest) => .ok (read, rest)

/-- The whole part; a leading zero stands alone. -/
def readWhole (cs : List Char) : Except Fault (List Nat × List Char) := do
  match ← someDigits cs with
  | (0 :: _ :: _, _) => .error .malformed
  | read => .ok read

def readFraction : List Char → Except Fault (Option (List Nat) × List Char)
  | '.' :: cs => do
      let (read, rest) ← someDigits cs
      .ok (some read, rest)
  | cs => .ok (none, cs)

/-- The sign of an exponent. -/
def readSign : List Char → Bool × List Char
  | '-' :: cs => (true, cs)
  | '+' :: cs => (false, cs)
  | cs => (false, cs)

def readExponent : List Char → Except Fault (Option (Bool × List Nat) × List Char)
  | [] => .ok (none, [])
  | c :: cs =>
      if c = 'e' ∨ c = 'E' then do
        let (negative, after) := readSign cs
        let (read, rest) ← someDigits after
        .ok (some (negative, read), rest)
      else .ok (none, c :: cs)

/-- Reads the numeral at the front of a text. -/
def read (cs : List Char) : Except Fault (Numeral × List Char) := do
  let (negative, afterSign) := match cs with
    | '-' :: rest => (true, rest)
    | _ => (false, cs)
  let (whole, afterWhole) ← readWhole afterSign
  let (fraction, afterFraction) ← readFraction afterWhole
  let (exponent, rest) ← readExponent afterFraction
  .ok (⟨negative, whole, fraction, exponent⟩, rest)

/-- The number that digits append to a number, most significant first. -/
def valueFrom (start : Nat) (ds : List Nat) : Nat :=
  ds.foldl (fun value digit => value * 10 + digit) start

/-- Appends digits as long as the number fits 64 bits; the second part counts the appended ones. -/
def accumulate (significand : Nat) : List Nat → Nat × Nat
  | [] => (significand, 0)
  | digit :: rest =>
      if significand * 10 + digit < UInt64.size then
        let (value, count) := accumulate (significand * 10 + digit) rest
        (value, count + 1)
      else (significand, 0)

/-- The double nearest to a power of ten. -/
def powerOfTen (exponent : Nat) : Float := Float.ofScientific 1 false exponent

/-- A double times a power of ten, in as many steps as doubles can hold; nothing beyond their
range. -/
def scaled? (x : Float) (exponent : Int) : Option Float :=
  if 0 ≤ exponent then
    if exponent ≤ 308 then
      let scaled := x * powerOfTen exponent.toNat
      if scaled.isInf then none else some scaled
    else if x == 0 then some x else none
  else if -308 ≤ exponent then some (x / powerOfTen (-exponent).toNat)
  else if x == 0 then some x
  else scaled? (x / powerOfTen 308) (exponent + 308)
termination_by (-exponent).toNat
decreasing_by omega

/-- The significand of the double that is read, and the power of ten it is scaled by before the
written exponent counts. -/
def significand (n : Numeral) : Nat × Int :=
  let (whole, used) := accumulate 0 n.whole
  let (value, places) := accumulate whole (n.fraction.getD [])
  (value, (n.whole.length : Int) - used - places)

/-- The magnitude of a numeral that is no integer. -/
def double? (n : Numeral) : Option Float :=
  let (value, shift) := n.significand
  let start := (UInt64.ofNat value).toFloat
  match n.exponent with
  | none => scaled? start shift
  | some (negative, ds) =>
      let written := valueFrom 0 ds
      if written < 1 <<< 31 then
        scaled? start (if negative then shift - written else shift + written)
      else if value ≠ 0 ∧ negative = false then none
      else some 0

/-- The number a numeral stands for; one beyond the range of doubles stands for none. -/
def number? (n : Numeral) : Option Number :=
  let (value, shift) := n.significand
  let isInteger := n.fraction.isNone ∧ n.exponent.isNone ∧ shift = 0
  if isInteger ∧ n.negative = false then some (.integer value)
  else if isInteger ∧ 0 < value ∧ value ≤ 1 <<< 63 then some (.integer (-(value : Int)))
  else n.double?.map fun x => .float (if n.negative then -x else x)

theorem digits_length (cs : List Char) : (digits cs).2.length ≤ cs.length := by
  fun_induction digits cs with
  | case1 => simp
  | case2 c rest _ more after same ih => rw [same] at ih; simp at ih ⊢; omega
  | case3 => simp

theorem someDigits_length {cs rest : List Char} {ds : List Nat}
    (found : someDigits cs = .ok (ds, rest)) : rest.length < cs.length := by
  cases cs with
  | nil => simp [someDigits] at found
  | cons c tail =>
    by_cases digit : c.isDigit
    · have bound := digits_length tail
      simp only [someDigits, digits, digit, if_true] at found
      simp only [Except.ok.injEq, Prod.mk.injEq] at found
      simp [← found.2]; omega
    · simp [someDigits, digits, digit] at found

theorem readWhole_length {cs rest : List Char} {ds : List Nat}
    (found : readWhole cs = .ok (ds, rest)) : rest.length < cs.length := by
  cases inner : someDigits cs with
  | error fault => simp [readWhole, inner, bind, Except.bind] at found
  | ok read =>
    obtain ⟨read, after⟩ := read
    simp only [readWhole, inner, bind, Except.bind] at found
    split at found
    · simp at found
    · simp only [Except.ok.injEq, Prod.mk.injEq] at found
      exact found.2 ▸ someDigits_length inner

theorem readFraction_length {cs rest : List Char} {ds : Option (List Nat)}
    (found : readFraction cs = .ok (ds, rest)) : rest.length ≤ cs.length := by
  unfold readFraction at found
  split at found
  · next tail =>
    cases inner : someDigits tail with
    | error fault => simp [inner, bind, Except.bind] at found
    | ok read =>
      obtain ⟨read, after⟩ := read
      have bound := someDigits_length inner
      simp only [inner, bind, Except.bind, Except.ok.injEq, Prod.mk.injEq] at found
      simp [← found.2]; omega
  · simp only [Except.ok.injEq, Prod.mk.injEq] at found
    simp [found.2]

theorem readSign_length (cs : List Char) : (readSign cs).2.length ≤ cs.length := by
  unfold readSign
  split <;> simp

theorem readExponent_length {cs rest : List Char} {read : Option (Bool × List Nat)}
    (found : readExponent cs = .ok (read, rest)) : rest.length ≤ cs.length := by
  cases cs with
  | nil => simp [readExponent] at found; simp [found.2]
  | cons c tail =>
    simp only [readExponent] at found
    split at found
    · have sign := readSign_length tail
      cases inner : someDigits (readSign tail).2 with
      | error fault => simp [inner, bind, Except.bind] at found
      | ok part =>
        obtain ⟨part, after⟩ := part
        have bound := someDigits_length inner
        simp only [inner, bind, Except.bind, Except.ok.injEq, Prod.mk.injEq] at found
        simp [← found.2]; omega
    · simp only [Except.ok.injEq, Prod.mk.injEq] at found
      simp [← found.2]

/-- Reading a numeral uses up at least one character. -/
theorem read_length {cs rest : List Char} {n : Numeral}
    (found : read cs = .ok (n, rest)) : rest.length < cs.length := by
  unfold read at found
  simp only [bind, Except.bind] at found
  generalize start : (match cs with
    | '-' :: rest => (true, rest)
    | _ => (false, cs)) = signed at found
  have signLength : signed.2.length ≤ cs.length := by
    subst start; split <;> simp
  split at found
  · simp at found
  · next whole wholeRead =>
    split at found
    · simp at found
    · next fraction fractionRead =>
      split at found
      · simp at found
      · next exponent exponentRead =>
        have first := readWhole_length
          (show readWhole signed.2 = .ok (whole.1, whole.2) from wholeRead)
        have second := readFraction_length
          (show readFraction whole.2 = .ok (fraction.1, fraction.2) from fractionRead)
        have third := readExponent_length
          (show readExponent fraction.2 = .ok (exponent.1, exponent.2) from exponentRead)
        simp only [Except.ok.injEq, Prod.mk.injEq] at found
        rw [← found.2]; omega

end Numeral
end Cypher.Json
