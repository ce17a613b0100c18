/-!
# Decimals

Numerals of natural numbers, most significant digit first, in lists of
characters so that what is written can be reasoned about by induction.

A finite double is `significand · 2 ^ exponent`, and every real number between
the midpoints to its neighbours is rounded to it, the midpoints themselves when
the significand is even. Among the decimals of that interval the shortest one
is chosen, of several the nearest to the double, and an even last digit
decides a tie. All comparisons are exact.
-/

namespace Cypher.Decimal

/-- The character of a digit below sixteen; letters are lower case. -/
def digitChar (digit : Nat) : Char :=
  Char.ofNat (if digit < 10 then 0x30 + digit else 0x57 + digit)

/-- The value of a hexadecimal digit in either case. -/
def digitValue? (c : Char) : Option Nat :=
  if '0' ≤ c ∧ c ≤ '9' then some (c.toNat - 0x30)
  else if 'a' ≤ c ∧ c ≤ 'f' then some (c.toNat - 0x57)
  else if 'A' ≤ c ∧ c ≤ 'F' then some (c.toNat - 0x37)
  else none

/-- The decimal numeral without leading zeros; zero is one digit. -/
def numeral (n : Nat) : List Char :=
  if n < 10 then [digitChar n] else numeral (n / 10) ++ [digitChar (n % 10)]

/-- The hexadecimal numeral without leading zeros; zero is one digit. -/
def hexNumeral (n : Nat) : List Char :=
  if n < 16 then [digitChar n] else hexNumeral (n / 16) ++ [digitChar (n % 16)]

/-- The numeral, filled with zeros on the left up to the width. -/
def padded (width n : Nat) : List Char :=
  List.replicate (width - (numeral n).length) '0' ++ numeral n

/-- The numeral of an integer, with a minus sign below zero. -/
def signedNumeral (n : Int) : List Char :=
  if n < 0 then '-' :: numeral n.natAbs else numeral n.natAbs

theorem numeral_ne_nil (n : Nat) : numeral n ≠ [] := by
  rw [numeral]
  split <;> simp

example : numeral 1203 = ['1', '2', '0', '3'] ∧ hexNumeral 0xa0 = ['a', '0'] := by decide +kernel
example : padded 3 7 = ['0', '0', '7'] ∧ signedNumeral (-4) = ['-', '4'] := by decide +kernel

/-! ## Shortest decimals -/

/-- The decimal `digits · 10 ^ exponent`. -/
structure Scaled where
  digits : Nat
  exponent : Int
  deriving DecidableEq, Repr

/-- The magnitude of a finite double as a binary fraction. -/
structure Binary where
  significand : Nat
  exponent : Int
  deriving DecidableEq, Repr

/-- Whether the sign bit is set. -/
def isNegative (x : Float) : Bool := (x.toBits.toNat >>> 63) % 2 == 1

/-- The magnitude of a double; infinities and NaN have none. -/
def magnitude? (x : Float) : Option Binary :=
  let bits := x.toBits.toNat
  let field : Nat := (bits >>> 52) % (1 <<< 11)
  let fraction : Nat := bits % (1 <<< 52)
  if field = (1 <<< 11) - 1 then none
  else if field = 0 then some ⟨fraction, -1074⟩
  else some ⟨(1 <<< 52) + fraction, (field : Int) - 1075⟩

/-- The reals that are read as a double, over a common denominator. -/
structure Interval where
  low : Nat
  value : Nat
  high : Nat
  denominator : Nat
  /-- Whether the two ends belong to it. -/
  closed : Bool

/-- The interval around a positive double. Right above a power of two the lower neighbour is half
as far away. -/
def Binary.interval (x : Binary) : Interval :=
  let up := 1 <<< x.exponent.toNat
  let below := if x.significand = 1 <<< 52 ∧ -1074 < x.exponent then 1 else 2
  { low := (4 * x.significand - below) * up
    value := 4 * x.significand * up
    high := (4 * x.significand + 2) * up
    denominator := 4 <<< (-x.exponent).toNat
    closed := x.significand % 2 == 0 }

/-- The largest power of ten, as an exponent, that does not exceed the value. -/
def Interval.decade (i : Interval) : Int :=
  if i.denominator ≤ i.value then ((numeral (i.value / i.denominator)).length : Int) - 1
  else -((numeral ((i.denominator - 1) / i.value)).length : Int)

/-- The point of the grid of multiples of `10 ^ exponent` that lies inside and is nearest to the
value. -/
def Interval.gridPoint? (i : Interval) (exponent : Int) : Option Nat :=
  let unit := i.denominator * Nat.pow 10 exponent.toNat
  let scale := Nat.pow 10 (-exponent).toNat
  let floor := i.value * scale / unit
  let inside := fun n : Nat =>
    if i.closed then i.low * scale ≤ n * unit && n * unit ≤ i.high * scale
    else i.low * scale < n * unit && n * unit < i.high * scale
  let twice := 2 * (i.value * scale)
  let middle := (2 * floor + 1) * unit
  match inside floor, inside (floor + 1) with
  | false, false => none
  | true, false => some floor
  | false, true => some (floor + 1)
  | true, true =>
      -- of two that are equally near, the even one
      if twice < middle ∨ (twice = middle ∧ floor % 2 = 0) then some floor else some (floor + 1)

/-- The first grid with a point inside, each ten times finer than the one before. -/
def Interval.coarsest (i : Interval) : Nat → Int → Scaled
  | 0, exponent => ⟨(i.gridPoint? exponent).getD 0, exponent⟩
  | finer + 1, exponent =>
      match i.gridPoint? exponent with
      | some digits => ⟨digits, exponent⟩
      | none => i.coarsest finer (exponent - 1)

/-- The same decimal without zeros at the end of its digits. -/
def Scaled.trimmed (x : Scaled) : Scaled :=
  if 0 < x.digits ∧ x.digits % 10 = 0 then Scaled.trimmed ⟨x.digits / 10, x.exponent + 1⟩ else x
termination_by x.digits
decreasing_by omega

/-- The shortest decimal of a positive double: seventeen digits are always enough. -/
def Binary.shortest (x : Binary) : Scaled :=
  (x.interval.coarsest 16 x.interval.decade).trimmed

example : (Binary.mk 1 (-1074)).shortest = ⟨5, -324⟩ := by decide +kernel
example : (magnitude? 0.1).map Binary.shortest = some ⟨1, -1⟩ := by decide +kernel

end Cypher.Decimal
