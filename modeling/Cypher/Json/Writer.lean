import Cypher.Json.Basic
import Cypher.Decimal

/-!
# Writing JSON

Two spellings of a value: compact, without any white space, and spread out over
lines, every level indented by two spaces more. Doubles have the shortest
digits that read back, positional from `1e-5` up to `1e16` and always with a
fraction there, and with a signed exponent otherwise. What is no number is
written `null`.
-/

namespace Cypher

namespace Number

/-- The least decimal exponent that is written without an exponent part. -/
def leastPositional : Int := -5

/-- The first decimal exponent above those that are written without an exponent part. -/
def firstScientific : Int := 16

/-- Digits with their point in place, at least one digit after it. -/
def positional (digits : List Char) (exponent point : Int) : List Char :=
  if 0 ≤ exponent then digits ++ List.replicate exponent.toNat '0' ++ ['.', '0']
  else if 0 ≤ point then
    digits.take (point.toNat + 1) ++ '.' :: digits.drop (point.toNat + 1)
  else ['0', '.'] ++ List.replicate (-point - 1).toNat '0' ++ digits

/-- One digit before the point, and the exponent with its sign. -/
def scientific (digits : List Char) (point : Int) : List Char :=
  let fraction := digits.drop 1
  digits.take 1 ++ (if fraction.isEmpty then [] else '.' :: fraction) ++
    ['e', if point < 0 then '-' else '+'] ++ Decimal.numeral point.natAbs

/-- The text of a decimal. -/
def decimalText (x : Decimal.Scaled) : List Char :=
  let digits := Decimal.numeral x.digits
  let point := (digits.length : Int) - 1 + x.exponent
  if leastPositional ≤ point ∧ point < firstScientific then positional digits x.exponent point
  else scientific digits point

/-- The text of a double. -/
def floatText (x : Float) : List Char :=
  match Decimal.magnitude? x with
  | none => ['n', 'u', 'l', 'l']
  | some magnitude =>
      (if Decimal.isNegative x then ['-'] else []) ++
        (if magnitude.significand = 0 then ['0', '.', '0'] else decimalText magnitude.shortest)

/-- The text of a number. -/
def chars : Number → List Char
  | integer value => Decimal.signedNumeral value
  | float value => floatText value

end Number

namespace Json

/-- One character of a string between its quotes. -/
def stringChar (c : Char) : List Char :=
  if c = '"' then ['\\', '"']
  else if c = '\\' then ['\\', '\\']
  else if c = '\x08' then ['\\', 'b']
  else if c = '\x0C' then ['\\', 'f']
  else if c = '\n' then ['\\', 'n']
  else if c = '\r' then ['\\', 'r']
  else if c = '\t' then ['\\', 't']
  else if c.toNat < 0x20 then
    ['\\', 'u', '0', '0', Decimal.digitChar (c.toNat / 16), Decimal.digitChar (c.toNat % 16)]
  else [c]

/-- A string in its quotes. -/
def stringText (value : String) : List Char :=
  '"' :: value.toList.flatMap stringChar ++ ['"']

mutual

/-- The value without white space. -/
def chars : Json → List Char
  | null => ['n', 'u', 'l', 'l']
  | bool true => ['t', 'r', 'u', 'e']
  | bool false => ['f', 'a', 'l', 's', 'e']
  | number value => value.chars
  | string value => stringText value
  | array [] => ['[', ']']
  | array (first :: rest) => '[' :: first.chars ++ itemChars rest ++ [']']
  | object [] => ['{', '}']
  | object ((name, value) :: rest) =>
      '{' :: stringText name ++ ':' :: value.chars ++ entryChars rest ++ ['}']

/-- Items after the first, each behind a comma. -/
def itemChars : List Json → List Char
  | [] => []
  | item :: rest => ',' :: item.chars ++ itemChars rest

/-- Entries after the first, each behind a comma. -/
def entryChars : List (String × Json) → List Char
  | [] => []
  | (name, value) :: rest => ',' :: stringText name ++ ':' :: value.chars ++ entryChars rest

end

/-- A new line at the given depth. -/
def newLine (depth : Nat) : List Char := '\n' :: List.replicate (2 * depth) ' '

mutual

/-- The value spread out over lines; its own first line is at the given depth. -/
def spreadChars (depth : Nat) : Json → List Char
  | array [] => ['[', ']']
  | array (first :: rest) =>
      '[' :: newLine (depth + 1) ++ spreadChars (depth + 1) first ++
        spreadItems (depth + 1) rest ++ newLine depth ++ [']']
  | object [] => ['{', '}']
  | object ((name, value) :: rest) =>
      '{' :: newLine (depth + 1) ++ stringText name ++ ':' :: ' ' ::
        spreadChars (depth + 1) value ++ spreadEntries (depth + 1) rest ++ newLine depth ++ ['}']
  | value => value.chars

/-- Items after the first, each on a line of its own. -/
def spreadItems (depth : Nat) : List Json → List Char
  | [] => []
  | item :: rest => ',' :: newLine depth ++ spreadChars depth item ++ spreadItems depth rest

/-- Entries after the first, each on a line of its own. -/
def spreadEntries (depth : Nat) : List (String × Json) → List Char
  | [] => []
  | (name, value) :: rest =>
      ',' :: newLine depth ++ stringText name ++ ':' :: ' ' :: spreadChars depth value ++
        spreadEntries depth rest

end

/-- The value on one line. -/
def compact (value : Json) : String := String.ofList value.chars

/-- The value over several lines. -/
def pretty (value : Json) : String := String.ofList (spreadChars 0 value)

/-- How many characters of a value a message shows. -/
def shownLength : Nat := 64

/-- The value as a message shows it: on one line, cut when it is long. -/
def shown (value : Json) : String :=
  if value.chars.length ≤ shownLength then value.compact
  else String.ofList (value.chars.take shownLength ++ ['.', '.', '.'])

example : String.ofList (Number.floatText 1e16) = "1e+16" := by decide +kernel
example : String.ofList (Number.floatText (-0.00001)) = "-0.00001" := by decide +kernel
example : (object [("a", array [null, string "x"]), ("b", object [])]).compact =
    "\x7b\"a\":[null,\"x\"],\"b\":\x7b\x7d\x7d" := by decide +kernel

end Json
end Cypher
