import Cypher.CommandLine
import Cypher.Proofs.WrittenJson
import Cypher.Proofs.ExactValues

/-!
# Printed queries

A compiled query is printed as a JSON object, on one line or on several. On one
line the only line feed is the one at the end, whatever is in the statement, in
the names and in the values, because strings have their line feeds escaped. Both
forms are read back to the same object: the statement, and the parameters in the
order in which they were bound.
-/

namespace Cypher

open Json.Numeral (Denotes)

/-! ## Line feeds -/

namespace Decimal

theorem newLine_not_mem_numeral (n : Nat) : '\n' ∉ numeral n := by
  intro member
  have digit := isDigit_numeral n '\n' member
  revert digit
  decide

theorem newLine_not_mem_signedNumeral (n : Int) : '\n' ∉ signedNumeral n := by
  rw [signedNumeral]
  split <;> simp [newLine_not_mem_numeral]

end Decimal

namespace Number

open Decimal (newLine_not_mem_numeral newLine_not_mem_signedNumeral)

variable {digits : List Char}

theorem newLine_not_mem_positional (absent : '\n' ∉ digits) (exponent point : Int) :
    '\n' ∉ positional digits exponent point := by
  have front (n : Nat) : '\n' ∉ digits.take n := fun member => absent (List.mem_of_mem_take member)
  have back (n : Nat) : '\n' ∉ digits.drop n := fun member => absent (List.mem_of_mem_drop member)
  unfold positional
  split_ifs <;> simp [absent, front, back, List.mem_replicate]

theorem newLine_not_mem_scientific (absent : '\n' ∉ digits) (point : Int) :
    '\n' ∉ scientific digits point := by
  have front (n : Nat) : '\n' ∉ digits.take n := fun member => absent (List.mem_of_mem_take member)
  have back : '\n' ∉ digits.tail := fun member => absent (List.mem_of_mem_tail member)
  unfold scientific
  dsimp only
  split_ifs <;> simp [front, back, newLine_not_mem_numeral]

theorem newLine_not_mem_chars (number : Number) : '\n' ∉ number.chars := by
  cases number with
  | integer value => exact newLine_not_mem_signedNumeral value
  | float x =>
    have decimal (y : Decimal.Scaled) : '\n' ∉ decimalText y := by
      unfold decimalText
      dsimp only
      split
      · exact newLine_not_mem_positional (newLine_not_mem_numeral _) _ _
      · exact newLine_not_mem_scientific (newLine_not_mem_numeral _) _
    rw [chars, floatText]
    split
    · decide
    · split_ifs <;> simp [decimal]

end Number

namespace Json

theorem newLine_not_mem_stringChar (c : Char) : '\n' ∉ stringChar c := by
  have digit : ∀ d : Fin 16, '\n' ≠ Decimal.digitChar d := by decide
  unfold stringChar
  split_ifs with _ _ _ _ newLine _ _ control
  any_goals decide
  · have high := digit ⟨c.toNat / 16, by omega⟩
    have low := digit ⟨c.toNat % 16, by omega⟩
    simp [high, low]
  · exact fun member => newLine (List.mem_singleton.mp member).symm

theorem newLine_not_mem_stringText (value : String) : '\n' ∉ stringText value := by
  simp [stringText, newLine_not_mem_stringChar]

mutual

/-- On one line there is no line feed. -/
theorem newLine_not_mem_chars (value : Json) : '\n' ∉ value.chars := by
  match value with
  | .null | .bool true | .bool false | .array [] | .object [] => decide
  | .number n => exact n.newLine_not_mem_chars
  | .string text => exact newLine_not_mem_stringText text
  | .array (first :: rest) =>
    simp [chars, newLine_not_mem_chars first, newLine_not_mem_itemChars rest]
  | .object ((name, value) :: rest) =>
    simp [chars, newLine_not_mem_stringText, newLine_not_mem_chars value,
      newLine_not_mem_entryChars rest]

theorem newLine_not_mem_itemChars (items : List Json) : '\n' ∉ itemChars items := by
  match items with
  | [] => exact List.not_mem_nil
  | item :: rest => simp [itemChars, newLine_not_mem_chars item, newLine_not_mem_itemChars rest]

theorem newLine_not_mem_entryChars (entries : List (String × Json)) :
    '\n' ∉ entryChars entries := by
  match entries with
  | [] => exact List.not_mem_nil
  | (name, value) :: rest =>
    simp [entryChars, newLine_not_mem_stringText, newLine_not_mem_chars value,
      newLine_not_mem_entryChars rest]

end

end Json

/-! ## Values -/

namespace Json

mutual

theorem fits_of_mem_numbers (value : Json) (proper : value.Proper) {number : Number}
    (member : number ∈ value.numbers) : number.Fits := by
  match value with
  | .number n =>
    rw [numbers, List.mem_singleton] at member
    rw [Proper] at proper
    exact member ▸ proper
  | .array items => exact fits_of_mem_numbersOfItems items proper member
  | .object entries =>
    rw [Proper] at proper
    exact fits_of_mem_numbersOfEntries entries proper.2 member
  | .null | .bool _ | .string _ => cases member

theorem fits_of_mem_numbersOfItems (items : List Json) (proper : ProperItems items)
    {number : Number} (member : number ∈ numbersOfItems items) : number.Fits := by
  match items with
  | [] => cases member
  | item :: rest =>
    rw [ProperItems] at proper
    rcases List.mem_append.mp member with first | more
    · exact fits_of_mem_numbers item proper.1 first
    · exact fits_of_mem_numbersOfItems rest proper.2 more

theorem fits_of_mem_numbersOfEntries (entries : List (String × Json))
    (proper : ProperEntries entries) {number : Number}
    (member : number ∈ numbersOfEntries entries) : number.Fits := by
  match entries with
  | [] => cases member
  | (name, value) :: rest =>
    rw [ProperEntries] at proper
    rcases List.mem_append.mp member with first | more
    · exact fits_of_mem_numbers value proper.1 first
    · exact fits_of_mem_numbersOfEntries rest proper.2 more

end

end Json

namespace Value

mutual

/-- No map has a name twice. -/
def Distinct : Value → Prop
  | list items => DistinctItems items
  | map entries => (entries.map Prod.fst).Nodup ∧ DistinctEntries entries
  | _ => True

def DistinctItems : List Value → Prop
  | [] => True
  | item :: rest => item.Distinct ∧ DistinctItems rest

def DistinctEntries : List (String × Value) → Prop
  | [] => True
  | (_, value) :: rest => value.Distinct ∧ DistinctEntries rest

end

theorem fits_natural {n : Nat} (small : n < 2 ^ 64) : (Number.integer n).Fits := by
  have least : Int64.minValue.toInt = -2 ^ 63 := rfl
  have size : UInt64.size = 2 ^ 64 := rfl
  exact ⟨by omega, by omega⟩

theorem map_fst_entriesToJson (entries : List (String × Value)) :
    (entriesToJson entries).map Prod.fst = entries.map Prod.fst := by
  rw [entriesToJson_eq, List.map_map]
  rfl

theorem proper_point (point : Point) : (Json.object (pointEntries point)).Proper := by
  have srid : (Number.integer point.srid.toNat).Fits :=
    fits_natural (Nat.lt_trans point.srid.toNat_lt (by decide))
  rw [Json.Proper, pointEntries]
  cases point.z with
  | none => exact ⟨show ["srid", "x", "y"].Nodup by decide, srid, trivial, trivial, trivial⟩
  | some z =>
    exact ⟨show ["srid", "x", "y", "z"].Nodup by decide, srid, trivial, trivial, trivial, trivial⟩

mutual

/-- The JSON form of a value is one that a text can say. -/
theorem proper_toJson (value : Value) (distinct : value.Distinct) : value.toJson.Proper := by
  match value with
  | .int n =>
    have low := n.le_toInt
    have high := n.toInt_lt
    have least : Int64.minValue.toInt = -2 ^ 63 := rfl
    have size : UInt64.size = 2 ^ 64 := rfl
    rw [toJson, Json.Proper]
    exact ⟨by omega, by omega⟩
  | .bytes octets =>
    rw [toJson, Json.Proper, Json.properItems_iff]
    intro item member
    obtain ⟨octet, -, rfl⟩ := List.mem_map.mp member
    rw [Json.Proper]
    exact fits_natural (Nat.lt_trans octet.toNat_lt (by decide))
  | .point p => exact proper_point p
  | .list items => exact proper_itemsToJson items distinct
  | .map entries =>
    rw [Distinct] at distinct
    rw [toJson, Json.Proper, map_fst_entriesToJson]
    exact ⟨distinct.1, proper_entriesToJson entries distinct.2⟩
  | .null | .bool _ | .float _ | .string _ | .date _ | .localTime _ | .localDateTime _ | .dateTime _
  | .duration _ => trivial

theorem proper_itemsToJson (items : List Value) (distinct : DistinctItems items) :
    Json.ProperItems (itemsToJson items) := by
  match items with
  | [] => trivial
  | item :: rest =>
    rw [DistinctItems] at distinct
    exact ⟨proper_toJson item distinct.1, proper_itemsToJson rest distinct.2⟩

theorem proper_entriesToJson (entries : List (String × Value))
    (distinct : DistinctEntries entries) :
    Json.ProperEntries (entriesToJson entries) := by
  match entries with
  | [] => trivial
  | (name, value) :: rest =>
    rw [DistinctEntries] at distinct
    exact ⟨proper_toJson value distinct.1, proper_entriesToJson rest distinct.2⟩

end

end Value

/-! ## Printing -/

namespace Compiled

theorem toJson_eq (compiled : Compiled) : compiled.toJson =
    .object [("statement", .string compiled.statement), ("parameters",
      .object (compiled.parameters.entries.map fun entry => (entry.1, entry.2.toJson)))] := by
  rw [toJson, Value.entriesToJson_eq]

theorem proper_toJson {compiled : Compiled}
    (distinct : ∀ entry ∈ compiled.parameters.entries, entry.2.Distinct) :
    compiled.toJson.Proper := by
  have parameters : Json.ProperEntries (Value.entriesToJson compiled.parameters.entries) := by
    rw [Json.properEntries_iff, Value.entriesToJson_eq]
    intro entry member
    obtain ⟨bound, among, rfl⟩ := List.mem_map.mp member
    exact bound.2.proper_toJson (distinct bound among)
  rw [toJson, Json.Proper, Json.ProperEntries, Json.ProperEntries, Json.ProperEntries, Json.Proper,
    Json.Proper, Value.map_fst_entriesToJson]
  exact ⟨show ["statement", "parameters"].Nodup by decide, trivial,
    ⟨compiled.parameters.distinct, parameters⟩, trivial⟩

/-- The numbers of a compiled query are legible when its doubles are. -/
theorem legible_toJson {compiled : Compiled} (proper : compiled.toJson.Proper)
    (floats : ∀ x, .float x ∈ compiled.toJson.numbers → Denotes (Number.floatText x) (.float x)) :
    Json.Legible compiled.toJson.numbers := by
  intro number member
  cases number with
  | integer value =>
    exact Json.Numeral.denotes_signedNumeral (Json.fits_of_mem_numbers _ proper member)
  | float x => exact floats x member

/-- What is printed on one line is one line, whatever the query. Where the maps among the values
have no name twice, arrays and objects are not nested deeper than a reader allows, and doubles are
denoted by the digits they are written with, both forms are read to the same object: the statement
as it is, and an object with the JSON forms of the parameters in the order of their binding. -/
theorem print_decodes (compiled : Compiled) :
    (∃ line, '\n' ∉ line ∧ (OutputFormat.line.print compiled).toList = line ++ ['\n']) ∧
    ((∀ entry ∈ compiled.parameters.entries, entry.2.Distinct) →
      compiled.toJson.depth ≤ Json.nestingLimit →
      (∀ x, .float x ∈ compiled.toJson.numbers → Denotes (Number.floatText x) (.float x)) →
      ∀ format : OutputFormat, Json.read (format.print compiled) =
        .ok (.object [("statement", .string compiled.statement), ("parameters",
          .object (compiled.parameters.entries.map fun entry => (entry.1, entry.2.toJson)))])) := by
  constructor
  · refine ⟨compiled.toJson.chars, compiled.toJson.newLine_not_mem_chars, ?_⟩
    rw [OutputFormat.print, String.toList_append, Json.compact, String.toList_ofList]
    rfl
  · intro distinct shallow floats format
    have proper := proper_toJson distinct
    have legible := legible_toJson proper floats
    have lineEnd : Json.Numeral.Apart "\n".toList := Json.apart_mark (by decide)
    have blank : Json.Token.tokens "\n".toList = [] := by
      show Json.Token.tokens ['\n'] = []
      rw [Json.Token.tokens_space rfl, Json.Token.tokens]
    have written := Json.read_written proper shallow legible "\n" lineEnd blank
    rw [← toJson_eq]
    cases format with
    | line => exact written.1
    | pretty => exact written.2

/-- A line feed in a quoted name, a quote in the name of a parameter, and values of many kinds, among
them a point of a reference system without a name here. -/
def manyKinds : Compiled where
  statement := "RETURN $`a\n\"`, `ä\\`"
  parameters := ⟨[("a\n\"", .list [.float 0.1, .float (-0.0), .map [("\x01", .string "\n/😀")]]),
    ("__n", .bytes [0, 255]), ("at", .point (.wgs84 2.5 1e16)),
    ("far", .point ⟨4294967295, -0.0, 0.1, some 2.5⟩),
    ("on", .localDateTime ⟨⟨2024, 2, 29⟩, ⟨23, 59, 59, 1250000000⟩⟩), ("x", .int (-1))], by decide⟩

theorem print_decodes_manyKinds :
    Json.read (OutputFormat.line.print manyKinds) = Json.read (OutputFormat.pretty.print manyKinds) ∧
    Json.read (OutputFormat.line.print manyKinds) = .ok (.object [
      ("statement", .string "RETURN $`a\n\"`, `ä\\`"),
      ("parameters", .object [
        ("a\n\"", .array [.number (.float 0.1), .number (.float (-0.0)),
          .object [("\x01", .string "\n/😀")]]),
        ("__n", .array [.number (.integer 0), .number (.integer 255)]),
        ("at", .object [("srid", .number (.integer 4326)), ("x", .number (.float 2.5)),
          ("y", .number (.float 1e16))]),
        ("far", .object [("srid", .number (.integer 4294967295)), ("x", .number (.float (-0.0))),
          ("y", .number (.float 0.1)), ("z", .number (.float 2.5))]),
        ("on", .string "2024-02-29T23:59:60.250"), ("x", .number (.integer (-1)))])]) := by
  obtain ⟨-, decodes⟩ := print_decodes manyKinds
  have distinct : ∀ entry ∈ manyKinds.parameters.entries, entry.2.Distinct := by
    simp [manyKinds, Value.Distinct, Value.DistinctItems, Value.DistinctEntries]
  have shallow : manyKinds.toJson.depth ≤ Json.nestingLimit := by decide +kernel
  have numbers : manyKinds.toJson.numbers = [.float 0.1, .float (-0.0), .integer 0, .integer 255,
      .integer 4326, .float 2.5, .float 1e16, .integer 4294967295, .float (-0.0), .float 0.1,
      .float 2.5, .integer (-1)] := rfl
  have tenth : Denotes (Number.floatText 0.1) (.float 0.1) :=
    ⟨⟨false, [0], some [1], none⟩, by decide +kernel, by decide +kernel⟩
  have zero : Denotes (Number.floatText (-0.0)) (.float (-0.0)) :=
    ⟨⟨true, [0], some [0], none⟩, by decide +kernel, by decide +kernel⟩
  have half : Denotes (Number.floatText 2.5) (.float 2.5) :=
    ⟨⟨false, [2], some [5], none⟩, by decide +kernel, by decide +kernel⟩
  have large : Denotes (Number.floatText 1e16) (.float 1e16) :=
    ⟨⟨false, [1], none, some (false, [1, 6])⟩, by decide +kernel, by decide +kernel⟩
  have floats : ∀ x, .float x ∈ manyKinds.toJson.numbers →
      Denotes (Number.floatText x) (.float x) := by
    rw [numbers]
    intro x member
    simp only [List.mem_cons, Number.float.injEq, reduceCtorEq, List.not_mem_nil, or_false,
      false_or] at member
    rcases member with rfl | rfl | rfl | rfl | rfl | rfl | rfl
    · exact tenth
    · exact zero
    · exact half
    · exact large
    · exact zero
    · exact tenth
    · exact half
  have read := decodes distinct shallow floats
  have moment : String.ofList (LocalDateTime.chars ⟨⟨2024, 2, 29⟩, ⟨23, 59, 59, 1250000000⟩⟩) =
      "2024-02-29T23:59:60.250" := by decide +kernel
  refine ⟨(read .line).trans (read .pretty).symm, (read .line).trans ?_⟩
  rw [← moment]
  rfl

end Compiled
end Cypher
