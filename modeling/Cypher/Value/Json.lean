import Cypher.Json.Writer
import Cypher.Value.Basic

/-!
# Values and JSON

Every JSON value is a property value unless it holds an integer that does not
fit 64 bits with a sign. Every property value has a JSON form: temporal values
are strings, bytes are arrays of numbers, and points are objects.
-/

namespace Cypher.Value

mutual

/-- The property value of a JSON value, or else the first number, in reading order, that is none. -/
def ofJson : Json → Except Number Value
  | .null => .ok null
  | .bool value => .ok (bool value)
  | .number (.integer value) =>
      match (Number.integer value).int64? with
      | some small => .ok (int small)
      | none => .error (.integer value)
  | .number (.float value) => .ok (float value)
  | .string value => .ok (string value)
  | .array items => (ofItems items).map list
  | .object entries => (ofFields entries).map ofEntries

/-- Item by item. -/
def ofItems : List Json → Except Number (List Value)
  | [] => .ok []
  | item :: rest => do
      let first ← ofJson item
      let more ← ofItems rest
      .ok (first :: more)

/-- Entry by entry, in the given order. -/
def ofFields : List (String × Json) → Except Number (List (String × Value))
  | [] => .ok []
  | (name, value) :: rest => do
      let first ← ofJson value
      let more ← ofFields rest
      .ok ((name, first) :: more)

end

/-- The entries of a point. -/
def pointEntries (point : Point) : List (String × Json) :=
  let coordinate := fun x : Float => Json.number (.float x)
  [("srid", .number (.integer point.srid.toNat)), ("x", coordinate point.x), ("y", coordinate point.y)] ++
    match point.z with
    | none => []
    | some z => [("z", coordinate z)]

mutual

/-- The JSON form of a value. -/
def toJson : Value → Json
  | null => .null
  | bool value => .bool value
  | int value => .number (.integer value.toInt)
  | float value => .number (.float value)
  | string value => .string value
  | bytes value => .array (value.map fun byte => .number (.integer byte.toNat))
  | list items => .array (itemsToJson items)
  | map entries => .object (entriesToJson entries)
  | date value => .string (String.ofList value.chars)
  | localTime value => .string (String.ofList value.chars)
  | localDateTime value => .string (String.ofList value.chars)
  | dateTime value => .string (String.ofList value.chars)
  | duration value => .string (String.ofList value.chars)
  | point value => .object (pointEntries value)

def itemsToJson : List Value → List Json
  | [] => []
  | item :: rest => item.toJson :: itemsToJson rest

def entriesToJson : List (String × Value) → List (String × Json)
  | [] => []
  | (name, value) :: rest => (name, value.toJson) :: entriesToJson rest

end

/-- The JSON text of a value. -/
def text (value : Value) : String := value.toJson.compact

end Cypher.Value
