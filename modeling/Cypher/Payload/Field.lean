import Cypher.Error

/-!
# Fields of payload objects

A payload object has fields out of a known set. A field that is there must have
the right shape, also when its value is `null`.
-/

namespace Cypher.Payload

/-- An error about a JSON value that is not what is expected. -/
def unexpected (key : String) (expected : Expectation) (value : Json) : Error :=
  .shape key expected (.json value)

/-- Reads every item, in order. -/
def readEach {α β : Type} (read : α → Except Error β) : List α → Except Error (List β)
  | [] => .ok []
  | item :: rest => do
      let first ← read item
      let more ← readEach read rest
      return first :: more

def readString (key : String) : Json → Except Error String
  | .string value => .ok value
  | value => .error (unexpected key .string value)

/-- A single string, or an array of strings. -/
def readStrings (key : String) : Json → Except Error (List String)
  | .string value => .ok [value]
  | .array items => readEach (readString key) items
  | value => .error (unexpected key .strings value)

/-- The items of an array that has some. -/
def readArray (key : String) : Json → Except Error (List Json)
  | .array [] => .error (unexpected key .nonEmptyArray (.array []))
  | .array items => .ok items
  | value => .error (unexpected key .array value)

/-- The entries of an object. -/
abbrev Fields := List (String × Json)

/-- Refuses a field that is not allowed; the first one counts. -/
def checkFields (allowed : List String) (fields : Fields) : Except Error Unit :=
  match fields.find? fun field => !allowed.contains field.1 with
  | some field => .error (unexpected field.1 (.field allowed) field.2)
  | none => .ok ()

/-- The fields of an object that has none but allowed ones. -/
def readFields (key : String) (allowed : List String) : Json → Except Error Fields
  | .object fields => do
      checkFields allowed fields
      return fields
  | value => .error (unexpected key .object value)

namespace Fields

def get? (fields : Fields) (name : String) : Option Json := findNamed? name fields

def has (fields : Fields) (name : String) : Bool := (fields.get? name).isSome

/-- Reads a field if it is there. -/
def read? {α : Type} (read : Json → Except Error α) (fields : Fields) (name : String) :
    Except Error (Option α) :=
  match fields.get? name with
  | none => .ok none
  | some value => (read value).map some

/-- The value of a field that must be there. -/
def required (fields : Fields) (name : String) : Except Error Json :=
  match fields.get? name with
  | some value => .ok value
  | none => .error (.shape name .value .nothing)

def string? (fields : Fields) (name : String) : Except Error (Option String) :=
  fields.read? (readString name) name

def requiredString (fields : Fields) (name : String) : Except Error String := do
  match ← fields.string? name with
  | some value => .ok value
  | none => .error (.shape name .string .nothing)

def strings? (fields : Fields) (name : String) : Except Error (Option (List String)) :=
  fields.read? (readStrings name) name

/-- A flag, which is not set when it is not there. -/
def flag (fields : Fields) (name : String) : Except Error Bool :=
  match fields.get? name with
  | none => .ok false
  | some (.bool value) => .ok value
  | some value => .error (unexpected name .boolean value)

/-- Not both of two fields. -/
def notBoth (fields : Fields) (first second : String) : Except Error Unit :=
  if fields.has first && fields.has second then
    .error (.shape second (.either first second) .both)
  else .ok ()

/-- One of two fields, and not both. -/
def exactlyOne (fields : Fields) (first second : String) : Except Error Unit := do
  fields.notBoth first second
  if !fields.has first && !fields.has second then
    .error (.shape first (.either first second) .neither)

end Fields
end Cypher.Payload
