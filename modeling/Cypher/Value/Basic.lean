import Cypher.Json.Basic
import Cypher.Value.Calendar

/-!
# Property values

The values that a statement takes as parameters.
-/

namespace Cypher

/-- A point: its coordinates in a reference system. -/
structure Point where
  /-- The identifier of the reference system. -/
  srid : UInt32
  x : Float
  y : Float
  z : Option Float
  deriving DecidableEq

namespace Point

/-- A point of a plane. -/
def cartesian (x y : Float) : Point := ⟨7203, x, y, none⟩

/-- A point of a space. -/
def cartesian3D (x y z : Float) : Point := ⟨9157, x, y, some z⟩

/-- A place on earth, by longitude and latitude. -/
def wgs84 (longitude latitude : Float) : Point := ⟨4326, longitude, latitude, none⟩

/-- A place over the earth, by longitude, latitude and height. -/
def wgs84_3D (longitude latitude height : Float) : Point := ⟨4979, longitude, latitude, some height⟩

end Point

/-- A value that can be bound as a parameter. The entries of a map stand in the order of their
names. -/
inductive Value
  | null
  | bool (value : Bool)
  | int (value : Int64)
  | float (value : Float)
  | string (value : String)
  | bytes (value : List UInt8)
  | list (items : List Value)
  | map (entries : List (String × Value))
  | date (value : Date)
  | localTime (value : Time)
  | localDateTime (value : LocalDateTime)
  | dateTime (value : DateTime)
  | duration (value : Duration)
  | point (value : Point)

namespace Value

instance : Inhabited Value := ⟨null⟩

/-- The name of a value's type. -/
def typeName : Value → String
  | null => "null"
  | bool _ => "boolean"
  | int _ => "integer"
  | float _ => "float"
  | string _ => "string"
  | bytes _ => "bytes"
  | list _ => "list"
  | map _ => "map"
  | date _ => "date"
  | localTime _ => "local time"
  | localDateTime _ => "local datetime"
  | dateTime _ => "datetime"
  | duration _ => "duration"
  | point _ => "point"

def isNull : Value → Bool
  | null => true
  | _ => false

def int? : Value → Option Int64
  | int value => some value
  | _ => none

def float? : Value → Option Float
  | float value => some value
  | _ => none

def string? : Value → Option String
  | string value => some value
  | _ => none

/-- Puts an entry at the place of its name; the value of a name that is present is replaced. -/
def insertSorted {α : Type u} (name : String) (value : α) : List (String × α) → List (String × α)
  | [] => [(name, value)]
  | entry :: rest =>
      if name < entry.1 then (name, value) :: entry :: rest
      else if name = entry.1 then (name, value) :: rest
      else entry :: insertSorted name value rest

/-- The entries in the order of their names, by code point; of equal names the last one counts. -/
def sortEntries {α : Type u} (entries : List (String × α)) : List (String × α) :=
  entries.foldl (fun sorted entry => insertSorted entry.1 entry.2 sorted) []

/-- The map with these entries. -/
def ofEntries (entries : List (String × Value)) : Value := map (sortEntries entries)

end Value
end Cypher
