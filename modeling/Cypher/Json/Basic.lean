import Cypher.OrderedMap

/-!
# JSON values

Numbers keep what their text said: an integer that was written without
fraction and exponent, or a double. Objects are lists of entries in the order
in which the text gave them; a reader never puts a name twice into one.
-/

namespace Cypher

/-- A number: an integer literal, or a double. -/
inductive Number
  | integer (value : Int)
  | float (value : Float)
  deriving DecidableEq

namespace Number

/-- The integer, when it fits 64 bits with a sign. -/
def int64? : Number → Option Int64
  | integer value =>
      if Int64.minValue.toInt ≤ value ∧ value ≤ Int64.maxValue.toInt then some (Int64.ofInt value) else none
  | float _ => none

/-- The integer, when it is natural. -/
def natural? : Number → Option Nat
  | integer value => if 0 ≤ value then some value.toNat else none
  | float _ => none

end Number

/-- A JSON value. -/
inductive Json
  | null
  | bool (value : Bool)
  | number (value : Number)
  | string (value : String)
  | array (items : List Json)
  | object (entries : List (String × Json))

namespace Json

instance : Inhabited Json := ⟨null⟩

/-- Why a text is not JSON. -/
inductive Fault
  /-- The text ended too early. -/
  | unexpectedEnd
  /-- Something in it may not stand where it stands. -/
  | malformed
  deriving DecidableEq, Repr

def isString : Json → Bool
  | string _ => true
  | _ => false

end Json
end Cypher
