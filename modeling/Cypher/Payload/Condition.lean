import Cypher.Condition.Basic
import Cypher.Payload.Field
import Cypher.Value.Json

/-!
# Conditions and properties in payloads

An operand is a JSON value, or `{"$literal": "text"}` for text that is written
as it is. A condition is an operand, or an object of operators and operands.
-/

namespace Cypher.Payload

/-- The field that marks a literal operand. -/
def literalKey : String := "$literal"

/-- A JSON value as a property value; an integer must fit 64 bits with a sign. -/
def readValue (key : String) (json : Json) : Except Error Value :=
  match Value.ofJson json with
  | .ok value => .ok value
  | .error number => .error (unexpected key .exactNumber (.number number))

def readOperand (key : String) : Json → Except Error Operand
  | .object [(name, text)] =>
      if name = literalKey then (readString literalKey text).map .literal
      else .error (unexpected key .operand (.object [(name, text)]))
  | .object entries => .error (unexpected key .operand (.object entries))
  | value => (readValue key value).map .value

/-- An operator and its operand. -/
def readComparison (entry : String × Json) : Except Error (Operator × Operand) :=
  match Operator.ofKey? entry.1 with
  | some operator => (readOperand entry.1 entry.2).map fun operand => (operator, operand)
  | none => .error (unexpected entry.1 (.knownOperator (Operator.all.map Operator.key)) entry.2)

def readCondition (property : String) : Json → Except Error Condition
  | .object entries =>
      if (findNamed? literalKey entries).isSome then
        (readOperand property (.object entries)).map .value
      else if entries.isEmpty then
        .error (unexpected property .someOperator (.object []))
      else (readEach readComparison entries).map .operators
  | value => (readOperand property value).map .value

/-- Reads the value of every entry by its name. -/
def readEntries {α : Type} (read : String → Json → Except Error α)
    (entries : List (String × Json)) : Except Error (OrderedMap α) :=
  (readEach (fun entry => (read entry.1 entry.2).map fun value => (entry.1, value)) entries).map
    OrderedMap.ofList

/-- Conditions by property. -/
def readConditions (key : String) : Json → Except Error Conditions
  | .object entries => readEntries readCondition entries
  | value => .error (unexpected key .conditionsByProperty value)

/-- Conditions by identifier. -/
def readCriteria (key : String) : Json → Except Error Criteria
  | .object entries => readEntries readConditions entries
  | value => .error (unexpected key .conditionsByIdentifier value)

def readProperties (key : String) : Json → Except Error Properties
  | .object entries => readEntries readOperand entries
  | value => .error (unexpected key .propertyValues value)

end Cypher.Payload
