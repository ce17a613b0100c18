import Cypher.Value.Basic

/-!
# Conditions

Conditions are given by identifier and property: a property is compared with
one or more operands, and every comparison has to hold. An operand without an
operator means equality.

A pattern has room for one equality per property. Conditions are split into
that part, the first equality of each property, and the rest.
-/

namespace Cypher

/-- A value, which is bound as a parameter, or text that is written as it is. -/
inductive Operand
  | value (value : Value)
  | literal (text : String)

instance : Inhabited Operand := ⟨.literal ""⟩

/-- Operands by property name. -/
abbrev Properties := OrderedMap Operand

/-- How a property is compared with an operand. -/
inductive Operator
  | eq
  | ne
  | gt
  | gte
  | lt
  | lte
  /-- The property is in the list that the operand is. -/
  | within
  /-- The operand is in the list that the property is. -/
  | holds
  | contains
  deriving DecidableEq, Repr

namespace Operator

def all : List Operator := [eq, ne, gt, gte, lt, lte, within, holds, contains]

/-- The name of the operator in payloads. -/
def key : Operator → String
  | eq => "eq"
  | ne => "ne"
  | gt => "gt"
  | gte => "gte"
  | lt => "lt"
  | lte => "lte"
  | within => "in"
  | holds => "_in"
  | contains => "contains"

def ofKey? (key : String) : Option Operator := all.find? fun operator => operator.key == key

/-- Only an equality can be written inside a pattern. -/
def isEq (operator : Operator) : Bool := operator == eq

/-- The operator in a statement. -/
def symbol : Operator → String
  | eq => "="
  | ne => "<>"
  | gt => ">"
  | gte => ">="
  | lt => "<"
  | lte => "<="
  | within => "IN"
  | holds => "IN"
  | contains => "CONTAINS"

theorem ofKey?_key (operator : Operator) : ofKey? operator.key = some operator := by
  cases operator <;> decide

end Operator

/-- The condition on one property. -/
inductive Condition
  /-- Equality with an operand. -/
  | value (operand : Operand)
  /-- All of the comparisons. -/
  | operators (comparisons : List (Operator × Operand))

instance : Inhabited Condition := ⟨.operators []⟩

/-- The comparisons that a condition stands for. -/
def Condition.comparisons : Condition → List (Operator × Operand)
  | value operand => [(.eq, operand)]
  | operators comparisons => comparisons

/-- One more comparison that must hold. -/
def Condition.and (condition : Condition) (operator : Operator) (operand : Operand) : Condition :=
  operators (condition.comparisons ++ [(operator, operand)])

/-- The conditions on the properties of one identifier. -/
abbrev Conditions := OrderedMap Condition

/-- Conditions by identifier. -/
abbrev Criteria := OrderedMap Conditions

/-- The operand of the first equality. -/
def firstEquality? : List (Operator × Operand) → Option Operand
  | [] => none
  | comparison :: rest =>
      if comparison.1.isEq then some comparison.2 else firstEquality? rest

/-- All comparisons but the first equality. -/
def dropFirstEquality : List (Operator × Operand) → List (Operator × Operand)
  | [] => []
  | comparison :: rest =>
      if comparison.1.isEq then rest else comparison :: dropFirstEquality rest

namespace Conditions

/-- Adds a comparison to those of a property, which moves to the end. -/
def addComparison (conditions : Conditions) (property : String) (operator : Operator)
    (operand : Operand) : Conditions :=
  let extended := match conditions.get? property with
    | some condition => condition.and operator operand
    | none => .operators [(operator, operand)]
  (conditions.erase property).insert property extended

/-- The properties with an equality, each with its first one. -/
def inlineHalf (conditions : Conditions) : Conditions :=
  conditions.filterMap fun condition => (firstEquality? condition.comparisons).map .value

/-- The properties with other comparisons, each with those. -/
def hoistedHalf (conditions : Conditions) : Conditions :=
  conditions.filterMap fun condition =>
    match dropFirstEquality condition.comparisons with
    | [] => none
    | rest => some (.operators rest)

end Conditions

namespace Criteria

/-- Adds conditions on an identifier; those on a property that has some already replace them. -/
def addConditions (criteria : Criteria) (identifier : String) (conditions : Conditions) :
    Criteria :=
  let present := (criteria.get? identifier).getD .empty
  criteria.insert identifier (present.insertAll conditions.entries)

/-- Whether nothing is required of any identifier. -/
def requiresNothing (criteria : Criteria) : Bool :=
  criteria.entries.all fun entry => entry.2.isEmpty

/-- One half of every identifier's conditions, where it is not empty. -/
def half (part : Conditions → Conditions) (criteria : Criteria) : Criteria :=
  criteria.filterMap fun conditions =>
    let kept := part conditions
    if kept.isEmpty then none else some kept

def inlineHalf (criteria : Criteria) : Criteria := criteria.half Conditions.inlineHalf

def hoistedHalf (criteria : Criteria) : Criteria := criteria.half Conditions.hoistedHalf

end Criteria
end Cypher
