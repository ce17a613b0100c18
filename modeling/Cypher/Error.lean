import Cypher.Json.Writer
import Cypher.Text.Printable

/-!
# Errors

A payload or clause is refused because something at a named place is not what
is expected there, because its parts do not fit together, or because its text
is not JSON. Every cause has one message.
-/

namespace Cypher

/-- What has to stand at a place. -/
inductive Expectation
  | nonEmptyString
  | nonEmptyList
  | nonEmptyMap
  | nonEmptyArray
  | object
  | string
  | value
  | boolean
  | array
  | strings
  | clauseObjects
  | clauseObject
  | clauseKey
  | oneClauseKey
  /-- One of the fields that an object may have. -/
  | field (allowed : List String)
  /-- One and only one of two fields. -/
  | either (first second : String)
  /-- No second pattern shape. -/
  | onlyShape (shape : String)
  /-- No node fields beside a pattern shape. -/
  | noNodeFields (shape : String)
  | oneName
  | pathDirection
  | sortDirection
  | natural
  | naturalOrString
  | naturalOrInfinity
  | signedCount
  | atMostMaxHops (max : Nat)
  | conditionsByIdentifier
  | conditionsByProperty
  | someOperator
  | knownOperator (keys : List String)
  | propertyValues
  | operand
  | exactNumber
  | projection
  | sorting
  | equality
  | equalityWhenCreating
  | singleInlineValue

/-- What stands there instead. -/
inductive Finding
  | json (value : Json)
  | text (content : String)
  | nothing
  | both
  | neither
  | operator (key : String)
  | operatorsOn (keys : List String) (property : String)
  | severalEqualities

/-- How parts can fail to fit together. -/
inductive Misfit
  /-- The body of the clause binds through another allocator. -/
  | foreignBody (clause : String)
  /-- The element of a path is not of the kind that its position requires. -/
  | misplacedElement (index : Nat) (isNodeDue : Bool)
  /-- A path ends with a relationship. -/
  | danglingRelationship
  /-- The allocator is in use. -/
  | allocatorBusy

/-- Why a query cannot be compiled. -/
inductive Error
  | shape (key : String) (expected : Expectation) (found : Finding)
  | composition (misfit : Misfit)
  | json (fault : Json.Fault)

/-- The words for what is expected. -/
def Expectation.phrase : Expectation → String
  | nonEmptyString => "a non-empty string"
  | nonEmptyList => "a non-empty list"
  | nonEmptyMap => "a non-empty map"
  | nonEmptyArray => "a non-empty array"
  | object => "an object"
  | string => "a string"
  | value => "a value"
  | boolean => "a boolean"
  | array => "an array"
  | strings => "a string or an array of strings"
  | clauseObjects => "an object or an array of objects"
  | clauseObject => "an object with one clause key"
  | clauseKey => "a clause key"
  | oneClauseKey => "exactly one clause key"
  | field allowed => "one of `" ++ "`, `".intercalate allowed ++ "`"
  | either first second => "either `" ++ first ++ "` or `" ++ second ++ "`"
  | onlyShape shape => "no other pattern shape alongside `" ++ shape ++ "`"
  | noNodeFields shape => "no node fields alongside `" ++ shape ++ "`"
  | oneName => "at least one name"
  | pathDirection => "one of `out`, `in`, `none`"
  | sortDirection => "`ASC` or `DESC`"
  | natural => "a non-negative integer"
  | naturalOrString => "a non-negative integer or a string"
  | naturalOrInfinity => "a non-negative integer or \"infinity\""
  | signedCount => "an integer no greater than 2^63 - 1"
  | atMostMaxHops max => "at most maxHops (" ++ String.ofList (Decimal.numeral max) ++ ")"
  | conditionsByIdentifier => "an object of identifiers to conditions"
  | conditionsByProperty => "an object of properties to conditions"
  | someOperator => "at least one operator"
  | knownOperator keys => "an operator (" ++ ", ".intercalate keys ++ ")"
  | propertyValues => "an object of property values"
  | operand => "a value or \x7b\"$literal\": \"...\"\x7d"
  | exactNumber => "an integer within i64 or a float"
  | projection => "a string or an array of projection items"
  | sorting => "a string, an object or an array"
  | equality => "an equality condition"
  | equalityWhenCreating => "equality conditions only when creating"
  | singleInlineValue => "a single inline value"

/-- The words for what is found. -/
def Finding.phrase : Finding → String
  | json value => value.shown
  | text content => Text.quoted content
  | nothing => "nothing"
  | both => "both"
  | neither => "neither"
  | operator key => "operator `" ++ key ++ "`"
  | operatorsOn keys property => "`" ++ ", ".intercalate keys ++ "` on `" ++ property ++ "`"
  | severalEqualities => "several equality conditions"

/-- The words for what does not fit. -/
def Misfit.phrase : Misfit → String
  | foreignBody clause =>
      "`" ++ clause ++ "` body must be built with the enclosing query's bind parameters"
  | misplacedElement index isNodeDue =>
      "`related` element " ++ String.ofList (Decimal.numeral index) ++ " must be " ++
        (if isNodeDue then "a node" else "a relationship")
  | danglingRelationship => "`related` must end with a node"
  | allocatorBusy => "bind parameters are already in use"

namespace Error

/-- The message of an error. Why a text is not JSON is not told. -/
def message : Error → String
  | shape key expected found =>
      "invalid `" ++ key ++ "`: expected " ++ expected.phrase ++ ", got " ++ found.phrase
  | composition misfit => "composition error: " ++ misfit.phrase
  | json _ => "json error"

/-- The place that a shape error is about. -/
def key? : Error → Option String
  | shape key _ _ => some key
  | _ => none

/-- Whether the error is about the payload rather than its text. -/
def isConstraint : Error → Bool
  | json _ => false
  | _ => true

/-- An empty list where one must not be empty. -/
def emptyList (key : String) : Error := shape key .nonEmptyList (.json (.array []))

end Error

section Results

variable {ε α β γ : Type} {first : Except ε α} {second : Except ε γ} {result : β}

theorem bind_eq_ok {next : α → Except ε β} (done : first >>= next = .ok result) :
    ∃ value, first = .ok value ∧ next value = .ok result := by
  cases first with
  | error error => cases done
  | ok value => exact ⟨value, rfl, done⟩

theorem map_eq_ok {make : α → β} (done : first.map make = .ok result) :
    ∃ value, first = .ok value ∧ make value = result := by
  cases first with
  | error error => cases done
  | ok value => exact ⟨value, rfl, Except.ok.inj done⟩

/-- One thing after the other, put together. -/
theorem both_eq_ok {make : α → γ → β} :
    (do
      let value ← first
      let other ← second
      Except.ok (make value other)) = .ok result ↔
    ∃ value other, first = .ok value ∧ second = .ok other ∧ make value other = result := by
  constructor
  · intro done
    obtain ⟨value, here, done⟩ := bind_eq_ok done
    obtain ⟨other, there, done⟩ := bind_eq_ok done
    exact ⟨value, other, here, there, Except.ok.inj done⟩
  · rintro ⟨value, other, rfl, rfl, rfl⟩
    rfl

end Results
end Cypher
