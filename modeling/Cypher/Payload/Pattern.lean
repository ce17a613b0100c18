import Cypher.Clause.Basic
import Cypher.Payload.Condition

/-!
# Patterns in payloads

A pattern is text of the caller, a node, an array of nodes, or a path of nodes
and relationships. An object with a direction is a relationship.
-/

namespace Cypher.Payload

def nodeFields : List String := ["identifier", "label", "where", "properties"]

/-- The fields that give a pattern another shape than a single node. -/
def shapeFields : List String := ["literal", "multiple", "related"]

def relationshipFields : List String :=
  ["direction", "identifier", "name", "where", "properties", "minHops", "maxHops"]

/-- An empty list of names would let the pattern match more, so it is refused. -/
def someNames (key : String) (names : List String) : Except Error (List String) :=
  if names.isEmpty then .error (.shape key .oneName (.json (.array []))) else .ok names

/-- A name, names all of which are meant, or an object that says whether all or any of them are. -/
def readLabel : Json → Except Error Label
  | .object entries => do
      let fields ← readFields "label" ["all", "any"] (.object entries)
      fields.exactlyOne "all" "any"
      match ← fields.strings? "any" with
      | some names => return .any (← someNames "any" names)
      | none => return .all (← someNames "all" ((← fields.strings? "all").getD []))
  | value => do return .all (← someNames "label" (← readStrings "label" value))

/-- Conditions or properties, not both. -/
def readFilter (fields : Fields) : Except Error Filter := do
  fields.notBoth "where" "properties"
  match fields.get? "where", fields.get? "properties" with
  | some conditions, _ => return .conditions (← readConditions "where" conditions)
  | none, some properties => return .properties (← readProperties "properties" properties)
  | none, none => return .nothing

def readNodeFields (fields : Fields) : Except Error NodePattern := do
  let identifier ← fields.string? "identifier"
  let label ← fields.read? readLabel "label"
  let filter ← readFilter fields
  return ⟨identifier, label, filter⟩

/-- A node as raw text or as an object. -/
def readNode (key : String) : Json → Except Error Node
  | .string text => .ok (.raw text)
  | value => do
      let fields ← readFields key nodeFields value
      return .pattern (← readNodeFields fields)

def readDirection (fields : Fields) : Except Error Direction := do
  let name ← fields.requiredString "direction"
  if name = "out" then .ok .forward
  else if name = "in" then .ok .backward
  else if name = "none" then .ok .either
  else .error (.shape "direction" .pathDirection (.text name))

/-- A 32-bit count, or no bound. -/
def readHop (key : String) : Json → Except Error HopBound
  | .string text =>
      if text = "infinity" then .ok .infinite
      else .error (unexpected key .naturalOrInfinity (.string text))
  | .number number =>
      match number.natural? with
      | some count =>
          if count < UInt32.size then .ok (.finite count)
          else .error (unexpected key .natural (.number number))
      | none => .error (unexpected key .natural (.number number))
  | value => .error (unexpected key .naturalOrInfinity value)

def readRelationship (key : String) (value : Json) : Except Error RelationshipPattern := do
  let fields ← readFields key relationshipFields value
  let direction ← readDirection fields
  let identifier ← fields.string? "identifier"
  let types ← match ← fields.strings? "name" with
    | some names => someNames "name" names
    | none => pure []
  let filter ← readFilter fields
  let min ← fields.read? (readHop "minHops") "minHops"
  let max ← fields.read? (readHop "maxHops") "maxHops"
  return ⟨direction, identifier, types, filter, ⟨min, max⟩⟩

/-- An element of a path. Raw text is of the kind that its position requires. -/
def readElement (isNodeDue : Bool) : Json → Except Error PathElement
  | .string text =>
      .ok (if isNodeDue then .node (.raw text) else .relationship (.raw text))
  | .object entries =>
      if (findNamed? "direction" entries).isSome then do
        return .relationship (.pattern (← readRelationship "related" (.object entries)))
      else do return .node (← readNode "related" (.object entries))
  | value => do return .node (← readNode "related" value)

/-- The elements of a path, of which the first has to be a node or not. -/
def readElements (isNodeDue : Bool) : List Json → Except Error (List PathElement)
  | [] => .ok []
  | item :: rest => do
      let first ← readElement isNodeDue item
      let more ← readElements (!isNodeDue) rest
      return first :: more

/-- A pattern has at most one shape, and no node fields beside it. -/
def readShape? (fields : Fields) : Except Error (Option String) :=
  match shapeFields.filter fields.has with
  | [] => .ok none
  | [shape] =>
      match nodeFields.find? fields.has with
      | some field => do
          .error (unexpected field (.noNodeFields shape) (← fields.required field))
      | none => .ok (some shape)
  | first :: second :: _ => do
      .error (unexpected second (.onlyShape first) (← fields.required second))

/-- Text behind the keyword, or a pattern. -/
def readPatternFields (use : PatternUse) (fields : Fields) : Except Error Clause := do
  match ← readShape? fields with
  | none => return .pattern use (.node (.pattern (← readNodeFields fields)))
  | some shape =>
      if shape = "literal" then
        return .spliced use.keyword (← fields.requiredString "literal")
      else if shape = "multiple" then do
        let items ← readArray "multiple" (← fields.required "multiple")
        return .pattern use (.nodes (← readEach (readNode "multiple") items))
      else do
        let items ← readArray "related" (← fields.required "related")
        return .pattern use (.path (← readElements true items))

/-- What is created or merged. -/
def readCreation (use : PatternUse) : Json → Except Error Clause
  | .string text => .ok (.spliced use.keyword text)
  | value => do
      let fields ← readFields use.keyword.key (nodeFields ++ shapeFields) value
      readPatternFields use fields

/-- What is matched; a flag says whether it may be missing. -/
def readMatch : Json → Except Error Clause
  | .string text => .ok (.spliced .find text)
  | value => do
      let fields ← readFields Keyword.find.key (nodeFields ++ shapeFields ++ ["optional"]) value
      let optional ← fields.flag "optional"
      readPatternFields (if optional then .findOptional else .find) fields

end Cypher.Payload
