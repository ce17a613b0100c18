import Cypher.Payload.Pattern

/-!
# Clauses in payloads

A payload is an object with one clause, or an array of such objects. A string
in the place of a clause's body is text of the caller.
-/

namespace Cypher.Payload

/-- The clauses that payloads know. -/
inductive ClauseKind
  | find
  | create (use : PatternUse)
  | assign (moment : SetMoment)
  | remove
  | delete
  | project (stage : Stage)
  | sort
  | unwind
  | page (part : Page)
  | restrict
  | forEach
  | call
  | raw
  deriving DecidableEq

namespace ClauseKind

def all : List ClauseKind :=
  [find, create .create, create .merge, assign .always, assign .onCreate, assign .onMatch, remove,
    delete, project .result, sort, project .next, unwind, page .skip, page .limit, restrict,
    forEach, call, raw]

/-- The name of a clause. -/
def key : ClauseKind → String
  | find => Keyword.find.key
  | create use => use.keyword.key
  | assign moment => moment.keyword.key
  | remove => Keyword.remove.key
  | delete => Keyword.delete.key
  | project stage => (stage.keyword false).key
  | sort => Keyword.order.key
  | unwind => Keyword.unwind.key
  | page part => part.keyword.key
  | restrict => Keyword.restrict.key
  | forEach => Keyword.forEach.key
  | call => Keyword.call.key
  | raw => "raw"

def ofKey? (key : String) : Option ClauseKind := all.find? fun kind => kind.key == key

end ClauseKind

def readAssignment (moment : SetMoment) : Json → Except Error Clause
  | .string text => .ok (.spliced moment.keyword text)
  | value => do
      let fields ← readFields moment.keyword.key ["identifier", "properties"] value
      let identifier ← fields.requiredString "identifier"
      let properties ← readProperties "properties" (← fields.required "properties")
      return .assign moment ⟨identifier, properties⟩

def readRemoval : Json → Except Error Clause
  | .string text => .ok (.spliced .remove text)
  | value => do
      let fields ← readFields Keyword.remove.key ["identifier", "properties", "labels"] value
      fields.exactlyOne "properties" "labels"
      let identifier ← fields.requiredString "identifier"
      match ← fields.strings? "labels" with
      | some labels => return .remove (.labels identifier labels)
      | none => return .remove (.properties identifier ((← fields.strings? "properties").getD []))

def readDeletion : Json → Except Error Clause
  | .string text => .ok (.spliced .delete text)
  | value => do
      let fields ← readFields Keyword.delete.key ["identifiers", "literal", "detach"] value
      fields.exactlyOne "identifiers" "literal"
      let detach ← fields.flag "detach"
      match ← fields.string? "literal" with
      | some text => return .delete detach (.literal text)
      | none => return .delete detach (.identifiers ((← fields.strings? "identifiers").getD []))

/-- An identifier alone, or an object. -/
def readProjectionItem (key : String) : Json → Except Error ProjectionItem
  | .string identifier => .ok ⟨identifier, none, none⟩
  | value => do
      let fields ← readFields key ["identifier", "property", "alias"] value
      let identifier ← fields.requiredString "identifier"
      let property ← fields.string? "property"
      let newName ← fields.string? "alias"
      return ⟨identifier, property, newName⟩

/-- Identifiers, or items. -/
def readProjection (key : String) (items : List Json) : Except Error Projection :=
  if items.all Json.isString then do return .names (← readEach (readString key) items)
  else do return .items (← readEach (readProjectionItem key) items)

/-- Text of the caller, or a projection, still to be told whether equal rows are left out. -/
def readStageItems (stage : Stage) : Json → Except Error (Bool → Clause)
  | .string text => .ok fun distinct => .spliced (stage.keyword distinct) text
  | .array items => do
      let projection ← readProjection (stage.keyword false).key items
      return fun distinct => .project stage distinct projection
  | value => .error (unexpected (stage.keyword false).key .projection value)

/-- What goes on, perhaps with a flag that leaves out equal rows. -/
def readStage (stage : Stage) : Json → Except Error Clause
  | .object entries => do
      let fields ← readFields (stage.keyword false).key ["items", "distinct"] (.object entries)
      let clause ← readStageItems stage (← fields.required "items")
      return clause (← fields.flag "distinct")
  | value => do return (← readStageItems stage value) false

/-- A direction is read without regard to case. -/
def readSortDirection (name : String) : Except Error SortDirection :=
  if name.toList.map Char.toLower = ['a', 's', 'c'] then .ok .ascending
  else if name.toList.map Char.toLower = ['d', 'e', 's', 'c'] then .ok .descending
  else .error (.shape "direction" .sortDirection (.text name))

/-- An identifier alone, or an object. -/
def readSortItem : Json → Except Error SortItem
  | .string identifier => .ok ⟨identifier, none, none⟩
  | value => do
      let fields ← readFields Keyword.order.key ["identifier", "property", "direction"] value
      let direction ← match ← fields.string? "direction" with
        | some name => (readSortDirection name).map some
        | none => pure none
      let identifier ← fields.requiredString "identifier"
      let property ← fields.string? "property"
      return ⟨identifier, property, direction⟩

def readSorting : Json → Except Error Clause
  | .string text => .ok (.spliced .order text)
  | .array items => do return .sort (← readEach readSortItem items)
  | .object entries => do return .sort [← readSortItem (.object entries)]
  | value => .error (unexpected Keyword.order.key .sorting value)

def readUnwinding : Json → Except Error Clause
  | .string text => .ok (.spliced .unwind text)
  | value => do
      let fields ← readFields Keyword.unwind.key ["value", "values", "as"] value
      fields.exactlyOne "value" "values"
      let newName ← fields.requiredString "as"
      match ← fields.string? "value" with
      | some text => return .unwind (.expression text) newName
      | none =>
          match ← fields.required "values" with
          | .array items =>
              return .unwind (.values (← readEach (readValue "values") items)) newName
          | other => .error (unexpected "values" .array other)

def readPage (part : Page) : Json → Except Error Clause
  | .string text => .ok (.spliced part.keyword text)
  | .number number =>
      match number.natural? with
      | some count => .ok (.page part count)
      | none => .error (unexpected part.keyword.key .natural (.number number))
  | value => .error (unexpected part.keyword.key .naturalOrString value)

def readRestriction : Json → Except Error Clause
  | .string text => .ok (.spliced .restrict text)
  | value => do return .restrict (← readCriteria Keyword.restrict.key value)

/-- Reads the body of a clause that has no clauses inside. -/
def readPlain : ClauseKind → Json → Except Error Clause
  | .find, value => readMatch value
  | .create use, value => readCreation use value
  | .assign moment, value => readAssignment moment value
  | .remove, value => readRemoval value
  | .delete, value => readDeletion value
  | .project stage, value => readStage stage value
  | .sort, value => readSorting value
  | .unwind, value => readUnwinding value
  | .page part, value => readPage part value
  | .restrict, value => readRestriction value
  | kind, value => (readString kind.key value).map .raw

/-- The fields of a loop. -/
def loopFields : List String := ["variable", "list", "body"]

/-- Refuses an object that is not one clause. -/
def readKind (entries : List (String × Json)) : Except Error ClauseKind :=
  match entries.find? fun entry => (ClauseKind.ofKey? entry.1).isNone with
  | some entry => .error (unexpected entry.1 .clauseKey entry.2)
  | none =>
      match entries with
      | [entry] => .ok ((ClauseKind.ofKey? entry.1).getD .raw)
      | _ => .error (unexpected "payload" .oneClauseKey (.object entries))

mutual

/-- Reads a payload into clauses. Nested clauses bind through the same allocator. -/
def readClauses (allocator : AllocatorId) : Json → Except Error (List Clause)
  | .array items => readClauseList allocator items
  | .object entries => do return [← readClauseObject allocator entries]
  | value => .error (unexpected "payload" .clauseObjects value)

/-- Reads payload objects, in order. -/
def readClauseList (allocator : AllocatorId) : List Json → Except Error (List Clause)
  | [] => .ok []
  | .object entries :: rest => do
      let first ← readClauseObject allocator entries
      let more ← readClauseList allocator rest
      return first :: more
  | value :: _ => .error (unexpected "payload" .clauseObject value)

/-- Reads an object with one clause. -/
def readClauseObject (allocator : AllocatorId) (entries : List (String × Json)) :
    Except Error Clause := do
  let kind ← readKind entries
  match entries with
  | [] => .error (unexpected "payload" .oneClauseKey (.object []))
  | (_, body) :: _ => readBody allocator kind body

/-- Reads the body of a clause. -/
def readBody (allocator : AllocatorId) : ClauseKind → Json → Except Error Clause
  | .call, .string text => .ok (.spliced .call text)
  | .call, .array items => do
      -- a call of no clauses is refused before anything is read
      let _ ← readArray Keyword.call.key (.array items)
      return .call ⟨[], ← readClauseList allocator items, allocator⟩
  | .call, .object entries => do
      return .call ⟨[], [← readClauseObject allocator entries], allocator⟩
  | .call, value => .error (unexpected "payload" .clauseObjects value)
  | .forEach, .string text => .ok (.spliced .forEach text)
  | .forEach, .object fields => do
      checkFields loopFields fields
      let item ← Fields.requiredString fields "variable"
      let list ← Fields.requiredString fields "list"
      let clauses ← readLoopBody allocator fields
      return .forEach item list ⟨[], clauses, allocator⟩
  | .forEach, value => .error (unexpected Keyword.forEach.key .object value)
  | kind, value => readPlain kind value

/-- Reads the body of a loop from its fields. -/
def readLoopBody (allocator : AllocatorId) : List (String × Json) → Except Error (List Clause)
  | [] => .error (.shape "body" .value .nothing)
  | (name, value) :: rest =>
      if name = "body" then do
        if let .array items := value then let _ ← readArray "body" (.array items)
        readClauses allocator value
      else readLoopBody allocator rest

end

end Cypher.Payload
