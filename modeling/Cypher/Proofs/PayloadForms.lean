import Cypher.Compile

/-!
# The parts of payloads

Every part of a payload has a form: what it has to be is known from where it
stands. A form says how a part of it is read and to what, and which forms the
parts of that part have, by the names of its fields or by their places in a list.
What is `Within` a payload is found by going from part to part.

Two values that differ in one part only are read one after the other in the same
way, up to that part: `Carries` says that an error there is the error of the
whole. It has one rule for each way in which readers are put together.
-/

namespace Cypher.Payload

/-! ## Forms -/

/-- What a part of a payload is. -/
inductive Form
  /-- A payload, or the body of a call. -/
  | clauses
  /-- An object with one clause. -/
  | clause
  /-- What stands behind the name of a clause. -/
  | body (kind : ClauseKind)
  /-- The body of a loop. -/
  | loopBody
  /-- The nodes under `multiple`. -/
  | nodes
  | node (key : String)
  /-- The elements under `related`. -/
  | elements
  | element (isNodeDue : Bool)
  | label
  /-- The conditions on one identifier. -/
  | conditions (key : String)
  /-- The condition on a property. -/
  | condition (property : String)
  | operand (key : String)
  | properties
  /-- What a stage hands on. -/
  | items (stage : Stage)
  | projectionItem (stage : Stage)
  | sortItem
  /-- The values that are unwound. -/
  | values
  | text (key : String)
  | names (key : String)
  | flag (key : String)
  | hop (key : String)
  deriving DecidableEq

/-- Whether something could be read. -/
def passed {α : Type} (result : Except Error α) : Except Error Unit := result.map fun _ => ()

/-- Reads a flag. -/
def readFlag (key : String) : Json → Except Error Bool
  | .bool value => .ok value
  | value => .error (unexpected key .boolean value)

/-- Reads a list of values. -/
def readValues : Json → Except Error (List Value)
  | .array items => readEach (readValue "values") items
  | value => .error (unexpected "values" .array value)

/-- Reads an object with one clause. -/
def readClause (home : AllocatorId) : Json → Except Error Clause
  | .object entries => readClauseObject home entries
  | value => .error (unexpected "payload" .clauseObject value)

/-- Reads the body of a loop. -/
def readLoop (home : AllocatorId) (value : Json) : Except Error (List Clause) := do
  if let .array items := value then let _ ← readArray "body" (.array items)
  readClauses home value

namespace Form

/-- Whether a part of this form can be read. -/
def read (home : AllocatorId) : Form → Json → Except Error Unit
  | clauses, value => passed (readClauses home value)
  | clause, value => passed (readClause home value)
  | body kind, value => passed (readBody home kind value)
  | loopBody, value => passed (readLoop home value)
  | nodes, value => passed (readArray "multiple" value >>= readEach (readNode "multiple"))
  | node key, value => passed (readNode key value)
  | elements, value => passed (readArray "related" value >>= readElements true)
  | element isNodeDue, value => passed (readElement isNodeDue value)
  | label, value => passed (readLabel value)
  | conditions key, value => passed (readConditions key value)
  | condition property, value => passed (readCondition property value)
  | operand key, value => passed (readOperand key value)
  | properties, value => passed (readProperties "properties" value)
  | items stage, value => passed (readStageItems stage value)
  | projectionItem stage, value => passed (readProjectionItem (stage.keyword false).key value)
  | sortItem, value => passed (readSortItem value)
  | values, value => passed (readValues value)
  | text key, value => passed (readString key value)
  | names key, value => passed (readStrings key value)
  | flag key, value => passed (readFlag key value)
  | hop key, value => passed (readHop key value)

/-- What is read where something of the form stands. -/
def Result : Form → Type
  | clauses | loopBody => List Clause
  | clause | body _ => Clause
  | nodes => List Node
  | node _ => Node
  | elements => List PathElement
  | element _ => PathElement
  | label => Label
  | conditions _ => Conditions
  | condition _ => Condition
  | operand _ => Operand
  | properties => Properties
  | items _ => Bool → Clause
  | projectionItem _ => ProjectionItem
  | sortItem => SortItem
  | values => List Value
  | text _ => String
  | names _ => List String
  | flag _ => Bool
  | hop _ => HopBound

/-- Reads something of the form. -/
def result (home : AllocatorId) : (form : Form) → Json → Except Error form.Result
  | clauses => readClauses home
  | clause => readClause home
  | body kind => readBody home kind
  | loopBody => readLoop home
  | nodes => fun value => readArray "multiple" value >>= readEach (readNode "multiple")
  | node key => readNode key
  | elements => fun value => readArray "related" value >>= readElements true
  | element isNodeDue => readElement isNodeDue
  | label => readLabel
  | conditions key => readConditions key
  | condition property => readCondition property
  | operand key => readOperand key
  | properties => readProperties "properties"
  | items stage => readStageItems stage
  | projectionItem stage => readProjectionItem (stage.keyword false).key
  | sortItem => readSortItem
  | values => readValues
  | text key => readString key
  | names key => readStrings key
  | flag key => readFlag key
  | hop key => readHop key

theorem read_eq_passed (home : AllocatorId) (form : Form) (value : Json) :
    form.read home value = passed (form.result home value) := by
  cases form <;> rfl

/-- The fields of an object with one clause. -/
def clauseTable : List (String × Form) := ClauseKind.all.map fun kind => (kind.key, body kind)

def nodeTable : List (String × Form) :=
  [("identifier", text "identifier"), ("label", label), ("where", conditions "where"),
    ("properties", properties)]

def shapeTable : List (String × Form) :=
  [("literal", text "literal"), ("multiple", nodes), ("related", elements)]

def relationshipTable : List (String × Form) :=
  [("direction", text "direction"), ("identifier", text "identifier"), ("name", names "name"),
    ("where", conditions "where"), ("properties", properties), ("minHops", hop "minHops"),
    ("maxHops", hop "maxHops")]

def sortTable : List (String × Form) :=
  [("identifier", text "identifier"), ("property", text "property"), ("direction", text "direction")]

/-- The fields that an object of this form may have, with the forms of their values. -/
def table : Form → List (String × Form)
  | clauses | clause | loopBody => clauseTable
  | body .find => nodeTable ++ shapeTable ++ [("optional", flag "optional")]
  | body (.create _) => nodeTable ++ shapeTable
  | body (.assign _) => [("identifier", text "identifier"), ("properties", properties)]
  | body .remove =>
      [("identifier", text "identifier"), ("properties", names "properties"),
        ("labels", names "labels")]
  | body .delete =>
      [("identifiers", names "identifiers"), ("literal", text "literal"), ("detach", flag "detach")]
  | body (.project stage) => [("items", items stage), ("distinct", flag "distinct")]
  | body .sort => sortTable
  | body .unwind => [("value", text "value"), ("values", values), ("as", text "as")]
  | body .forEach => [("variable", text "variable"), ("list", text "list"), ("body", loopBody)]
  | body .call => clauseTable
  | node _ => nodeTable
  -- an element with a direction is a relationship
  | element _ => nodeTable ++ relationshipTable
  | label => [("all", names "all"), ("any", names "any")]
  | condition _ =>
      Operator.all.map (fun operator => (operator.key, operand operator.key)) ++
        [(literalKey, text literalKey)]
  | operand _ => [(literalKey, text literalKey)]
  | projectionItem _ =>
      [("identifier", text "identifier"), ("property", text "property"), ("alias", text "alias")]
  | sortItem => sortTable
  | _ => []

/-- The form of every entry, for objects whose names are those of the caller. -/
def entry? : Form → String → Option Form
  | body .restrict, identifier => some (conditions identifier)
  | conditions _, property => some (condition property)
  | properties, property => some (operand property)
  | _, _ => none

/-- The form of the items of a list, by their places. -/
def item? : Form → Nat → Option Form
  | clauses, _ => some clause
  | loopBody, _ => some clause
  | body .call, _ => some clause
  | nodes, _ => some (node "multiple")
  | elements, place => some (element (place % 2 = 0))
  | items stage, _ => some (projectionItem stage)
  | body (.project stage), _ => some (projectionItem stage)
  | body .sort, _ => some sortItem
  | _, _ => none

/-- The names of an object are those of the caller, and it may have any. -/
def isOpen : Form → Bool
  | body .restrict | conditions _ | properties => true
  | _ => false

/-- Data of the caller, which may be null. -/
def isData : Form → Bool
  | condition _ | operand _ => true
  | _ => false

/-- A list of this form has names or data of the caller, which are not parts any more. -/
def isFlat : Form → Bool
  | label | values | names _ | condition _ | operand _ => true
  | _ => false

end Form

/-- Going into the first value, part by part, one comes to the part, which has that form. The second
value is the first one with another part in its place. -/
inductive Within : Form → Json → Json → Form → Json → Json → Prop
  | here {form : Form} {old new : Json} : Within form old new form old new
  | field {outer middle inner : Form} {name : String} {old new part part' : Json}
      {before after : Fields} : (name, middle) ∈ outer.table → (∀ entry ∈ before, entry.1 ≠ name) →
      Within middle old new inner part part' →
      Within outer (.object (before ++ (name, old) :: after)) (.object (before ++ (name, new) :: after))
        inner part part'
  | entry {outer middle inner : Form} {name : String} {old new part part' : Json}
      {before after : Fields} : outer.entry? name = some middle →
      Within middle old new inner part part' →
      Within outer (.object (before ++ (name, old) :: after)) (.object (before ++ (name, new) :: after))
        inner part part'
  | item {outer middle inner : Form} {old new part part' : Json} {before after : List Json} :
      outer.item? before.length = some middle → Within middle old new inner part part' →
      Within outer (.array (before ++ old :: after)) (.array (before ++ new :: after))
        inner part part'

/-! ## Errors that are carried outwards -/

/-- When the whole can be read, then the part can, and when another part in its place cannot be
read, then the other whole cannot, for the same reason. -/
def Carries {α : Type} (part part' : Except Error Unit) (whole whole' : Except Error α) : Prop :=
  ∀ result, whole = .ok result → part = .ok () ∧ ∀ error, part' = .error error → whole' = .error error

section Rules

variable {α β : Type} {part part' : Except Error Unit} {whole whole' : Except Error α}

theorem passed_eq_ok {result : α} (read : whole = .ok result) : passed whole = .ok () := by
  rw [read]
  rfl

theorem passed_eq_error {error : Error} : passed whole = .error error ↔ whole = .error error := by
  unfold passed
  cases whole with
  | ok result => exact ⟨nofun, nofun⟩
  | error reason => rw [Except.map, Except.error.injEq, Except.error.injEq]

theorem carries_refl : Carries part part' part part' := by
  intro _ fine
  exact ⟨fine, fun _ failed => failed⟩

/-- What is read does not matter, only whether it can be. -/
theorem carries_of_passed (carries : Carries part part' (passed whole) (passed whole')) :
    Carries part part' whole whole' := by
  intro result read
  obtain ⟨fine, failing⟩ := carries () (passed_eq_ok read)
  exact ⟨fine, fun error failed => passed_eq_error.mp (failing error failed)⟩

theorem carries_read : Carries (passed whole) (passed whole') whole whole' := by
  intro result read
  exact ⟨passed_eq_ok read, fun error failed => passed_eq_error.mp failed⟩

/-- The part is read first. -/
theorem carries_first {next next' : α → Except Error β} (carries : Carries part part' whole whole') :
    Carries part part' (whole >>= next) (whole' >>= next') := by
  intro result read
  obtain ⟨value, first, -⟩ := bind_eq_ok read
  obtain ⟨fine, failing⟩ := carries value first
  refine ⟨fine, fun error failed => ?_⟩
  rw [failing error failed]
  rfl

/-- Something else is read first, which is the same in both. -/
theorem carries_later {first first' : Except Error α} {next next' : α → Except Error β}
    (same : ∀ value, first = .ok value →
      first' = .ok value ∧ Carries part part' (next value) (next' value)) :
    Carries part part' (first >>= next) (first' >>= next') := by
  intro result read
  obtain ⟨value, passed, rest⟩ := bind_eq_ok read
  obtain ⟨passed', carries⟩ := same value passed
  rw [passed']
  exact carries result rest

theorem carries_map {make make' : α → β} (carries : Carries part part' whole whole') :
    Carries part part' (whole.map make) (whole'.map make') := by
  intro result read
  obtain ⟨value, first, -⟩ := map_eq_ok read
  obtain ⟨fine, failing⟩ := carries value first
  refine ⟨fine, fun error failed => ?_⟩
  rw [failing error failed]
  rfl

theorem carries_passed (carries : Carries part part' whole whole') :
    Carries part part' (passed whole) (passed whole') :=
  carries_map carries

/-- A form says of its parts only whether they can be read. -/
theorem carries_result {home : AllocatorId} {form : Form} {old new : Json} :
    Carries (form.read home old) (form.read home new) (form.result home old)
      (form.result home new) := by
  rw [form.read_eq_passed, form.read_eq_passed]
  exact carries_read

theorem carries_of_result {home : AllocatorId} {form : Form} {old new : Json}
    (carries : Carries part part' (form.result home old) (form.result home new)) :
    Carries part part' (form.read home old) (form.read home new) := by
  rw [form.read_eq_passed, form.read_eq_passed]
  exact carries_passed carries

theorem Carries.trans {middle middle' : Except Error Unit} (inner : Carries part part' middle middle')
    (outer : Carries middle middle' whole whole') : Carries part part' whole whole' := by
  intro result read
  obtain ⟨fine, failing⟩ := outer result read
  obtain ⟨fine', failing'⟩ := inner () fine
  exact ⟨fine', fun error failed => failing error (failing' error failed)⟩

end Rules

end Cypher.Payload
