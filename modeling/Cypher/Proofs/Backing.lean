import Cypher.Proofs.AllocatorRuns
import Cypher.Proofs.Atomicity
import Cypher.Proofs.CoveredDrafts

/-!
# Values behind references

A clause gives values, and its fragment refers to parameters. Rendering binds
each value before it writes the reference to it, and an allocator that only
binds and reserves loses no parameter. So the references of a fragment, in the
order in which they are written, are to the values of its clause. What a clause
has of conditions that were bound before, and of bodies that were written
before, is taken over: that it refers to the right values is a fact about the
allocator that it was bound through.
-/

namespace Cypher

open Fragment (parameters pieceParameters allParameters)

variable {α β : Type}

/-! ## Parameters that stay -/

theorem findNamed?_append {name : String} {value : α} {first : List (String × α)}
    (found : findNamed? name first = some value) (second : List (String × α)) :
    findNamed? name (first ++ second) = some value := by
  induction first with
  | nil => cases found
  | cons entry rest ih =>
    rw [findNamed?] at found
    rw [List.cons_append, findNamed?]
    split
    · next same => rwa [if_pos same] at found
    · next other =>
      rw [if_neg other] at found
      exact ih found

namespace Allocator

/-- There is a parameter of that name, with that value. -/
def Holds (allocator : Allocator) (name : String) (value : Value) : Prop :=
  allocator.parameters.get? name = some value

/-- What the first allocator holds, the second one holds too. -/
def Keeps (before after : Allocator) : Prop :=
  ∀ name value, before.Holds name value → after.Holds name value

/-- The names are those of parameters that have the values, one by one. -/
def Backs (allocator : Allocator) : List String → List Value → Prop :=
  List.Forall₂ allocator.Holds

theorem Keeps.refl (allocator : Allocator) : allocator.Keeps allocator := fun _ _ held => held

theorem Keeps.trans {first second third : Allocator} (here : first.Keeps second)
    (there : second.Keeps third) : first.Keeps third :=
  fun name value held => there name value (here name value held)

theorem keeps_empty (allocator : Allocator) : empty.Keeps allocator := by
  intro name value held
  cases held

theorem holds_bind (allocator : Allocator) (name : String) (value : Value) :
    (allocator.bind name value).2.Holds (allocator.bind name value).1 value :=
  findNamed?_setEntry _ value _

theorem keeps_bind (allocator : Allocator) (name : String) (value : Value) :
    allocator.Keeps (allocator.bind name value).2 := by
  intro other held found
  unfold Holds OrderedMap.get?
  rw [entries_bind]
  exact findNamed?_append found _

namespace Backs

variable {allocator after : Allocator} {first second : List String} {values values' : List Value}

theorem single {name : String} {value : Value} (held : allocator.Holds name value) :
    allocator.Backs [name] [value] :=
  .cons held .nil

theorem append (here : allocator.Backs first values) (there : allocator.Backs second values') :
    allocator.Backs (first ++ second) (values ++ values') :=
  List.rel_append here there

theorem keeps (backs : allocator.Backs first values) (keeps : allocator.Keeps after) :
    after.Backs first values :=
  List.Forall₂.imp keeps backs

theorem flatMap {refs : α → List String} {given : β → List Value} {results : List α}
    {items : List β}
    (each : List.Forall₂ (fun item result => allocator.Backs (refs result) (given item))
      items results) :
    allocator.Backs (results.flatMap refs) (items.flatMap given) := by
  induction each with
  | nil => exact .nil
  | cons backs _ ih => exact backs.append ih

end Backs
end Allocator

/-! ## What a rendering ensures -/

/-- A rendering that begins with what that allocator holds, or more, and succeeds, keeps all that
is held, and this can be told of its result. -/
def Ensures (start : Allocator) (told : Allocator → α → Prop) (render : Rendering α) : Prop :=
  ∀ allocator result after, start.Keeps allocator → render.run allocator = .ok result after →
    allocator.Keeps after ∧ told after result

section Rules

variable {start : Allocator} {told : Allocator → α → Prop} {told' : Allocator → β → Prop}

theorem ensures_pure {result : α} (holds : ∀ later, start.Keeps later → told later result) :
    Ensures start told (pure result) := by
  intro allocator _ _ kept ran
  cases ran
  exact ⟨.refl allocator, holds allocator kept⟩

theorem ensures_bind {render : Rendering α} {more : α → Rendering β}
    (first : Ensures start told render)
    (second : ∀ between result, start.Keeps between → told between result →
      Ensures between told' (more result)) :
    Ensures start told' (render >>= more) := by
  intro allocator result after kept ran
  obtain ⟨middle, between, ran, ran'⟩ := run_bind_ok ran
  obtain ⟨here, holds⟩ := first allocator middle between kept ran
  obtain ⟨there, holds'⟩ :=
    second between middle (kept.trans here) holds between result after (.refl between) ran'
  exact ⟨here.trans there, holds'⟩

/-- What is made of a result refers to what the result refers to. -/
theorem ensures_map {refs : α → List String} {refs' : β → List String} {values : List Value}
    {render : Rendering α} {make : α → β}
    (ensures : Ensures start (fun after result => after.Backs (refs result) values) render)
    (same : ∀ result, refs' (make result) = refs result) :
    Ensures start (fun after result => after.Backs (refs' result) values)
      (render >>= fun result => pure (make result)) := by
  refine ensures_bind ensures fun _ result _ backs => ensures_pure fun later keeps => ?_
  rw [same]
  exact backs.keeps keeps

/-- What is passed on is what the attempt gave. -/
theorem ensures_demand (attempt : Except Error α) :
    Ensures start (fun _ result => attempt = .ok result) (demand attempt) := by
  intro allocator result after _ ran
  cases attempt with
  | ok passed =>
    cases ran
    exact ⟨.refl allocator, rfl⟩
  | error error => cases ran

/-- A check before anything else. -/
theorem ensures_check {check : Except Error Unit} {render : Rendering α}
    (ensures : check = .ok () → Ensures start told render) :
    Ensures start told (demand check >>= fun _ => render) := by
  refine ensures_bind (ensures_demand check) fun between _ kept passed => ?_
  intro allocator result after kept' ran
  exact ensures passed allocator result after (kept.trans kept') ran

/-- A parameter holds the value that it was obtained for. -/
theorem ensures_parameter (name : String) (value : Value) :
    Ensures start (fun after granted => after.Backs [granted] [value])
      (obtainName (.parameter name value)) := by
  intro allocator _ _ _ ran
  cases ran
  exact ⟨allocator.keeps_bind name value, .single (allocator.holds_bind name value)⟩

theorem ensures_identifier (name : String) :
    Ensures start (fun _ _ => True) (obtainName (.identifier name)) := by
  intro allocator _ _ _ ran
  cases ran
  exact ⟨.refl allocator, trivial⟩

theorem ensures_each {told : Allocator → α → β → Prop} {render : α → Rendering β} {items : List α}
    (stays : ∀ first later item result, first.Keeps later → told first item result →
      told later item result)
    (each : ∀ item ∈ items, ∀ start, Ensures start (fun after => told after item) (render item)) :
    Ensures start (fun after => List.Forall₂ (told after) items) (renderEach render items) := by
  induction items generalizing start with
  | nil => exact ensures_pure fun _ _ => .nil
  | cons item rest ih =>
    simp only [List.forall_mem_cons] at each
    refine ensures_bind (each.1 start) fun between first _ holds => ?_
    refine ensures_bind (ih each.2) fun last more kept all => ensures_pure fun later kept' => ?_
    refine .cons (stays between later item first (kept.trans kept') holds) ?_
    exact all.imp fun item result holds => stays last later item result kept' holds

/-- Each result refers to the values of its item. -/
theorem ensures_renderEach {refs : β → List String} {given : α → List Value}
    {render : α → Rendering β} {items : List α}
    (each : ∀ item ∈ items, ∀ start,
      Ensures start (fun after result => after.Backs (refs result) (given item)) (render item)) :
    Ensures start (fun after results => after.Backs (results.flatMap refs) (items.flatMap given))
      (renderEach render items) := by
  have stays (first later : Allocator) (item : α) (result : β) (keeps : first.Keeps later)
      (backs : first.Backs (refs result) (given item)) :
      later.Backs (refs result) (given item) :=
    backs.keeps keeps
  intro allocator results after kept ran
  obtain ⟨keeps, all⟩ := ensures_each stays each allocator results after kept ran
  exact ⟨keeps, .flatMap all⟩

end Rules

/-! ## Conditions and properties -/

def Operand.values : Operand → List Value
  | value bound => [bound]
  | literal _ => []

def Condition.values (condition : Condition) : List Value :=
  condition.comparisons.flatMap fun comparison => comparison.2.values

def Conditions.values (conditions : Conditions) : List Value :=
  conditions.entries.flatMap fun entry => entry.2.values

def Criteria.values (criteria : Criteria) : List Value :=
  criteria.entries.flatMap fun entry => Conditions.values entry.2

def Properties.values (properties : Properties) : List Value :=
  properties.entries.flatMap fun entry => entry.2.values

section Parts

variable {start : Allocator}

theorem Operand.ensures_render (operand : Operand) (property : String) :
    Ensures start (fun after bound => after.Backs (pieceParameters bound.piece) operand.values)
      (operand.render property) := by
  cases operand with
  | value bound =>
    refine ensures_map (ensures_parameter property bound) fun name => ?_
    simp [BoundOperand.piece]
  | literal text =>
    refine ensures_pure fun _ _ => ?_
    rw [BoundOperand.piece, pieceParameters]
    exact .nil

theorem Condition.ensures_render (condition : Condition) (subject : Subject String)
    (property : String) :
    Ensures start (fun after comparisons =>
        after.Backs (⟨comparisons⟩ : Where String).parameters condition.values)
      (condition.render subject property) := by
  simp only [Where.parameters_eq]
  refine ensures_renderEach fun comparison _ start => ?_
  exact ensures_map (Operand.ensures_render comparison.2 property) fun operand => rfl

theorem Conditions.ensures_render (conditions : Conditions) (subject : Subject String) :
    Ensures start (fun after bound => after.Backs bound.parameters conditions.values)
      (conditions.render subject) := by
  refine ensures_map (ensures_renderEach fun entry _ start =>
    Condition.ensures_render entry.2 subject entry.1) fun parts => ?_
  rw [Where.parameters_flatten]

theorem Criteria.ensures_render (criteria : Criteria) :
    Ensures start (fun after bound => after.Backs bound.parameters criteria.values)
      criteria.render := by
  refine ensures_map (ensures_renderEach fun entry _ start =>
    Conditions.ensures_render entry.2 (.given entry.1)) fun parts => ?_
  rw [Where.parameters_flatten, List.flatMap_map]

theorem Properties.ensures_render (properties : Properties) (separator : String)
    {owner : Fragment String} (calm : parameters owner = []) :
    Ensures start (fun after parts => after.Backs (parts.flatMap parameters) properties.values)
      (properties.render separator owner) := by
  refine ensures_renderEach fun entry _ start => ?_
  refine ensures_map (Operand.ensures_render entry.2 entry.1) fun operand => ?_
  simp [calm]

theorem Properties.ensures_renderInline (properties : Properties) :
    Ensures start (fun after inside => after.Backs (parameters inside) properties.values)
      properties.renderInline := by
  refine ensures_map (Properties.ensures_render properties ": " Fragment.parameters_nil)
    fun parts => ?_
  rw [Fragment.parameters_braced]

/-! ## Patterns -/

theorem Where.inline?_eq_ok {condition : Where String} {inside : Fragment String}
    (fits : condition.inline? = .ok inside) : condition.inline = inside := by
  unfold Where.inline? at fits
  cases checked : Where.checkEntries [] condition.comparisons with
  | error error =>
    rw [checked] at fits
    cases fits
  | ok passed =>
    rw [checked] at fits
    exact Except.ok.inj fits

/-- The values that are written inside the pattern. -/
def Filter.inside : Filter → List Value
  | nothing => []
  | properties values => values.values
  | conditions required => required.inlineHalf.values

/-- The values that are handed on to the clause. -/
def Filter.handedOn : Filter → List Value
  | conditions required => required.hoistedHalf.values
  | _ => []

def Node.filter : Node → Filter
  | raw _ => .nothing
  | pattern shape => shape.filter

def Relationship.filter : Relationship → Filter
  | raw _ => .nothing
  | pattern shape => shape.filter

def PathElement.filter : PathElement → Filter
  | node element => element.filter
  | relationship element => element.filter

def Pattern.filters : Pattern → List Filter
  | node single => [single.filter]
  | nodes siblings => siblings.map Node.filter
  | path elements => elements.map PathElement.filter

/-- The values of a pattern. What its parts hand on stands behind all of them. -/
def Pattern.values (pattern : Pattern) : List Value :=
  pattern.filters.flatMap Filter.inside ++ pattern.filters.flatMap Filter.handedOn

/-- The pattern and its condition refer to the values of the filter. -/
def PatternText.Backed (allocator : Allocator) (filter : Filter) (done : PatternText String) :
    Prop :=
  allocator.Backs (Fragment.parameters done.text) filter.inside ∧
    allocator.Backs done.hoisted.parameters filter.handedOn

theorem PatternText.Backed.keeps {first later : Allocator} {filter : Filter}
    {done : PatternText String} (backed : done.Backed first filter) (keeps : first.Keeps later) :
    done.Backed later filter :=
  ⟨backed.1.keeps keeps, backed.2.keeps keeps⟩

theorem ensures_obtainSubject (stem : String) (subject : Option (Subject String)) :
    Ensures start (fun _ _ => True) (obtainSubject stem subject) := by
  cases subject with
  | none =>
    exact ensures_bind (ensures_identifier stem) fun _ _ _ _ => ensures_pure fun _ _ => trivial
  | some subject => exact ensures_pure fun _ _ => trivial

theorem Filter.ensures_render (filter : Filter) (mode : Mode) (stem : String)
    (identifier : Option String) :
    Ensures start (fun after done => PatternText.Backed after filter ⟨done.inside, done.hoisted⟩)
      (filter.render mode stem identifier) := by
  cases filter with
  | nothing =>
    refine ensures_pure fun _ _ => ⟨?_, .nil⟩
    rw [Fragment.parameters_nil]
    exact .nil
  | properties values =>
    refine ensures_bind values.ensures_renderInline fun _ inside _ backs => ?_
    exact ensures_pure fun later keeps => ⟨backs.keeps keeps, .nil⟩
  | conditions required =>
    refine ensures_check fun _ => ?_
    refine ensures_bind (Conditions.ensures_render required.inlineHalf _)
      fun between bound _ backs => ?_
    refine ensures_bind (ensures_demand _) fun between' inside kept passed => ?_
    -- the map refers to what the condition refers to
    obtain rfl : bound.inline = inside := Where.inline?_eq_ok passed
    have inside : between'.Backs (parameters bound.inline) required.inlineHalf.values := by
      rw [Where.parameters_inline]
      exact backs.keeps kept
    split
    · next nothing =>
      refine ensures_pure fun later keeps => ⟨inside.keeps keeps, ?_⟩
      have none : required.hoistedHalf.entries = [] := List.isEmpty_iff.mp nothing
      simp only [Filter.handedOn, Conditions.values, none]
      exact .nil
    · refine ensures_bind (ensures_obtainSubject stem _) fun _ subject kept _ => ?_
      refine ensures_bind (Conditions.ensures_render required.hoistedHalf subject)
        fun _ hoisted kept' handedOn => ?_
      exact ensures_pure fun later keeps =>
        ⟨inside.keeps ((kept.trans kept').trans keeps), handedOn.keeps keeps⟩

theorem Node.ensures_render (node : Node) (mode : Mode) :
    Ensures start (fun after done => done.Backed after node.filter) (node.render mode) := by
  cases node with
  | raw text => exact ensures_pure fun _ _ => ⟨by simpa using .nil, .nil⟩
  | pattern shape =>
    refine ensures_bind (shape.filter.ensures_render mode nodeIdentifier shape.identifier)
      fun _ filter _ backed => ensures_pure fun later keeps => ?_
    obtain ⟨inside, handedOn⟩ := backed.keeps keeps
    exact ⟨by simpa [Node.filter] using inside, handedOn⟩

theorem Relationship.ensures_render (relationship : Relationship) (mode : Mode) :
    Ensures start (fun after done => done.Backed after relationship.filter)
      (relationship.render mode) := by
  cases relationship with
  | raw text => exact ensures_pure fun _ _ => ⟨by simpa using .nil, .nil⟩
  | pattern shape =>
    refine ensures_check fun _ => ?_
    refine ensures_bind (shape.filter.ensures_render mode relationshipIdentifier shape.identifier)
      fun _ filter _ backed => ensures_pure fun later keeps => ?_
    obtain ⟨inside, handedOn⟩ := backed.keeps keeps
    refine ⟨?_, handedOn⟩
    cases shape.direction <;> simpa [Direction.around, Relationship.filter] using inside

theorem PathElement.ensures_render (element : PathElement) (mode : Mode) :
    Ensures start (fun after done => done.Backed after element.filter) (element.render mode) := by
  cases element with
  | node element => exact element.ensures_render mode
  | relationship element => exact element.ensures_render mode

/-- Patterns that are put together refer to the values inside them and then to those that they
hand on. -/
theorem PatternText.backs_together {allocator : Allocator} {filter : α → Filter}
    {join : List (Fragment String) → Fragment String}
    (joined : ∀ fragments,
      Fragment.parameters (join fragments) = fragments.flatMap Fragment.parameters)
    {items : List α} {parts : List (PatternText String)}
    (each : List.Forall₂ (fun item done => Backed allocator (filter item) done) items parts) :
    allocator.Backs
      (Fragment.parameters (together join parts).text ++ (together join parts).hoisted.parameters)
      ((items.map filter).flatMap Filter.inside ++ (items.map filter).flatMap Filter.handedOn) := by
  rw [together, joined, Where.parameters_flatten, List.flatMap_map, List.flatMap_map,
    List.flatMap_map, List.flatMap_map]
  exact .append (.flatMap (each.imp fun _ _ backed => backed.1))
    (.flatMap (each.imp fun _ _ backed => backed.2))

theorem Pattern.ensures_render (pattern : Pattern) (mode : Mode) :
    Ensures start (fun after done =>
        after.Backs (parameters done.text ++ done.hoisted.parameters) pattern.values)
      (pattern.render mode) := by
  cases pattern with
  | node single =>
    intro allocator done after kept ran
    obtain ⟨keeps, inside, handedOn⟩ := single.ensures_render mode allocator done after kept ran
    refine ⟨keeps, ?_⟩
    simpa [Pattern.values, Pattern.filters] using inside.append handedOn
  | nodes siblings =>
    refine ensures_check fun _ => ?_
    refine ensures_bind (ensures_each (fun _ _ _ _ keeps backed => backed.keeps keeps)
      fun sibling _ start => sibling.ensures_render mode) fun _ parts _ each => ?_
    refine ensures_pure fun later keeps => ?_
    exact PatternText.backs_together (Fragment.parameters_joinedBy ", ")
      (each.imp fun _ _ backed => backed.keeps keeps)
  | path elements =>
    refine ensures_check fun _ => ?_
    refine ensures_bind (ensures_each (fun _ _ _ _ keeps backed => backed.keeps keeps)
      fun element _ start => element.ensures_render mode) fun _ parts _ each => ?_
    refine ensures_pure fun later keeps => ?_
    exact PatternText.backs_together Fragment.parameters_flatten
      (each.imp fun _ _ backed => backed.keeps keeps)

/-! ## Clauses -/

/-- The values that are unwound, as one list. -/
def Unwinding.listed : Unwinding → List Value
  | expression _ => []
  | values items => [.list items]

theorem Assignment.ensures_render (assignment : Assignment) :
    Ensures start (fun after fragment =>
        after.Backs (parameters fragment) assignment.properties.values) assignment.render := by
  refine ensures_map (assignment.properties.ensures_render " = " (by simp)) fun parts => ?_
  rw [Fragment.parameters_joinedBy]

theorem Unwinding.ensures_render (source : Unwinding) :
    Ensures start (fun after piece => after.Backs (pieceParameters piece) source.listed)
      source.render := by
  cases source with
  | expression text => exact ensures_pure fun _ _ => by simpa using .nil
  | values items =>
    refine ensures_map (ensures_parameter _ _) fun name => ?_
    simp

end Parts

mutual

/-- The values that a clause still has to bind, in the order in which they are written. What is
written in a body has been bound, and so have the values of a bound condition. -/
def Clause.values : Clause → List Value
  | .pattern _ shape => shape.values
  | .assign _ assignment => assignment.properties.values
  | .unwind source _ => source.listed
  | .page _ count => [.int (Int64.ofNat count)]
  | .restrict criteria => criteria.values
  | .forEach _ _ body => Clause.valuesBody body
  | .call body => Clause.valuesBody body
  | .spliced _ _ => []
  | .raw _ => []
  | .remove _ => []
  | .delete _ _ => []
  | .project _ _ _ => []
  | .sort _ => []
  | .restrictBound _ => []

def Clause.valuesBody : Body Clause → List Value
  | ⟨_, pending, _⟩ => Clause.valuesAll pending

def Clause.valuesAll : List Clause → List Value
  | [] => []
  | clause :: rest => clause.values ++ Clause.valuesAll rest

end

theorem Clause.valuesAll_eq (clauses : List Clause) :
    Clause.valuesAll clauses = clauses.flatMap Clause.values := by
  induction clauses with
  | nil => rw [Clause.valuesAll, List.flatMap_nil]
  | cons clause rest ih => rw [Clause.valuesAll, ih, List.flatMap_cons]

mutual

/-- The values that a clause gives: those that it has still to bind, and those that were bound
before, which are in the allocator that they were bound through. -/
def Clause.Carries (world : AllocatorId → Allocator) (home : AllocatorId) :
    Clause → List Value → Prop
  | .restrictBound condition, values => (world home).Backs condition.parameters values
  | .forEach _ _ body, values => Clause.CarriesBody world body values
  | .call body, values => Clause.CarriesBody world body values
  | clause, values => values = clause.values

/-- The values that the clauses of a statement give. What is written refers to the first ones. -/
def Clause.CarriesBody (world : AllocatorId → Allocator) : Body Clause → List Value → Prop
  | ⟨written, pending, home⟩, values => ∃ bound rest, values = bound ++ rest ∧
      (world home).Backs (allParameters (written.map Prod.snd)) bound ∧
      Clause.CarriesAll world home pending rest

def Clause.CarriesAll (world : AllocatorId → Allocator) (home : AllocatorId) :
    List Clause → List Value → Prop
  | [], values => values = []
  | clause :: rest, values => ∃ first more, values = first ++ more ∧
      clause.Carries world home first ∧ Clause.CarriesAll world home rest more

end

namespace Clause

variable {world world' : AllocatorId → Allocator}

/-! ### What is carried stays -/

mutual

theorem Carries.keeps {home : AllocatorId} {clause : Clause} {values : List Value}
    (carries : clause.Carries world home values) (keeps : ∀ id, (world id).Keeps (world' id)) :
    clause.Carries world' home values := by
  cases clause with
  | restrictBound condition =>
    rw [Carries] at carries ⊢
    exact Allocator.Backs.keeps carries (keeps home)
  | forEach item list body =>
    rw [Carries] at carries ⊢
    exact CarriesBody.keeps carries keeps
  | call body =>
    rw [Carries] at carries ⊢
    exact CarriesBody.keeps carries keeps
  | _ => exact carries

theorem CarriesBody.keeps {body : Body Clause} {values : List Value}
    (carries : CarriesBody world body values) (keeps : ∀ id, (world id).Keeps (world' id)) :
    CarriesBody world' body values := by
  obtain ⟨written, pending, own⟩ := body
  obtain ⟨bound, rest, rfl, backs, carried⟩ := carries
  exact ⟨bound, rest, rfl, backs.keeps (keeps own), CarriesAll.keeps carried keeps⟩

theorem CarriesAll.keeps {home : AllocatorId} {clauses : List Clause} {values : List Value}
    (carries : CarriesAll world home clauses values) (keeps : ∀ id, (world id).Keeps (world' id)) :
    CarriesAll world' home clauses values := by
  cases clauses with
  | nil => exact carries
  | cons clause rest =>
    obtain ⟨first, more, rfl, here, there⟩ := carries
    exact ⟨first, more, rfl, Carries.keeps here keeps, CarriesAll.keeps there keeps⟩

end

theorem CarriesAll.append {home : AllocatorId} {first second : List Clause} {values values' : List Value}
    (here : CarriesAll world home first values) (there : CarriesAll world home second values') :
    CarriesAll world home (first ++ second) (values ++ values') := by
  induction first generalizing values with
  | nil =>
    obtain rfl : values = [] := here
    exact there
  | cons clause rest ih =>
    obtain ⟨own, more, rfl, carries, others⟩ := here
    exact ⟨own, more ++ values', List.append_assoc _ _ _, carries, ih others⟩

theorem carriesAll_valuesAll {home : AllocatorId} {clauses : List Clause}
    (each : ∀ clause ∈ clauses, clause.Carries world home clause.values) :
    CarriesAll world home clauses (valuesAll clauses) := by
  induction clauses with
  | nil => exact rfl
  | cons clause rest ih =>
    simp only [List.forall_mem_cons] at each
    exact ⟨_, _, rfl, each.1, ih each.2⟩

/-- A clause carries what its body carries. -/
theorem carries_of_body? {home : AllocatorId} {clause : Clause} {body : Body Clause}
    {values : List Value} (nested : clause.body? = some body)
    (inside : CarriesBody world body values) : clause.Carries world home values := by
  cases clause with
  | forEach item list loop =>
    obtain rfl := Option.some.inj nested
    exact inside
  | call called =>
    obtain rfl := Option.some.inj nested
    exact inside
  | _ => cases nested

theorem values_of_body? {clause : Clause} {body : Body Clause} (nested : clause.body? = some body) :
    clause.values = valuesBody body := by
  cases clause with
  | forEach item list loop =>
    obtain rfl := Option.some.inj nested
    rfl
  | call called =>
    obtain rfl := Option.some.inj nested
    rfl
  | _ => cases nested

/-- Fresh clauses carry the values that they have still to bind. -/
theorem Fresh.carries {clause : Clause} (fresh : clause.Fresh) (home : AllocatorId) :
    clause.Carries world home clause.values := by
  induction clause using Clause.induction generalizing home with
  | plain clause noBody =>
    cases fresh with
    | plain _ unbound =>
      cases clause with
      | restrictBound condition => exact absurd rfl (unbound condition)
      | forEach item list body => cases noBody
      | call body => cases noBody
      | _ => exact rfl
    | nested nested => simp [nested] at noBody
  | nested clause body nested ih =>
    obtain ⟨unwritten, clauses⟩ := fresh.inside nested
    rw [values_of_body? nested]
    refine carries_of_body? nested ?_
    obtain ⟨written, pending, own⟩ := body
    obtain rfl : written = [] := unwritten
    refine ⟨[], _, rfl, .nil, carriesAll_valuesAll fun inner member => ?_⟩
    exact ih inner (List.mem_append_right _ member) (clauses inner member) own

/-! ### Rendering binds what is carried -/

/-- A clause without a body refers to its values when it is rendered. -/
theorem ensures_render_of_plain {home : AllocatorId} {start : Allocator} {clause : Clause}
    {values : List Value} (plain : clause.body? = none) (carries : clause.Carries world home values)
    (kept : (world home).Keeps start) :
    Ensures start (fun after fragment => after.Backs (parameters fragment) values)
      (clause.render home) := by
  cases clause with
  | pattern use shape =>
    obtain rfl : values = shape.values := carries
    refine ensures_map (shape.ensures_render use.mode) fun drafted => ?_
    simp
  | assign moment assignment =>
    obtain rfl : values = assignment.properties.values := carries
    refine ensures_check fun _ => ?_
    refine ensures_map assignment.ensures_render fun fragment => ?_
    simp
  | unwind source newName =>
    obtain rfl : values = source.listed := carries
    refine ensures_check fun _ => ensures_check fun _ => ?_
    refine ensures_map source.ensures_render fun piece => ?_
    simp
  | page part count =>
    obtain rfl : values = [.int (Int64.ofNat count)] := carries
    refine ensures_check fun _ => ?_
    refine ensures_map (ensures_parameter _ _) fun name => ?_
    simp
  | restrict criteria =>
    obtain rfl : values = criteria.values := carries
    refine ensures_map criteria.ensures_render fun bound => ?_
    simp
  | restrictBound condition =>
    -- it was bound before, and what it refers to is still there
    have backs : (world home).Backs condition.parameters values := carries
    refine ensures_pure fun later keeps => ?_
    simpa using backs.keeps (kept.trans keeps)
  | delete detach deletion =>
    obtain rfl : values = [] := carries
    refine ensures_check fun _ => ensures_pure fun later _ => ?_
    have none : parameters (if detach then .fixed "DETACH " :: Keyword.delete.before deletion.fragment
        else Keyword.delete.before deletion.fragment : Fragment String) = [] := by
      split <;> simp
    rw [none]
    exact .nil
  | sort items =>
    obtain rfl : values = [] := carries
    refine ensures_check fun _ => ensures_check fun _ => ensures_pure fun later _ => ?_
    have none : parameters (Keyword.order.before
        (Fragment.joinedBy ", " (items.map SortItem.fragment)) : Fragment String) = [] := by
      simp [Fragment.parameters_joinedBy]
    rw [none]
    exact .nil
  | forEach item list body => cases plain
  | call body => cases plain
  | _ =>
    obtain rfl : values = [] := carries
    refine ensures_check fun _ => ensures_pure fun later _ => ?_
    simpa using .nil

mutual

theorem ensures_render {home : AllocatorId} {start : Allocator} {clause : Clause}
    {values : List Value} (carries : clause.Carries world home values)
    (kept : (world home).Keeps start) :
    Ensures start (fun after fragment => after.Backs (parameters fragment) values)
      (clause.render home) := by
  cases clause with
  | forEach item list body =>
    refine ensures_check fun _ => ensures_check fun _ => ?_
    refine ensures_map (ensures_renderBody carries kept) fun inner => ?_
    simp
  | call body =>
    refine ensures_map (ensures_renderBody carries kept) fun inner => ?_
    simp
  | _ => exact ensures_render_of_plain rfl carries kept

/-- A body is rendered only where it was bound, so what is written in it is still backed. -/
theorem ensures_renderBody {home : AllocatorId} {start : Allocator} {body : Body Clause}
    {values : List Value} {key : String} (carries : CarriesBody world body values)
    (kept : (world home).Keeps start) :
    Ensures start (fun after piece => after.Backs (pieceParameters piece) values)
      (renderBody home key body) := by
  obtain ⟨written, pending, own⟩ := body
  obtain ⟨bound, rest, rfl, backs, carried⟩ := carries
  refine ensures_check fun passed => ?_
  have same : own = home := by
    by_contra other
    rw [if_pos other] at passed
    cases passed
  subst same
  refine ensures_bind (ensures_renderAll carried kept) fun between fragments keeps others => ?_
  refine ensures_pure fun later keeps' => ?_
  rw [pieceParameters, Fragment.allParameters_eq, List.flatMap_append, ← Fragment.allParameters_eq,
    ← Fragment.allParameters_eq]
  exact .append (backs.keeps ((kept.trans keeps).trans keeps')) (others.keeps keeps')

theorem ensures_renderAll {home : AllocatorId} {start : Allocator} {clauses : List Clause}
    {values : List Value} (carries : CarriesAll world home clauses values)
    (kept : (world home).Keeps start) :
    Ensures start (fun after fragments => after.Backs (allParameters fragments) values)
      (renderAll home clauses) := by
  cases clauses with
  | nil =>
    obtain rfl : values = [] := carries
    exact ensures_pure fun _ _ => by simpa [allParameters] using .nil
  | cons clause rest =>
    obtain ⟨first, more, rfl, here, there⟩ := carries
    refine ensures_bind (ensures_render here kept) fun _ fragment keeps backs => ?_
    refine ensures_bind (ensures_renderAll there (kept.trans keeps)) fun _ others keeps' backs' => ?_
    refine ensures_pure fun later last => ?_
    rw [allParameters]
    exact .append (backs.keeps (keeps'.trans last)) (backs'.keeps last)

end

end Clause

/-! ## Statements -/

/-- A query that is written has the fragments that its clauses render to behind those that it
had. -/
theorem Query.rendered_of_write {query done : Query} {allocator after : Allocator}
    (written : query.write allocator = .ok (done, after)) :
    ∃ fragments,
      (Clause.renderAll query.allocator query.pending).run allocator = .ok fragments after ∧
        done.fragments = query.fragments ++ fragments := by
  obtain ⟨before, pending, home⟩ := query
  have renders := Clause.renders_renderAll home pending
  obtain ⟨checked, rfl, rfl⟩ := Query.write_eq_ok written
  refine ⟨_, run_eq_settle (fun names => (renders names).grants checked) allocator, ?_⟩
  exact Query.fragments_settled before pending home allocator

/-- Writing a query loses no parameter, and its fragments refer to all values of its clauses. -/
theorem Query.backs_write {world : AllocatorId → Allocator} {query done : Query}
    {after : Allocator} {values : List Value} (carries : Clause.CarriesBody world query values)
    (written : query.write (world query.allocator) = .ok (done, after)) :
    (world query.allocator).Keeps after ∧ after.Backs (allParameters done.fragments) values := by
  obtain ⟨before, pending, home⟩ := query
  obtain ⟨bound, rest, rfl, backs, carried⟩ := carries
  obtain ⟨fragments, ran, same⟩ := Query.rendered_of_write written
  obtain ⟨keeps, others⟩ :=
    Clause.ensures_renderAll carried (.refl _) (world home) _ _ (.refl _) ran
  refine ⟨keeps, ?_⟩
  rw [same, Fragment.allParameters_eq, List.flatMap_append, ← Fragment.allParameters_eq,
    ← Fragment.allParameters_eq]
  exact .append (backs.keeps keeps) others

end Cypher
