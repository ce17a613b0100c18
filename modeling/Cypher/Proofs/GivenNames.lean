import Cypher.Proofs.PlacedConditions
import Cypher.Proofs.SplitCriteria

/-!
# Names that the caller gives

The names of the caller are read off a clause in the order in which they stand
in its statement. An element of a pattern has its identifier, its labels or types
and the properties that are written inside of it; the comparisons that are handed
on stand behind all the elements, each with the identifier, if the caller gave
one, and the property. A nested statement has the names of its clauses.

The fragment of a clause has these names and no others, in this order, whatever
it asks for beside them (`Clause.yields_givenNames`).
-/

namespace Cypher

open Asking (Yields yields_pure yields_true yields_bind)

/-! ## The names in a fragment -/

namespace Fragment

variable {ρ σ : Type}

mutual

def pieceGivenNames : Piece ρ → List String
  | .name given => [given]
  | .body fragments => allGivenNames fragments
  | .fixed _ | .raw _ | .identifier _ | .parameter _ => []

/-- The names of the caller in a fragment, those in nested statements among them. -/
def givenNames : List (Piece ρ) → List String
  | [] => []
  | piece :: rest => pieceGivenNames piece ++ givenNames rest

def allGivenNames : List (List (Piece ρ)) → List String
  | [] => []
  | fragment :: rest => givenNames fragment ++ allGivenNames rest

end

attribute [simp] pieceGivenNames givenNames

@[simp] theorem givenNames_append (first second : Fragment ρ) :
    givenNames (first ++ second) = givenNames first ++ givenNames second := by
  induction first with
  | nil => simp
  | cons piece rest ih => simp [ih]

theorem givenNames_joinedBy (separator : String) (fragments : List (Fragment ρ)) :
    givenNames (joinedBy separator fragments) = fragments.flatMap givenNames := by
  fun_induction joinedBy separator fragments with
  | case1 => simp
  | case2 => simp
  | case3 fragment next rest ih => simp [ih]

@[simp] theorem givenNames_names (separator : String) (given : List String) :
    givenNames (names separator given : Fragment ρ) = given := by
  rw [names, givenNames_joinedBy, List.flatMap_map]
  simp

theorem givenNames_braced (entries : List (Fragment ρ)) :
    givenNames (braced entries) = entries.flatMap givenNames := by
  cases entries with
  | nil => simp [braced]
  | cons entry rest => simp [braced, givenNames_joinedBy]

theorem givenNames_flatten (fragments : List (Fragment ρ)) :
    givenNames fragments.flatten = fragments.flatMap givenNames := by
  induction fragments with
  | nil => simp
  | cons fragment rest ih => simp [ih]

theorem allGivenNames_eq (fragments : List (Fragment ρ)) :
    allGivenNames fragments = fragments.flatMap givenNames := by
  induction fragments with
  | nil => simp [allGivenNames]
  | cons fragment rest ih => simp [allGivenNames, ih]

mutual

theorem pieceGivenNames_map (f : ρ → σ) (piece : Piece ρ) :
    pieceGivenNames (mapPiece f piece) = pieceGivenNames piece := by
  cases piece with
  | body fragments => simpa [mapPiece] using allGivenNames_map f fragments
  | _ => simp [mapPiece]

theorem givenNames_map (f : ρ → σ) (fragment : List (Piece ρ)) :
    givenNames (map f fragment) = givenNames fragment := by
  cases fragment with
  | nil => simp [map]
  | cons piece rest => simp [map, pieceGivenNames_map f piece, givenNames_map f rest]

theorem allGivenNames_map (f : ρ → σ) (fragments : List (List (Piece ρ))) :
    allGivenNames (mapAll f fragments) = allGivenNames fragments := by
  cases fragments with
  | nil => simp [mapAll, allGivenNames]
  | cons fragment rest =>
    simp [mapAll, allGivenNames, givenNames_map f fragment, allGivenNames_map f rest]

end

end Fragment

open Fragment (givenNames pieceGivenNames)

/-! ## The names of a clause -/

/-- The identifier, if there is one, and the property, for each of the comparisons. -/
def comparedNames (identifier : Option String) (property : String)
    (comparisons : List (Operator × Operand)) : List String :=
  comparisons.flatMap fun _ => identifier.toList ++ [property]

def Criteria.givenNames (criteria : Criteria) : List String :=
  criteria.entries.flatMap fun conditions => conditions.2.entries.flatMap fun condition =>
    comparedNames (some conditions.1) condition.1 condition.2.comparisons

/-- The properties of a filter that are written inside the pattern. Of conditions, they are those
with an equality. -/
def Filter.namesInside : Filter → List String
  | nothing => []
  | properties values => values.names
  | conditions required => required.entries.flatMap fun entry =>
      comparedNames none entry.1 (theEquality entry.2.comparisons)

/-- The names in the comparisons that a filter hands on. -/
def Filter.namesBehind (identifier : Option String) : Filter → List String
  | nothing => []
  | properties _ => []
  | conditions required => required.entries.flatMap fun entry =>
      comparedNames identifier entry.1 (theOthers entry.2.comparisons)

def Label.givenNames : Label → List String
  | all names => names
  | any names => names
  | resolved _ => []

namespace PathElement

/-- The labels of a node, the types of a relationship. -/
def kindNames : PathElement → List String
  | node (.pattern shape) => shape.label.elim [] Label.givenNames
  | relationship (.pattern shape) => shape.types
  | _ => []

/-- The names of an element in its own place. -/
def namesInside (element : PathElement) : List String :=
  element.identifier?.toList ++ element.kindNames ++ element.filter.namesInside

/-- The names in the comparisons that an element hands on. -/
def namesBehind (element : PathElement) : List String :=
  element.filter.namesBehind element.identifier?

end PathElement

def Pattern.givenNames (pattern : Pattern) : List String :=
  pattern.elements.flatMap PathElement.namesInside ++
    pattern.elements.flatMap PathElement.namesBehind

def Assignment.givenNames (assignment : Assignment) : List String :=
  assignment.properties.names.flatMap fun property => [assignment.identifier, property]

def Removal.givenNames : Removal → List String
  | properties identifier names => names.flatMap fun name => [identifier, name]
  | labels identifier names => identifier :: names

def Deletion.givenNames : Deletion → List String
  | identifiers names => names
  | literal _ => []

def ProjectionItem.givenNames (item : ProjectionItem) : List String :=
  item.identifier :: item.property.toList ++ item.newName.toList

def Projection.givenNames : Projection → List String
  | names given => given
  | items given => given.flatMap ProjectionItem.givenNames

def SortItem.givenNames (item : SortItem) : List String := item.identifier :: item.property.toList

def Subject.given? {ρ : Type} : Subject ρ → Option String
  | given name => some name
  | synthesized _ => none

def Where.givenNames {ρ : Type} (condition : Where ρ) : List String :=
  condition.comparisons.flatMap fun comparison =>
    comparison.subject.given?.toList ++ [comparison.property]

mutual

/-- The names that the caller gives a clause, at any depth, in the order in which they are
written. -/
def Clause.givenNames : Clause → List String
  | .pattern _ shape => shape.givenNames
  | .assign _ assignment => assignment.givenNames
  | .remove removal => removal.givenNames
  | .delete _ deletion => deletion.givenNames
  | .project _ _ projection => projection.givenNames
  | .sort items => items.flatMap SortItem.givenNames
  | .unwind _ newName => [newName]
  | .restrict criteria => criteria.givenNames
  | .restrictBound condition => condition.givenNames
  | .forEach item _ body => item :: Clause.givenNamesBody body
  | .call body => Clause.givenNamesBody body
  | .spliced _ _ => []
  | .raw _ => []
  | .page _ _ => []

def Clause.givenNamesBody : Body Clause → List String
  | ⟨written, pending, _⟩ => Clause.givenNamesWritten written ++ Clause.givenNamesAll pending

def Clause.givenNamesWritten : List (Clause × Fragment String) → List String
  | [] => []
  | (clause, _) :: rest => clause.givenNames ++ Clause.givenNamesWritten rest

def Clause.givenNamesAll : List Clause → List String
  | [] => []
  | clause :: rest => clause.givenNames ++ Clause.givenNamesAll rest

end

/-- The names that the caller gives the clauses of a query. -/
def Query.givenNames (query : Query) : List String := query.clauses.flatMap Clause.givenNames

theorem Clause.givenNamesWritten_eq (written : List (Clause × Fragment String)) :
    Clause.givenNamesWritten written = (written.map Prod.fst).flatMap Clause.givenNames := by
  induction written with
  | nil => simp [Clause.givenNamesWritten]
  | cons entry rest ih => simp [Clause.givenNamesWritten, ih]

theorem Clause.givenNamesAll_eq (clauses : List Clause) :
    Clause.givenNamesAll clauses = clauses.flatMap Clause.givenNames := by
  induction clauses with
  | nil => simp [Clause.givenNamesAll]
  | cons clause rest ih => simp [Clause.givenNamesAll, ih]

theorem Clause.givenNamesBody_eq (body : Body Clause) :
    Clause.givenNamesBody body = Query.givenNames body := by
  obtain ⟨written, pending, allocator⟩ := body
  simp [Clause.givenNamesBody, Clause.givenNamesWritten_eq, Clause.givenNamesAll_eq,
    Query.givenNames, Query.clauses]

/-! ## Conditions and properties -/

section Drafts

variable {α β γ : Type}

/-- What is read of the result of each draft is read of the results of all. -/
theorem Asking.yields_map_askAll {read : β → γ} {told : α → γ} {draft : α → Asking β}
    {items : List α}
    (each : ∀ item ∈ items, Yields (fun done => read done = told item) (draft item)) :
    Yields (fun results => results.map read = items.map told) (askAll draft items) := by
  induction items with
  | nil => exact yields_pure rfl
  | cons item rest ih =>
    rw [List.forall_mem_cons] at each
    refine yields_bind each.1 fun first here => yields_bind (ih each.2) fun more there => ?_
    exact yields_pure (by rw [List.map_cons, here, there, List.map_cons])

theorem Asking.yields_flatMap_askAll {read : β → List γ} {told : α → List γ} {draft : α → Asking β}
    {items : List α}
    (each : ∀ item ∈ items, Yields (fun done => read done = told item) (draft item)) :
    Yields (fun results => results.flatMap read = items.flatMap told) (askAll draft items) := by
  intro asked
  rw [List.flatMap_def, yields_map_askAll each asked, ← List.flatMap_def]

end Drafts

open Asking (yields_map_askAll yields_flatMap_askAll)

section Texts

variable {ρ : Type}

@[simp] theorem BoundOperand.givenNames_piece (operand : BoundOperand ρ) :
    pieceGivenNames operand.piece = [] := by
  cases operand <;> simp [BoundOperand.piece]

@[simp] theorem Subject.givenNames_piece (subject : Subject ρ) :
    pieceGivenNames subject.piece = subject.given?.toList := by
  cases subject <;> simp [Subject.piece, Subject.given?]

theorem Comparison.givenNames_fragment (comparison : Comparison ρ) :
    givenNames comparison.fragment =
      comparison.subject.given?.toList ++ [comparison.property] := by
  rw [Comparison.fragment]
  split <;> simp

theorem Where.givenNames_expression (condition : Where ρ) :
    Fragment.givenNames condition.expression = condition.givenNames := by
  rw [Where.expression, Fragment.givenNames_joinedBy, List.flatMap_map, Where.givenNames]
  exact List.flatMap_congr fun comparison _ => comparison.givenNames_fragment

theorem Where.givenNames_inline (condition : Where ρ) :
    Fragment.givenNames condition.inline = condition.comparisons.map Comparison.property := by
  rw [Where.inline, Fragment.givenNames_braced, List.flatMap_map, List.map_eq_flatMap]
  exact List.flatMap_congr fun comparison _ => by simp [Comparison.entry]

theorem Where.givenNames_of_isEmpty {condition : Where ρ} (empty : condition.isEmpty = true) :
    condition.givenNames = [] := by
  unfold Where.isEmpty at empty
  rw [Where.givenNames, List.isEmpty_iff.mp empty, List.flatMap_nil]

theorem Where.givenNames_flatten (parts : List (List (Comparison ρ))) :
    (⟨parts.flatten⟩ : Where ρ).givenNames =
      parts.flatMap fun part => (⟨part⟩ : Where ρ).givenNames := by
  unfold Where.givenNames
  rw [← List.flatMap_id, List.flatMap_assoc]
  rfl

end Texts

/-- The comparisons of conditions, property by property. -/
theorem Conditions.yields_about (conditions : Conditions) (subject : Subject Ref) :
    Yields (fun bound => bound.comparisons.map (fun one => (one.subject, one.property)) =
        conditions.entries.flatMap fun entry => entry.2.comparisons.map fun _ => (subject, entry.1))
      (conditions.ask subject) := by
  have each : ∀ entry ∈ conditions.entries, Yields
      (fun part => part.map (fun one => (one.subject, one.property)) =
        entry.2.comparisons.map fun _ => (subject, entry.1))
      (entry.2.ask subject entry.1) := by
    intro entry _
    refine yields_map_askAll fun comparison _ => ?_
    exact yields_bind (yields_true _) fun operand _ => yields_pure rfl
  refine yields_bind (yields_flatMap_askAll each) fun parts told => yields_pure ?_
  rw [List.map_flatten, ← List.flatMap_def, told]

theorem Conditions.yields_givenNames (conditions : Conditions) (subject : Subject Ref) :
    Yields (fun bound => bound.givenNames = conditions.entries.flatMap fun entry =>
        comparedNames subject.given? entry.1 entry.2.comparisons) (conditions.ask subject) := by
  intro asked
  have names (condition : Where Ref) : condition.givenNames =
      (condition.comparisons.map fun one => (one.subject, one.property)).flatMap
        fun about => about.1.given?.toList ++ [about.2] := by
    rw [List.flatMap_map]
    rfl
  rw [names, conditions.yields_about subject asked, List.flatMap_assoc]
  exact List.flatMap_congr fun entry _ => List.flatMap_map ..

theorem Criteria.yields_givenNames (criteria : Criteria) :
    Yields (fun bound => bound.givenNames = criteria.givenNames) criteria.ask := by
  have each : ∀ entry ∈ criteria.entries, Yields
      (fun (part : Where Ref) => part.givenNames = entry.2.entries.flatMap fun condition =>
        comparedNames (some entry.1) condition.1 condition.2.comparisons)
      (Conditions.ask (.given entry.1) entry.2) :=
    fun entry _ => Conditions.yields_givenNames entry.2 (.given entry.1)
  refine yields_bind (yields_flatMap_askAll each) fun parts told => yields_pure ?_
  rw [Where.givenNames_flatten, List.flatMap_map]
  exact told

theorem Properties.yields_givenNames (properties : Properties) (separator : String)
    (owner : Fragment Ref) :
    Yields (fun parts => parts.flatMap givenNames =
        properties.names.flatMap fun name => givenNames owner ++ [name])
      (properties.ask separator owner) := by
  rw [OrderedMap.names, List.flatMap_map]
  refine yields_flatMap_askAll fun entry _ => ?_
  exact yields_bind (yields_true _) fun operand _ => yields_pure (by simp)

theorem Properties.yields_givenNames_inline (properties : Properties) :
    Yields (fun inside => givenNames inside = properties.names) properties.askInline := by
  refine yields_bind (properties.yields_givenNames ": " []) fun parts told => yields_pure ?_
  rw [Fragment.givenNames_braced, told]
  simp

/-! ## Patterns -/

theorem Conditions.yields_givenNames_inlineHalf (conditions : Conditions) (subject : Subject Ref) :
    Yields (fun bound => givenNames bound.inline = Filter.namesInside (.conditions conditions))
      (conditions.inlineHalf.ask subject) := by
  intro asked
  have about := congrArg (List.map Prod.snd) (conditions.inlineHalf.yields_about subject asked)
  rw [List.map_map, List.map_flatMap, inlineHalf, OrderedMap.flatMap_filterMap] at about
  rw [Where.givenNames_inline]
  refine about.trans (List.flatMap_congr fun entry _ => ?_)
  -- at most one comparison of each property is left
  rw [← map_firstEquality?]
  cases firstEquality? entry.2.comparisons <;> rfl

theorem Conditions.namesBehind_eq (conditions : Conditions) (identifier : Option String) :
    Filter.namesBehind identifier (.conditions conditions) =
      conditions.hoistedHalf.entries.flatMap fun entry =>
        comparedNames identifier entry.1 entry.2.comparisons := by
  rw [hoistedHalf, OrderedMap.flatMap_filterMap]
  refine List.flatMap_congr fun entry _ => ?_
  rw [← dropFirstEquality_eq]
  cases dropFirstEquality entry.2.comparisons with
  | nil => rfl
  | cons comparison rest => exact (List.append_nil _).symm

theorem yields_given_askSubject (stem : String) (identifier : Option String) :
    Yields (fun subject => subject.given? = identifier)
      (askSubject stem (identifier.map .given)) := by
  cases identifier with
  | none => exact yields_bind (yields_true _) fun ref _ => yields_pure rfl
  | some name => exact yields_pure rfl

/-- A filter leaves its pattern the identifier of the caller, and writes the names that it has
inside of the pattern and behind. -/
theorem Filter.yields_givenNames (filter : Filter) (stem : String) (identifier : Option String) :
    Yields (fun done => done.subject.bind Subject.given? = identifier ∧
        givenNames done.inside = filter.namesInside ∧
        done.hoisted.givenNames = filter.namesBehind identifier)
      (filter.ask stem identifier) := by
  have own : (identifier.map (Subject.given (ρ := Ref))).bind Subject.given? = identifier := by
    cases identifier <;> rfl
  cases filter with
  | nothing => exact yields_pure ⟨own, rfl, rfl⟩
  | properties values =>
    exact yields_bind values.yields_givenNames_inline fun inside told =>
      yields_pure ⟨own, told, rfl⟩
  | conditions required =>
    refine yields_bind (required.yields_givenNames_inlineHalf _) fun inside told => ?_
    rw [required.namesBehind_eq]
    split
    · next nothing =>
      refine yields_pure ⟨own, told, ?_⟩
      rw [List.isEmpty_iff.mp nothing]
      rfl
    · refine yields_bind (yields_given_askSubject stem identifier) ?_
      rintro subject rfl
      refine yields_bind (required.hoistedHalf.yields_givenNames subject) fun hoisted behind => ?_
      exact yields_pure ⟨rfl, told, behind⟩

section Texts

variable {ρ : Type}

@[simp] theorem Label.givenNames_fragment (label : Label) :
    Fragment.givenNames (label.fragment : Fragment ρ) = label.givenNames := by
  cases label <;> simp [Label.fragment, Label.givenNames]

@[simp] theorem givenNames_labelPart (label : Option Label) :
    givenNames (labelPart label : Fragment ρ) = label.elim [] Label.givenNames := by
  rcases label with _ | label
  · rfl
  · rw [labelPart]
    split
    · next empty =>
      -- a label that is empty has no names
      cases label with
      | resolved text => rfl
      | all names | any names => exact (List.isEmpty_iff.mp empty).symm
    · simp

@[simp] theorem givenNames_typePart (types : List String) :
    givenNames (typePart types : Fragment ρ) = types := by
  cases types <;> simp [typePart]

@[simp] theorem Hops.givenNames_fragment (hops : Hops) :
    givenNames (hops.fragment : Fragment ρ) = [] := by
  unfold Hops.fragment
  split <;> simp

@[simp] theorem givenNames_subjectPart (subject : Option (Subject ρ)) :
    givenNames (subjectPart subject) = (subject.bind Subject.given?).toList := by
  cases subject <;> simp [subjectPart]

@[simp] theorem givenNames_headAndInside (head inside : Fragment ρ) :
    givenNames (headAndInside head inside) = givenNames head ++ givenNames inside := by
  unfold headAndInside
  split
  · next empty => simp [List.isEmpty_iff.mp empty]
  · split
    · next empty => simp [List.isEmpty_iff.mp empty]
    · simp

end Texts

/-- An element and the conditions that it hands on have the names of the element. -/
theorem PathElement.yields_givenNames (element : PathElement) :
    Yields (fun done => givenNames done.text = element.namesInside ∧
      done.hoisted.givenNames = element.namesBehind) element.ask := by
  rcases element with (text | shape) | (text | shape)
  · exact yields_pure ⟨rfl, rfl⟩
  · refine yields_bind (shape.filter.yields_givenNames _ _) fun filter told => yields_pure ?_
    obtain ⟨own, inside, behind⟩ := told
    refine ⟨?_, behind⟩
    simp [own, inside, PathElement.namesInside, PathElement.identifier?, PathElement.kindNames,
      PathElement.filter, Node.filter]
  · exact yields_pure ⟨rfl, rfl⟩
  · refine yields_bind (shape.filter.yields_givenNames _ _) fun filter told => yields_pure ?_
    obtain ⟨own, inside, behind⟩ := told
    refine ⟨?_, behind⟩
    cases shape.direction <;>
      simp [own, inside, PathElement.namesInside, PathElement.identifier?, PathElement.kindNames,
        PathElement.filter, Relationship.filter, Direction.around]

theorem PathElement.yields_givenNames_each {α : Type} {draft : α → Asking (PatternText Ref)}
    (element : α → PathElement) (same : ∀ item, draft item = (element item).ask) (items : List α) :
    Yields (fun parts =>
        parts.flatMap (fun part => givenNames part.text) = (items.map element).flatMap namesInside ∧
        parts.flatMap (fun part => part.hoisted.givenNames) =
          (items.map element).flatMap namesBehind)
      (askAll draft items) := by
  have each (item : α) : Yields (fun done => givenNames done.text = (element item).namesInside ∧
      done.hoisted.givenNames = (element item).namesBehind) (draft item) := by
    rw [same]
    exact (element item).yields_givenNames
  intro asked
  rw [List.flatMap_map, List.flatMap_map]
  constructor
  · exact yields_flatMap_askAll (fun item _ before => (each item before).1) asked
  · exact yields_flatMap_askAll (fun item _ before => (each item before).2) asked

/-- Elements put together are written before all that they hand on. -/
theorem PatternText.givenNames_together {join : List (Fragment Ref) → Fragment Ref}
    (joined : ∀ fragments, givenNames (join fragments) = fragments.flatMap givenNames)
    (parts : List (PatternText Ref)) :
    givenNames (together join parts).text = parts.flatMap (fun part => givenNames part.text) ∧
      (together join parts).hoisted.givenNames =
        parts.flatMap fun part => part.hoisted.givenNames := by
  rw [together, joined, List.flatMap_map, Where.givenNames_flatten, List.flatMap_map]
  exact ⟨rfl, rfl⟩

/-- The names of all elements come before the names in what they hand on. -/
theorem Pattern.yields_givenNames (pattern : Pattern) :
    Yields (fun done => Fragment.givenNames done.text ++ done.hoisted.givenNames =
      pattern.givenNames) pattern.ask := by
  rw [Pattern.givenNames]
  cases pattern with
  | node single =>
    intro asked
    obtain ⟨inside, behind⟩ := (PathElement.node single).yields_givenNames asked
    rw [elements, List.flatMap_singleton, List.flatMap_singleton, ← inside, ← behind]
    rfl
  | nodes siblings =>
    refine yields_bind (PathElement.yields_givenNames_each .node (fun _ => rfl) siblings)
      fun parts told => yields_pure ?_
    have both := PatternText.givenNames_together (Fragment.givenNames_joinedBy ", ") parts
    rw [both.1, both.2, told.1, told.2, elements]
  | path row =>
    refine yields_bind (PathElement.yields_givenNames_each id (fun _ => rfl) row)
      fun parts told => yields_pure ?_
    have both := PatternText.givenNames_together Fragment.givenNames_flatten parts
    rw [both.1, both.2, told.1, told.2, List.map_id, elements]

/-! ## Clauses -/

section Texts

variable {ρ : Type}

@[simp] theorem Keyword.givenNames_before (keyword : Keyword) (rest : Fragment ρ) :
    givenNames (keyword.before rest) = givenNames rest := by
  simp [Keyword.before]

@[simp] theorem givenNames_hoistedPart (hoisted : Where ρ) :
    givenNames (hoistedPart hoisted) = hoisted.givenNames := by
  unfold hoistedPart
  split
  · next empty => simp [Where.givenNames_of_isEmpty empty]
  · simp [Where.givenNames_expression]

@[simp] theorem Where.givenNames_clause (condition : Where ρ) :
    Fragment.givenNames condition.clause = condition.givenNames := by
  unfold Where.clause
  split
  · next empty => simp [Where.givenNames_of_isEmpty empty]
  · simp [Where.givenNames_expression]

@[simp] theorem givenNames_propertyAccess (identifier : String) (property : Option String) :
    givenNames (propertyAccess identifier property : Fragment ρ) =
      identifier :: property.toList := by
  cases property <;> simp [propertyAccess]

@[simp] theorem Removal.givenNames_fragment (removal : Removal) :
    Fragment.givenNames (removal.fragment : Fragment ρ) = removal.givenNames := by
  cases removal <;> simp [Removal.fragment, Removal.givenNames, Fragment.givenNames_joinedBy,
    List.flatMap_map]

@[simp] theorem Deletion.givenNames_fragment (deletion : Deletion) :
    Fragment.givenNames (deletion.fragment : Fragment ρ) = deletion.givenNames := by
  cases deletion <;> simp [Deletion.fragment, Deletion.givenNames]

@[simp] theorem ProjectionItem.givenNames_fragment (item : ProjectionItem) :
    Fragment.givenNames (item.fragment : Fragment ρ) = item.givenNames := by
  rw [ProjectionItem.fragment, ProjectionItem.givenNames]
  cases item.newName <;> simp

@[simp] theorem Projection.givenNames_fragment (projection : Projection) :
    Fragment.givenNames (projection.fragment : Fragment ρ) = projection.givenNames := by
  cases projection <;> simp [Projection.fragment, Projection.givenNames,
    Fragment.givenNames_joinedBy, List.flatMap_map]

@[simp] theorem SortItem.givenNames_fragment (item : SortItem) :
    Fragment.givenNames (item.fragment : Fragment ρ) = item.givenNames := by
  rw [SortItem.fragment, SortItem.givenNames]
  split <;> simp

end Texts

theorem Subject.given?_map {ρ σ : Type} (f : ρ → σ) (subject : Subject ρ) :
    (subject.map f).given? = subject.given? := by
  cases subject <;> rfl

theorem Where.givenNames_map {ρ σ : Type} (f : ρ → σ) (condition : Where ρ) :
    (condition.map f).givenNames = condition.givenNames := by
  rw [Where.givenNames, Where.map, List.flatMap_map, Where.givenNames]
  exact List.flatMap_congr fun comparison _ => by rw [Comparison.map, Subject.given?_map]

theorem Assignment.yields_givenNames (assignment : Assignment) :
    Yields (fun done => Fragment.givenNames done = assignment.givenNames) assignment.ask := by
  refine yields_bind (assignment.properties.yields_givenNames " = " _) fun parts told => ?_
  refine yields_pure ?_
  rw [Fragment.givenNames_joinedBy, told]
  simp [Assignment.givenNames]

theorem Unwinding.yields_givenNames (source : Unwinding) :
    Yields (fun piece => pieceGivenNames piece = []) source.ask := by
  cases source with
  | expression text => exact yields_pure (by simp)
  | values items => exact yields_bind (yields_true _) fun ref _ => yields_pure (by simp)

/-- What is written in a body has the names of its clauses, as what is still to be written. -/
theorem Clause.yields_givenNames_body {body : Body Clause}
    (rendered : ∀ entry ∈ body.written, Rendered entry)
    (each : ∀ inner ∈ Query.clauses body,
      Yields (fun done => Fragment.givenNames done = inner.givenNames) inner.ask) :
    Yields (fun piece => pieceGivenNames piece = Query.givenNames body) (Clause.askBody body) := by
  obtain ⟨written, pending, allocator⟩ := body
  have later := yields_flatMap_askAll fun inner member =>
    each inner (List.mem_append_right _ member)
  rw [← Clause.askAll_eq] at later
  rw [Clause.askBody]
  refine yields_bind later fun drafted told => yields_pure ?_
  rw [pieceGivenNames, Fragment.allGivenNames_eq, List.flatMap_append, told, Query.givenNames,
    Query.clauses, List.flatMap_append, List.flatMap_map, List.flatMap_map]
  refine congrArg (· ++ _) (List.flatMap_congr fun entry member => ?_)
  obtain ⟨asked, names, same⟩ := rendered entry member
  rw [Fragment.givenNames_map, same, Fragment.fill, Fragment.givenNames_map]
  exact each entry.1 (List.mem_append_left _ (List.mem_map_of_mem member)) asked

theorem Clause.yields_givenNames_of_plain {clause : Clause} (plain : clause.body? = none) :
    Yields (fun done => Fragment.givenNames done = clause.givenNames) clause.ask := by
  cases clause with
  | pattern use shape =>
    refine yields_bind shape.yields_givenNames fun drafted told => yields_pure ?_
    simp [Clause.givenNames, told]
  | assign moment assignment =>
    refine yields_bind assignment.yields_givenNames fun parts told => yields_pure ?_
    simp [Clause.givenNames, told]
  | delete detach deletion =>
    rw [Clause.ask]
    refine yields_pure ?_
    split <;> simp [Clause.givenNames]
  | unwind source newName =>
    refine yields_bind source.yields_givenNames fun list told => yields_pure ?_
    simp [Clause.givenNames, told]
  | page part count =>
    exact yields_bind (yields_true _) fun ref _ => yields_pure (by simp [Clause.givenNames])
  | restrict criteria =>
    refine yields_bind criteria.yields_givenNames fun condition told => yields_pure ?_
    simp [Clause.givenNames, told]
  | restrictBound condition =>
    exact yields_pure (by simp [Clause.givenNames, Where.givenNames_map])
  | sort items =>
    refine yields_pure ?_
    simp [Clause.givenNames, Fragment.givenNames_joinedBy, List.flatMap_map]
  | forEach item list body => cases plain
  | call body => cases plain
  | _ => exact yields_pure (by simp [Clause.givenNames])

/-- The fragment of a clause has the names that the caller gives the clause, in order. -/
theorem Clause.yields_givenNames {clause : Clause} (genuine : clause.Genuine) :
    Yields (fun done => Fragment.givenNames done = clause.givenNames) clause.ask := by
  induction clause using Clause.induction with
  | plain clause noBody => exact Clause.yields_givenNames_of_plain noBody
  | nested clause body nested ih =>
    obtain ⟨rendered, inside⟩ := genuine.inside nested
    have told : Yields (fun piece => pieceGivenNames piece = Query.givenNames body)
        (Clause.askBody body) :=
      Clause.yields_givenNames_body rendered fun inner member =>
        ih inner member (inside inner member)
    cases clause with
    | forEach item list loop =>
      obtain rfl := Option.some.inj nested
      refine yields_bind told fun inner told => yields_pure ?_
      simp [Clause.givenNames, Clause.givenNamesBody_eq, told]
    | call called =>
      obtain rfl := Option.some.inj nested
      refine yields_bind told fun inner told => yields_pure ?_
      simp [Clause.givenNames, Clause.givenNamesBody_eq, told]
    | _ => cases nested

/-- The fragments of a query have the names that the caller gives its clauses, in order. -/
theorem Query.Genuine.allGivenNames {query done : Query} {allocator after : Allocator}
    (genuine : query.Genuine) (written : query.write allocator = .ok (done, after)) :
    Fragment.allGivenNames done.fragments = query.givenNames := by
  have finished := genuine.write written
  have clauses : done.written.map Prod.fst = query.clauses := by
    rw [← Query.clauses_write written]
    obtain ⟨_, rfl, _⟩ := Query.write_eq_ok written
    exact (List.append_nil _).symm
  rw [Fragment.allGivenNames_eq, Query.fragments, Query.givenNames, ← clauses, List.flatMap_map,
    List.flatMap_map]
  refine List.flatMap_congr fun entry member => ?_
  obtain ⟨asked, names, same⟩ := finished.written entry member
  rw [same, Fragment.fill, Fragment.givenNames_map]
  refine Clause.yields_givenNames (finished.clauses entry.1 ?_) asked
  exact List.mem_append_left _ (List.mem_map_of_mem member)

end Cypher
