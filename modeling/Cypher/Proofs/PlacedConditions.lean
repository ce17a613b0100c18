import Cypher.Proofs.Requirements
import Cypher.Proofs.Reserving

/-!
# Where the conditions of a pattern go

A pattern has room for one equality on each property, and its clause takes the
other comparisons, about an identifier that the pattern then has. Between the
two halves, and over all the elements of a pattern, nothing is lost, doubled or
put on another element.
-/

namespace Cypher

open List (Forall₂)

/-! ## Filters -/

/-- The name that a subject is, if it was reserved for it. -/
def Subject.names : Subject String → List String
  | given _ => []
  | synthesized name => [name]

/-- The name that was reserved for the pattern of a filter. -/
def FilterText.names (done : FilterText String) : List String := done.subject.elim [] Subject.names

/-- All that a filter requires is written: equalities on different properties inside the pattern,
and the rest handed on, about the identifier that the pattern has. It has the one that it was given;
without one it is given a name if something is handed on, and only then. -/
structure FilterText.Complete (after : Allocator) (stem : String) (identifier : Option String)
    (filter : Filter) (done : FilterText String) : Prop where
  conserved : ∃ inside : Where String, done.inside = inside.inline ∧
    (∀ comparison ∈ inside.comparisons, comparison.operator = .eq) ∧
    (inside.comparisons.map Comparison.property).Nodup ∧
    ((inside.comparisons ++ done.hoisted.comparisons).map after.requirement?).Perm
      (filter.requirements.map some)
  about : ∀ comparison ∈ done.hoisted.comparisons, done.subject = some comparison.subject
  named : ∀ name, identifier = some name → done.subject = some (.given name)
  nameless : identifier = none →
    if done.hoisted.isEmpty then done.subject = none
    else ∃ count, done.subject = some (.synthesized (stem ++ Allocator.suffixes count))

section Filters

variable {after : Allocator} {stem : String} {identifier : Option String} {filter : Filter}

theorem Allocator.Keeps.perm_requirement? {before : Allocator} (keeps : before.Keeps after)
    {comparisons : List (Comparison String)} {requirements : List Requirement}
    (same : (comparisons.map before.requirement?).Perm (requirements.map some)) :
    (comparisons.map after.requirement?).Perm (requirements.map some) := by
  have stays : comparisons.map after.requirement? = comparisons.map before.requirement? := by
    refine List.map_congr_left fun comparison member => ?_
    have among := same.subset (List.mem_map_of_mem member)
    obtain ⟨requirement, _, found⟩ := List.mem_map.mp among
    rw [← found]
    exact keeps.requirement? found.symm
  rwa [stays]

theorem FilterText.Complete.keeps {before : Allocator} {done : FilterText String}
    (complete : done.Complete before stem identifier filter) (keeps : before.Keeps after) :
    done.Complete after stem identifier filter := by
  obtain ⟨inside, written, equalities, distinct, same⟩ := complete.conserved
  exact { complete with
    conserved := ⟨inside, written, equalities, distinct, keeps.perm_requirement? same⟩ }

/-- A filter that hands nothing on leaves its pattern the identifier that it has. -/
theorem FilterText.complete_of_inside {subject : Subject String} {inside : Where String}
    {requirements : List Requirement} {names : List String}
    (answers : Forall₂ (Comparison.Answers after subject) requirements inside.comparisons)
    (same : requirements.Perm filter.requirements) (distinct : names.Nodup)
    (equalities : requirements.map (fun one => (one.property, one.operator)) =
      names.map fun name => (name, .eq)) :
    (⟨identifier.map .given, inside.inline, .empty⟩ : FilterText String).Complete after stem
      identifier filter where
  conserved := by
    obtain ⟨equal, different⟩ := equalities_of_answers answers distinct equalities
    refine ⟨inside, rfl, equal, different, ?_⟩
    rw [Where.empty, List.append_nil, map_requirement?_of_answers answers]
    exact same.map some
  about := nofun
  named := by
    rintro name rfl
    rfl
  nameless := by
    rintro rfl
    rfl

theorem FilterText.complete_nothing :
    (⟨identifier.map .given, [], .empty⟩ : FilterText String).Complete after stem identifier
      .nothing := by
  have answers : Forall₂ (Comparison.Answers after (.given "")) [] (Where.empty.comparisons) := .nil
  exact FilterText.complete_of_inside answers .nil List.nodup_nil rfl

/-- A filter that hands something on has a subject, and what it hands on is about the subject. -/
theorem FilterText.complete_of_halves {known subject : Subject String} {inside hoisted : Where String}
    {required : Conditions}
    (inner : Forall₂ (Comparison.Answers after known) required.inlineHalf.requirements
      inside.comparisons)
    (outer : Forall₂ (Comparison.Answers after subject) required.hoistedHalf.requirements
      hoisted.comparisons)
    (something : ¬ required.hoistedHalf.isEmpty)
    (given : ∀ name, identifier = some name → subject = .given name)
    (made : identifier = none →
      ∃ count, subject = .synthesized (stem ++ Allocator.suffixes count)) :
    (⟨some subject, inside.inline, hoisted⟩ : FilterText String).Complete after stem identifier
      (.conditions required) where
  conserved := by
    obtain ⟨equal, different⟩ :=
      equalities_of_answers inner required.inlineHalf.distinct required.equalities_inlineHalf
    refine ⟨inside, rfl, equal, different, ?_⟩
    rw [List.map_append, map_requirement?_of_answers inner, map_requirement?_of_answers outer,
      ← List.map_append]
    exact required.requirements_halves.map some
  about := fun comparison member =>
    congrArg some (subject_of_answers outer comparison member).symm
  named := fun name found => congrArg some (given name found)
  nameless := by
    intro anonymous
    have present : hoisted.isEmpty = false := by
      rw [Where.isEmpty, List.isEmpty_eq_false_iff]
      intro none
      rw [none] at outer
      exact something (Conditions.isEmpty_hoistedHalf (List.forall₂_nil_right_iff.mp outer))
    obtain ⟨count, same⟩ := made anonymous
    rw [if_neg (by simp [present])]
    exact ⟨count, congrArg some same⟩

/-- An identifier that was given is no reserved name. -/
theorem FilterText.names_given (identifier : Option String) (inside : Fragment String)
    (hoisted : Where String) :
    (⟨identifier.map .given, inside, hoisted⟩ : FilterText String).names = [] := by
  cases identifier <;> rfl

variable {start : Allocator}

/-- The subject is the identifier that was given, or a reserved name when there was none. -/
theorem makes_subject (stem : String) (identifier : Option String) :
    Makes start (fun _ names subject => names = Subject.names subject ∧
        (∀ name, identifier = some name → subject = .given name) ∧
        (identifier = none → ∃ count, subject = .synthesized (stem ++ Allocator.suffixes count)))
      (obtainSubject stem (identifier.map .given)) := by
  cases identifier with
  | none =>
    refine makes_bind (makes_identifier stem) ?_
    rintro _ _ _ _ ⟨rfl, count, rfl⟩
    exact makes_pure fun _ _ => ⟨rfl, nofun, fun _ => ⟨count, rfl⟩⟩
  | some given =>
    refine makes_pure fun _ _ => ⟨rfl, ?_, nofun⟩
    rintro _ ⟨⟩
    rfl

theorem Filter.makes_complete (filter : Filter) (mode : Mode) (stem : String)
    (identifier : Option String) :
    Makes start (fun after names done => names = done.names ∧
      done.Complete after stem identifier filter) (filter.render mode stem identifier) := by
  cases filter with
  | nothing =>
    refine makes_pure fun later _ => ⟨?_, FilterText.complete_nothing⟩
    rw [FilterText.names_given]
  | properties values =>
    refine makes_bind_quiet values.quiet_renderInline (values.ensures_answers (.given "")) ?_
    rintro _ _ _ ⟨inside, rfl, answers⟩
    refine makes_pure fun later keeps => ⟨?_, ?_⟩
    · rw [FilterText.names_given]
    · refine FilterText.complete_of_inside (answers_keeps answers keeps) .rfl values.distinct ?_
      simp [Properties.requirements]
  | conditions required =>
    refine makes_check fun _ => ?_
    refine makes_bind_quiet (required.inlineHalf.quiet_render _)
      (required.inlineHalf.ensures_answers _) fun _ bound _ answers => ?_
    refine makes_bind_quiet (quiet_demand _) (ensures_demand _) fun _ inside kept passed => ?_
    obtain rfl : bound.inline = inside := Where.inline?_eq_ok passed
    split
    · next nothing =>
      -- all of the requirements are inside
      have halves := required.requirements_halves
      have none : required.hoistedHalf.requirements = [] := by
        rw [Conditions.requirements, List.isEmpty_iff.mp nothing, List.flatMap_nil]
      rw [none, List.append_nil] at halves
      refine makes_pure fun later keeps => ⟨?_, ?_⟩
      · rw [FilterText.names_given]
      · exact FilterText.complete_of_inside (answers_keeps answers (kept.trans keeps)) halves
          required.inlineHalf.distinct required.equalities_inlineHalf
    · next something =>
      refine makes_bind (makes_subject stem identifier) ?_
      rintro _ _ subject kept' ⟨rfl, given, made⟩
      refine makes_bind_quiet (required.hoistedHalf.quiet_render subject)
        (required.hoistedHalf.ensures_answers subject) fun _ hoisted kept'' handedOn => ?_
      refine makes_pure fun later keeps => ⟨List.append_nil _, ?_⟩
      have inner := answers_keeps answers (((kept.trans kept').trans kept'').trans keeps)
      exact FilterText.complete_of_halves inner (answers_keeps handedOn keeps) something given made

end Filters

/-! ## Elements of patterns -/

/-- The elements of a pattern, which has one or several. -/
def Pattern.elements : Pattern → List PathElement
  | node single => [.node single]
  | nodes siblings => siblings.map .node
  | path elements => elements

/-- What stands between the elements of a pattern. -/
def Pattern.separator : Pattern → String
  | nodes _ => ", "
  | _ => ""

/-- The elements of a pattern in a row. -/
def Pattern.join {ρ : Type} : Pattern → List (Fragment ρ) → Fragment ρ
  | nodes _ => Fragment.joinedBy ", "
  | _ => List.flatten

/-- The identifier that an element is given. -/
def PathElement.identifier? : PathElement → Option String
  | node (.pattern shape) => shape.identifier
  | relationship (.pattern shape) => shape.identifier
  | _ => none

/-- What is asked for when the element needs an identifier. -/
def PathElement.stem : PathElement → String
  | node _ => nodeIdentifier
  | relationship _ => relationshipIdentifier

/-- An element of a pattern and what its filter became. -/
structure Placement where
  element : PathElement
  filter : FilterText String

namespace Placement

/-- The element as it is written. -/
def text (placement : Placement) : Fragment String :=
  let filter := placement.filter
  match placement.element with
  | .node (.raw text) => [.raw text]
  | .node (.pattern shape) =>
      let head := subjectPart filter.subject ++ labelPart shape.label
      .fixed "(" :: headAndInside head filter.inside ++ [.fixed ")"]
  | .relationship (.raw text) => [.raw text]
  | .relationship (.pattern shape) =>
      let head := subjectPart filter.subject ++ typePart shape.types ++ shape.hops.fragment
      shape.direction.around (headAndInside head filter.inside)

/-- The comparisons that are handed on. -/
def hoisted (placement : Placement) : List (Comparison String) :=
  placement.filter.hoisted.comparisons

/-- The element with what it hands on. -/
def done (placement : Placement) : PatternText String :=
  ⟨placement.text, placement.filter.hoisted⟩

/-- The name that was reserved for the element. -/
def names (placement : Placement) : List String := placement.filter.names

/-- All that the filter of the element requires is written. -/
def Complete (after : Allocator) (placement : Placement) : Prop :=
  placement.filter.Complete after placement.element.stem placement.element.identifier?
    placement.element.filter

theorem Complete.keeps {before after : Allocator} {placement : Placement}
    (complete : placement.Complete before) (keeps : before.Keeps after) :
    placement.Complete after :=
  FilterText.Complete.keeps complete keeps

/-- The placement is one of that element. -/
def Of (after : Allocator) (element : PathElement) (placement : Placement) : Prop :=
  placement.element = element ∧ placement.Complete after

theorem of_keeps {before after : Allocator} {element : PathElement} {placement : Placement}
    (keeps : before.Keeps after) (placed : placement.Of before element) :
    placement.Of after element :=
  ⟨placed.1, placed.2.keeps keeps⟩

theorem elements_of_forall₂ {after : Allocator} {elements : List PathElement}
    {placements : List Placement} (each : Forall₂ (Of after) elements placements) :
    placements.map element = elements ∧ ∀ placement ∈ placements, placement.Complete after := by
  induction each with
  | nil => exact ⟨rfl, List.forall_mem_nil _⟩
  | cons first _ ih =>
    rw [List.map_cons, first.1, ih.1]
    exact ⟨rfl, List.forall_mem_cons.mpr ⟨first.2, ih.2⟩⟩

end Placement

section Rendered

variable {start : Allocator}

/-- The element is placed, with the name that was reserved for it. -/
def PathElement.Becomes (element : PathElement) (after : Allocator) (names : List String)
    (done : PatternText String) : Prop :=
  ∃ placement : Placement, done = placement.done ∧ names = placement.names ∧
    placement.Of after element

theorem Node.makes_placement (node : Node) (mode : Mode) :
    Makes start (PathElement.node node).Becomes (node.render mode) := by
  cases node with
  | raw text =>
    refine makes_pure fun _ _ => ⟨⟨.node (.raw text), ⟨none, [], .empty⟩⟩, rfl, rfl, rfl, ?_⟩
    exact FilterText.complete_nothing
  | pattern shape =>
    refine makes_bind (shape.filter.makes_complete mode nodeIdentifier shape.identifier) ?_
    rintro _ _ filter _ ⟨rfl, complete⟩
    refine makes_pure fun later keeps => ⟨⟨_, filter⟩, rfl, List.append_nil _, rfl, ?_⟩
    exact FilterText.Complete.keeps complete keeps

theorem Relationship.makes_placement (relationship : Relationship) (mode : Mode) :
    Makes start (PathElement.relationship relationship).Becomes (relationship.render mode) := by
  cases relationship with
  | raw text =>
    refine makes_pure fun _ _ => ⟨⟨.relationship (.raw text), ⟨none, [], .empty⟩⟩, rfl, rfl, rfl, ?_⟩
    exact FilterText.complete_nothing
  | pattern shape =>
    refine makes_check fun _ => ?_
    refine makes_bind (shape.filter.makes_complete mode relationshipIdentifier shape.identifier) ?_
    rintro _ _ filter _ ⟨rfl, complete⟩
    refine makes_pure fun later keeps => ⟨⟨_, filter⟩, rfl, List.append_nil _, rfl, ?_⟩
    exact FilterText.Complete.keeps complete keeps

theorem PathElement.makes_placement (element : PathElement) (mode : Mode) :
    Makes start element.Becomes (element.render mode) := by
  cases element with
  | node element => exact element.makes_placement mode
  | relationship element => exact element.makes_placement mode

/-- Items that are elements are placed one by one. -/
theorem makes_placement_each {α : Type} {make : α → PathElement} {items : List α}
    {render : α → Rendering (PatternText String)}
    (each : ∀ item ∈ items, ∀ start, Makes start (make item).Becomes (render item)) :
    Makes start (fun after names parts => ∃ placements : List Placement,
        parts = placements.map Placement.done ∧ names = placements.flatMap Placement.names ∧
        Forall₂ (Placement.Of after) (items.map make) placements) (renderEach render items) := by
  have stays (first later : Allocator) (item : α) (placement : Placement)
      (keeps : first.Keeps later) (placed : placement.Of first (make item)) :
      placement.Of later (make item) :=
    Placement.of_keeps keeps placed
  simp only [List.forall₂_map_left_iff]
  exact makes_each stays each

/-- The elements of the pattern are placed in a row, with all that they hand on in the same
order. -/
def Pattern.Becomes (pattern : Pattern) (after : Allocator) (names : List String)
    (done : PatternText String) : Prop :=
  ∃ placements : List Placement, done = .together pattern.join (placements.map Placement.done) ∧
    names = placements.flatMap Placement.names ∧
    placements.map Placement.element = pattern.elements ∧
    ∀ placement ∈ placements, placement.Complete after

theorem Pattern.makes_placements (pattern : Pattern) (mode : Mode) :
    Makes start pattern.Becomes (pattern.render mode) := by
  cases pattern with
  | node single =>
    intro allocator done after kept ran
    obtain ⟨keeps, _, reserved, placement, rfl, rfl, same, complete⟩ :=
      single.makes_placement mode allocator done after kept ran
    refine ⟨keeps, _, reserved, [placement], ?_, ?_, ?_, ?_⟩
    · simp [PatternText.together, Pattern.join, Placement.done]
    · simp
    · exact congrArg (fun element => [element]) same
    · simpa using complete
  | nodes siblings =>
    refine makes_check fun _ => ?_
    refine makes_bind (makes_placement_each fun sibling _ start => sibling.makes_placement mode) ?_
    rintro _ _ _ _ ⟨placements, rfl, rfl, each⟩
    obtain ⟨same, all⟩ := Placement.elements_of_forall₂ each
    refine makes_pure fun later keeps => ⟨placements, rfl, List.append_nil _, same, ?_⟩
    exact fun one member => (all one member).keeps keeps
  | path elements =>
    refine makes_check fun _ => ?_
    refine makes_bind (makes_placement_each fun element _ start => element.makes_placement mode) ?_
    rintro _ _ _ _ ⟨placements, rfl, rfl, each⟩
    rw [List.map_id'] at each
    obtain ⟨same, all⟩ := Placement.elements_of_forall₂ each
    refine makes_pure fun later keeps => ⟨placements, rfl, List.append_nil _, same, ?_⟩
    exact fun one member => (all one member).keeps keeps

/-! ## Clauses with patterns -/

/-- A pattern clause as it is written with these elements. -/
def PatternUse.fragment (use : PatternUse) (pattern : Pattern) (placements : List Placement) :
    Fragment String :=
  use.keyword.before (pattern.join (placements.map Placement.text)) ++
    hoistedPart ⟨placements.flatMap Placement.hoisted⟩

theorem Clause.makes_pattern (home : AllocatorId) (use : PatternUse) (pattern : Pattern) :
    Makes start (fun after names fragment => ∃ placements : List Placement,
        fragment = use.fragment pattern placements ∧
        names = placements.flatMap Placement.names ∧
        placements.map Placement.element = pattern.elements ∧
        ∀ placement ∈ placements, placement.Complete after)
      (Clause.render home (.pattern use pattern)) := by
  refine makes_bind (pattern.makes_placements use.mode) ?_
  rintro _ _ _ _ ⟨placements, rfl, rfl, elements, all⟩
  refine makes_pure fun later keeps => ⟨placements, ?_, List.append_nil _, elements, ?_⟩
  · simp only [PatternUse.fragment, PatternText.together, List.map_map, List.flatMap_def]
    rfl
  · exact fun one member => (all one member).keeps keeps

end Rendered

/-! ## Statements -/

theorem Fragment.chars_append (first second : Fragment String) :
    chars (first ++ second) = chars first ++ chars second := by
  induction first with
  | nil => rw [List.nil_append, chars, List.nil_append]
  | cons piece rest ih => rw [List.cons_append, chars, chars, ih, List.append_assoc]

theorem Fragment.chars_joinedBy (separator : String) (fragments : List (Fragment String)) :
    chars (joinedBy separator fragments) =
      separator.toList.intercalate (fragments.map chars) := by
  fun_induction joinedBy separator fragments with
  | case1 => simp [chars]
  | case2 fragment => simp
  | case3 fragment next rest ih =>
    rw [chars_append, chars, ih, pieceChars, List.map_cons, List.map_cons, List.map_cons,
      List.intercalate_cons_cons, List.append_assoc]

theorem Fragment.chars_flatten (fragments : List (Fragment String)) :
    chars fragments.flatten = (fragments.map chars).flatten := by
  induction fragments with
  | nil => rw [List.flatten_nil, chars, List.map_nil, List.flatten_nil]
  | cons fragment rest ih => rw [List.flatten_cons, chars_append, ih, List.map_cons, List.flatten_cons]

theorem intercalate_nothing (parts : List (List Char)) : [].intercalate parts = parts.flatten := by
  induction parts with
  | nil => rfl
  | cons part rest ih => cases rest <;> simp_all

theorem Pattern.chars_join (pattern : Pattern) (fragments : List (Fragment String)) :
    Fragment.chars (pattern.join fragments) =
      pattern.separator.toList.intercalate (fragments.map Fragment.chars) := by
  cases pattern with
  | nodes siblings => exact Fragment.chars_joinedBy ", " fragments
  | node single => exact (Fragment.chars_flatten fragments).trans (intercalate_nothing _).symm
  | path elements => exact (Fragment.chars_flatten fragments).trans (intercalate_nothing _).symm

theorem chars_hoistedPart (hoisted : List (Comparison String)) :
    Fragment.chars (hoistedPart ⟨hoisted⟩) =
      if hoisted.isEmpty then []
      else " WHERE ".toList ++ " AND ".toList.intercalate
        (hoisted.map fun comparison => Fragment.chars comparison.fragment) := by
  rw [hoistedPart, Where.isEmpty]
  split
  · rw [Fragment.chars]
  · rw [Fragment.chars, Fragment.pieceChars, Where.expression, Fragment.chars_joinedBy,
      List.map_map]
    rfl

/-- A statement of one pattern clause. Its elements are written in order, and behind them, if there
is anything to be put there, all that they hand on, in the order of the elements. Read back through
the allocator, what is written for an element, inside it and behind, is all that its filter
requires, no comparison more and none less. Inside there is at most one for each property; those
behind are about the identifier that is written in the element. -/
theorem Query.write_pattern {use : PatternUse} {pattern : Pattern} {home : AllocatorId}
    {allocator after : Allocator} {done : Query}
    (written : Query.write ⟨[], [.pattern use pattern], home⟩ allocator = .ok (done, after)) :
    ∃ placements : List Placement,
      placements.map Placement.element = pattern.elements ∧
      (∀ placement ∈ placements, placement.Complete after) ∧
      done.text = String.ofList (Spacing.joined [(use.keyword.text ++ " ").toList ++
        (pattern.separator.toList.intercalate
            (placements.map fun placement => Fragment.chars placement.text) ++
          if (placements.flatMap Placement.hoisted).isEmpty then []
          else " WHERE ".toList ++ " AND ".toList.intercalate
            ((placements.flatMap Placement.hoisted).map fun comparison =>
              Fragment.chars comparison.fragment))]) := by
  obtain ⟨fragments, ran, same⟩ := Query.rendered_of_write written
  -- there is one clause, and nothing is rendered behind it
  rw [Clause.renderAll] at ran
  obtain ⟨fragment, between, first, rest⟩ := run_bind_ok ran
  rw [Clause.renderAll] at rest
  cases rest
  obtain ⟨_, _, _, placements, rfl, _, elements, complete⟩ :=
    Clause.makes_pattern home use pattern allocator fragment after (.refl _) first
  refine ⟨placements, elements, complete, ?_⟩
  rw [Query.text, same, Query.fragments, List.map_nil, List.nil_append, PatternUse.fragment,
    Fragment.allChars, Fragment.allChars, Fragment.chars_append, Keyword.before, Fragment.chars,
    Fragment.pieceChars, Pattern.chars_join, chars_hoistedPart, List.map_map, List.append_assoc]
  rfl

/-- Two equalities on one property of a named node, and a comparison of a node without a name. -/
def knownNode : Pattern :=
  let twice : Conditions := OrderedMap.empty.insert "a"
    (.operators [(.eq, .value (.int 1)), (.eq, .literal "b"), (.eq, .value (.int 2))])
  let older : Conditions := OrderedMap.empty.insert "b" (.operators [(.gt, .value (.int 1))])
  .path [.node (.pattern ⟨some "n", none, .conditions twice⟩), .relationship (.raw "--"),
    .node (.pattern ⟨none, none, .conditions older⟩)]

theorem Query.write_pattern_knownNode :
    ∃ (done : Query) (after : Allocator) (placements : List Placement),
      Query.write ⟨[], [.pattern .find knownNode], 0⟩ .empty = .ok (done, after) ∧
        placements.map Placement.element = knownNode.elements ∧
        (∀ placement ∈ placements, placement.Complete after) ∧
        done.text =
          "MATCH (n \x7b a: $a \x7d)--(__n) WHERE n.a = b AND n.a = $a__aaaa AND __n.b > $b" := by
  have stated : (Query.write ⟨[], [.pattern .find knownNode], 0⟩ .empty).toOption.map
      (fun result => result.1.text) = some
        "MATCH (n \x7b a: $a \x7d)--(__n) WHERE n.a = b AND n.a = $a__aaaa AND __n.b > $b" := by
    decide +kernel
  cases written : Query.write ⟨[], [.pattern .find knownNode], 0⟩ .empty with
  | error error =>
    rw [written] at stated
    cases stated
  | ok result =>
    obtain ⟨done, after⟩ := result
    rw [written] at stated
    obtain ⟨placements, elements, complete, _⟩ := Query.write_pattern written
    exact ⟨done, after, placements, rfl, elements, complete, Option.some.inj stated⟩

end Cypher
