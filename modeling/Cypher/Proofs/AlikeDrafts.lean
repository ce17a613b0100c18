import Cypher.Proofs.Filling
import Cypher.Proofs.Likeness
import Cypher.Proofs.Nesting

/-!
# Alike clauses have alike drafts

A draft looks at no name and at no value, so clauses that are alike ask for the
same things in the same order and are written alike.
-/

namespace Cypher

open Asking (Relates relates_pure relates_bind relates_askAll)

/-! ## Fragments -/

section Fragments

variable {ρ σ ρ' σ' : Type} {name : String → String → Prop} {ref : ρ → σ → Prop}
  {ref' : ρ' → σ' → Prop}

namespace Fragment

theorem alike_joinedBy (separator : String) {fragments : List (Fragment ρ)}
    {fragments' : List (Fragment σ)}
    (alike : List.Forall₂ (Fragment.Alike name ref) fragments fragments') :
    Fragment.Alike name ref (joinedBy separator fragments) (joinedBy separator fragments') := by
  induction alike with
  | nil => exact .nil
  | cons first others ih =>
    cases others with
    | nil => exact first
    | cons next rest => exact List.rel_append first (.cons (.fixed separator) ih)

theorem alike_names (separator : String) {given given' : List String}
    (alike : List.Forall₂ name given given') :
    Fragment.Alike name ref (names separator given) (names separator given') := by
  refine alike_joinedBy separator ?_
  induction alike with
  | nil => exact .nil
  | cons first _ ih => exact .cons (.cons (.name first) .nil) ih

theorem alike_braced {entries : List (Fragment ρ)} {entries' : List (Fragment σ)}
    (alike : List.Forall₂ (Fragment.Alike name ref) entries entries') :
    Fragment.Alike name ref (braced entries) (braced entries') := by
  cases alike with
  | nil => exact .nil
  | cons first others =>
    refine .cons (.fixed _) (List.rel_append (alike_joinedBy ", " (.cons first others)) ?_)
    exact .cons (.fixed _) .nil

mutual

theorem alike_mapPiece {f : ρ → ρ'} {g : σ → σ'} (carry : ∀ a b, ref a b → ref' (f a) (g b))
    {piece : Piece ρ} {piece' : Piece σ} (alike : piece.Alike name ref piece') :
    (mapPiece f piece).Alike name ref' (mapPiece g piece') := by
  cases piece with
  | body fragments =>
    cases alike with
    | body inside => exact .body (alike_mapAll carry inside)
  | fixed text => cases alike; exact .fixed text
  | raw text => cases alike; exact .raw text
  | name given => cases alike with
    | name related => exact .name related
  | identifier answer => cases alike with
    | identifier related => exact .identifier (carry _ _ related)
  | parameter answer => cases alike with
    | parameter related => exact .parameter (carry _ _ related)

theorem alike_map {f : ρ → ρ'} {g : σ → σ'} (carry : ∀ a b, ref a b → ref' (f a) (g b))
    {fragment : List (Piece ρ)} {fragment' : List (Piece σ)}
    (alike : List.Forall₂ (Piece.Alike name ref) fragment fragment') :
    List.Forall₂ (Piece.Alike name ref') (map f fragment) (map g fragment') := by
  cases fragment with
  | nil => cases alike; exact .nil
  | cons piece rest =>
    cases alike with
    | cons first others => exact .cons (alike_mapPiece carry first) (alike_map carry others)

theorem alike_mapAll {f : ρ → ρ'} {g : σ → σ'} (carry : ∀ a b, ref a b → ref' (f a) (g b))
    {fragments : List (List (Piece ρ))} {fragments' : List (List (Piece σ))}
    (alike : List.Forall₂ (List.Forall₂ (Piece.Alike name ref)) fragments fragments') :
    List.Forall₂ (List.Forall₂ (Piece.Alike name ref')) (mapAll f fragments)
      (mapAll g fragments') := by
  cases fragments with
  | nil => cases alike; exact .nil
  | cons fragment rest =>
    cases alike with
    | cons first others => exact .cons (alike_map carry first) (alike_mapAll carry others)

end

end Fragment

theorem Subject.alike_piece {subject : Subject ρ} {subject' : Subject σ}
    (alike : subject.Alike name ref subject') : subject.piece.Alike name ref subject'.piece := by
  cases alike with
  | given related => exact .name related
  | synthesized related => exact .identifier related

theorem BoundOperand.alike_piece {operand : BoundOperand ρ} {operand' : BoundOperand σ}
    (alike : operand.Alike ref operand') : operand.piece.Alike name ref operand'.piece := by
  cases alike with
  | parameter related => exact .parameter related
  | literal text => exact .raw text

theorem Comparison.alike_fragment {comparison : Comparison ρ} {comparison' : Comparison σ}
    (alike : comparison.Alike name ref comparison') :
    Fragment.Alike name ref comparison.fragment comparison'.fragment := by
  have operand : comparison.operand.piece.Alike name ref comparison'.operand.piece :=
    BoundOperand.alike_piece alike.operand
  have target : Fragment.Alike name ref
      [comparison.subject.piece, .fixed ".", .name comparison.property]
      [comparison'.subject.piece, .fixed ".", .name comparison'.property] :=
    .cons (Subject.alike_piece alike.subject)
      (.cons (.fixed ".") (.cons (.name alike.property) .nil))
  rw [Comparison.fragment, Comparison.fragment, ← alike.operator]
  split
  · exact .cons operand (.cons (.fixed " IN ") target)
  · exact List.rel_append target (.cons (.fixed _) (.cons operand .nil))

theorem Comparison.alike_entry {comparison : Comparison ρ} {comparison' : Comparison σ}
    (alike : comparison.Alike name ref comparison') :
    Fragment.Alike name ref comparison.entry comparison'.entry :=
  .cons (.name alike.property)
    (.cons (.fixed ": ") (.cons (BoundOperand.alike_piece alike.operand) .nil))

theorem Where.alike_expression {condition : Where ρ} {condition' : Where σ}
    (alike : condition.Alike name ref condition') :
    Fragment.Alike name ref condition.expression condition'.expression := by
  refine Fragment.alike_joinedBy " AND " ?_
  rw [List.forall₂_map_left_iff, List.forall₂_map_right_iff]
  exact alike.imp fun _ _ related => Comparison.alike_fragment related

theorem Where.alike_inline {condition : Where ρ} {condition' : Where σ}
    (alike : condition.Alike name ref condition') :
    Fragment.Alike name ref condition.inline condition'.inline := by
  refine Fragment.alike_braced ?_
  rw [List.forall₂_map_left_iff, List.forall₂_map_right_iff]
  exact alike.imp fun _ _ related => Comparison.alike_entry related

theorem Where.isEmpty_alike {condition : Where ρ} {condition' : Where σ}
    (alike : condition.Alike name ref condition') : condition.isEmpty = condition'.isEmpty := by
  obtain ⟨comparisons⟩ := condition
  obtain ⟨comparisons'⟩ := condition'
  cases alike <;> rfl

end Fragments

/-! ## Conditions and properties -/

section Drafts

variable {like : Likeness}

/-- Drafts that ask for the like and have results that are alike. -/
abbrev Drafts {α β : Type} (like : Likeness) (same : α → β → Prop) (first : Asking α)
    (second : Asking β) : Prop :=
  Relates like.before same first second

/-- Texts of drafts that are alike. -/
abbrev Likeness.text (like : Likeness) : Fragment Ref → Fragment Ref → Prop :=
  Fragment.Alike like.name (Ref.Alike like)

/-- Conditions of drafts that are alike. -/
abbrev Likeness.condition (like : Likeness) : Where Ref → Where Ref → Prop :=
  Where.Alike like.name (Ref.Alike like)

theorem drafts_ask_parameter {name name' : String} (named : like.name name name')
    {value value' : Value} (bound : like.value value value') :
    Drafts like (Ref.Alike like) (ask (.parameter name value)) (ask (.parameter name' value')) := by
  intro asked asked' before
  obtain ⟨answered, after⟩ := like.parameter before named bound
  exact ⟨.asked answered, after⟩

theorem drafts_ask_identifier (stem : String) :
    Drafts like (Ref.Alike like) (ask (.identifier stem)) (ask (.identifier stem)) := by
  intro asked asked' before
  obtain ⟨answered, after⟩ := like.identifier stem before
  exact ⟨.asked answered, after⟩

theorem Operand.drafts_ask {operand operand' : Operand} (alike : operand.Alike like operand')
    {property property' : String} (named : like.name property property') :
    Drafts like (BoundOperand.Alike (Ref.Alike like)) (operand.ask property)
      (operand'.ask property') := by
  cases alike with
  | value bound =>
    refine relates_bind (drafts_ask_parameter named bound) fun _ _ related => ?_
    exact relates_pure (.parameter related)
  | literal text => exact relates_pure (.literal text)

/-- The comparisons of a condition that is drafted. -/
theorem Condition.drafts_ask {condition condition' : Condition}
    (alike : condition.Alike like condition') {subject subject' : Subject Ref}
    (about : subject.Alike like.name (Ref.Alike like) subject') {property property' : String}
    (named : like.name property property') :
    Drafts like (List.Forall₂ (Comparison.Alike like.name (Ref.Alike like)))
      (condition.ask subject property) (condition'.ask subject' property') := by
  refine relates_askAll alike fun comparison comparison' related => ?_
  refine relates_bind (Operand.drafts_ask related.2 named) fun _ _ operand => ?_
  exact relates_pure ⟨about, named, related.1, operand⟩

theorem Conditions.drafts_ask {conditions conditions' : Conditions}
    (alike : conditions.Alike like conditions') {subject subject' : Subject Ref}
    (about : subject.Alike like.name (Ref.Alike like) subject') :
    Drafts like like.condition (conditions.ask subject) (conditions'.ask subject') := by
  refine relates_bind (relates_askAll alike fun entry entry' related =>
    Condition.drafts_ask related.2 about related.1) fun _ _ parts => ?_
  exact relates_pure (List.rel_flatten parts)

theorem Criteria.drafts_ask {criteria criteria' : Criteria} (alike : criteria.Alike like criteria') :
    Drafts like like.condition criteria.ask criteria'.ask := by
  refine relates_bind (relates_askAll alike fun entry entry' related =>
    Conditions.drafts_ask related.2 (.given related.1)) fun _ _ parts => ?_
  refine relates_pure (List.rel_flatten ?_)
  rwa [List.forall₂_map_left_iff, List.forall₂_map_right_iff]

theorem Properties.drafts_ask {properties properties' : Properties}
    (alike : properties.Alike like properties') (separator : String)
    {owner owner' : Fragment Ref} (owned : like.text owner owner') :
    Drafts like (List.Forall₂ like.text) (properties.ask separator owner)
      (properties'.ask separator owner') := by
  refine relates_askAll alike fun entry entry' related => ?_
  refine relates_bind (Operand.drafts_ask related.2 related.1) fun _ _ operand => ?_
  refine relates_pure (List.rel_append owned ?_)
  exact .cons (.name related.1)
    (.cons (.fixed separator) (.cons (BoundOperand.alike_piece operand) .nil))

theorem Properties.drafts_askInline {properties properties' : Properties}
    (alike : properties.Alike like properties') :
    Drafts like like.text properties.askInline properties'.askInline := by
  refine relates_bind (Properties.drafts_ask alike ": " .nil) fun _ _ parts => ?_
  exact relates_pure (Fragment.alike_braced parts)

/-! ## Halves of conditions -/

theorem OrderedMap.alike_filterMap {α β : Type} {name : String → String → Prop}
    {value : α → α → Prop} {value' : β → β → Prop} {select : α → Option β}
    {map map' : OrderedMap α} (alike : map.Alike name value map')
    (each : ∀ first second, value first second → Option.Rel value' (select first) (select second)) :
    (map.filterMap select).Alike name value' (map'.filterMap select) := by
  refine List.rel_filterMap (fun entry entry' related => ?_) alike
  have selected := each _ _ related.2
  generalize select entry.2 = here at selected ⊢
  generalize select entry'.2 = there at selected ⊢
  cases selected with
  | none => exact .none
  | some kept => exact .some ⟨related.1, kept⟩

theorem firstEquality?_alike {comparisons comparisons' : List (Operator × Operand)}
    (alike : Comparisons.Alike like comparisons comparisons') :
    Option.Rel (Operand.Alike like) (firstEquality? comparisons) (firstEquality? comparisons') := by
  induction alike with
  | nil => exact .none
  | cons first _ ih =>
    rw [firstEquality?, firstEquality?, ← first.1]
    split
    · exact .some first.2
    · exact ih

theorem dropFirstEquality_alike {comparisons comparisons' : List (Operator × Operand)}
    (alike : Comparisons.Alike like comparisons comparisons') :
    Comparisons.Alike like (dropFirstEquality comparisons) (dropFirstEquality comparisons') := by
  induction alike with
  | nil => exact .nil
  | cons first others ih =>
    rw [dropFirstEquality, dropFirstEquality, ← first.1]
    split
    · exact others
    · exact .cons first ih

theorem Conditions.alike_inlineHalf {conditions conditions' : Conditions}
    (alike : conditions.Alike like conditions') :
    conditions.inlineHalf.Alike like conditions'.inlineHalf := by
  refine OrderedMap.alike_filterMap alike fun first second related => ?_
  have operand := firstEquality?_alike related
  generalize firstEquality? first.comparisons = here at operand ⊢
  generalize firstEquality? second.comparisons = there at operand ⊢
  cases operand with
  | none => exact .none
  | some operand => exact .some (.cons ⟨rfl, operand⟩ .nil)

theorem Conditions.alike_hoistedHalf {conditions conditions' : Conditions}
    (alike : conditions.Alike like conditions') :
    conditions.hoistedHalf.Alike like conditions'.hoistedHalf := by
  refine OrderedMap.alike_filterMap alike fun first second related => ?_
  have rest := dropFirstEquality_alike related
  generalize dropFirstEquality first.comparisons = here at rest ⊢
  generalize dropFirstEquality second.comparisons = there at rest ⊢
  cases rest with
  | nil => exact .none
  | cons comparison others => exact .some (.cons comparison others)

/-! ## Patterns -/

/-- Filters of drafts that are alike. -/
structure FilterText.Alike (like : Likeness) (first second : FilterText Ref) : Prop where
  subject : Option.Rel (Subject.Alike like.name (Ref.Alike like)) first.subject second.subject
  inside : like.text first.inside second.inside
  hoisted : like.condition first.hoisted second.hoisted

/-- Patterns of drafts that are alike. -/
structure PatternText.Alike (like : Likeness) (first second : PatternText Ref) : Prop where
  text : like.text first.text second.text
  hoisted : like.condition first.hoisted second.hoisted

theorem Label.alike_fragment {label label' : Label} (alike : label.Alike like label') :
    like.text label.fragment label'.fragment := by
  cases alike with
  | all names => exact Fragment.alike_names ":" names
  | any names => exact Fragment.alike_names "|" names
  | resolved text => exact .cons (.raw text) .nil

theorem isEmpty_alike {α β : Type} {same : α → β → Prop} {first : List α} {second : List β}
    (alike : List.Forall₂ same first second) : first.isEmpty = second.isEmpty := by
  cases alike <;> rfl

theorem Label.isEmpty_alike {label label' : Label} (alike : label.Alike like label') :
    label.isEmpty = label'.isEmpty := by
  cases alike with
  | all names => exact Cypher.isEmpty_alike names
  | any names => exact Cypher.isEmpty_alike names
  | resolved text => rfl

theorem labelPart_alike {label label' : Option Label}
    (alike : Option.Rel (Label.Alike like) label label') :
    like.text (labelPart label) (labelPart label') := by
  cases alike with
  | none => exact .nil
  | some related =>
    rw [labelPart, labelPart, ← Label.isEmpty_alike related]
    split
    · exact .nil
    · exact .cons (.fixed ":") (Label.alike_fragment related)

theorem typePart_alike {types types' : List String} (alike : List.Forall₂ like.name types types') :
    like.text (typePart types) (typePart types') := by
  cases alike with
  | nil => exact .nil
  | cons first others => exact .cons (.fixed ":") (Fragment.alike_names "|" (.cons first others))

theorem Hops.alike_fragment (hops : Hops) : like.text hops.fragment hops.fragment := by
  rw [Hops.fragment]
  split
  · exact .nil
  · exact .cons (.fixed _) .nil

theorem subjectPart_alike {subject subject' : Option (Subject Ref)}
    (alike : Option.Rel (Subject.Alike like.name (Ref.Alike like)) subject subject') :
    like.text (subjectPart subject) (subjectPart subject') := by
  cases alike with
  | none => exact .nil
  | some related => exact .cons (Subject.alike_piece related) .nil

theorem headAndInside_alike {head head' inside inside' : Fragment Ref}
    (alike : like.text head head') (alike' : like.text inside inside') :
    like.text (headAndInside head inside) (headAndInside head' inside') := by
  rw [headAndInside, headAndInside, ← isEmpty_alike alike, ← isEmpty_alike alike']
  split
  · exact alike'
  · split
    · exact alike
    · exact List.rel_append alike (.cons (.fixed " ") alike')

theorem around_alike (direction : Direction) {inside inside' : Fragment Ref}
    (alike : like.text inside inside') :
    like.text (direction.around inside) (direction.around inside') := by
  have close (text : String) : like.text [.fixed text] [.fixed text] := .cons (.fixed text) .nil
  cases direction <;> exact .cons (.fixed _) (List.rel_append alike (close _))

theorem drafts_askSubject (stem : String) {subject subject' : Option (Subject Ref)}
    (alike : Option.Rel (Subject.Alike like.name (Ref.Alike like)) subject subject') :
    Drafts like (Subject.Alike like.name (Ref.Alike like)) (askSubject stem subject)
      (askSubject stem subject') := by
  cases alike with
  | none =>
    refine relates_bind (drafts_ask_identifier stem) fun _ _ related => ?_
    exact relates_pure (.synthesized related)
  | some related => exact relates_pure related

theorem given_alike {identifier identifier' : Option String}
    (alike : Option.Rel like.name identifier identifier') :
    Option.Rel (Subject.Alike like.name (Ref.Alike like)) (identifier.map .given)
      (identifier'.map .given) := by
  cases alike with
  | none => exact .none
  | some related => exact .some (.given related)

theorem Filter.drafts_ask {filter filter' : Filter}
    (alike : filter.Alike like filter') (stem : String) {identifier identifier' : Option String}
    (named : Option.Rel like.name identifier identifier') :
    Drafts like (FilterText.Alike like) (filter.ask stem identifier)
      (filter'.ask stem identifier') := by
  have given := given_alike named
  cases alike with
  | nothing => exact relates_pure ⟨given, .nil, .nil⟩
  | properties values =>
    refine relates_bind (Properties.drafts_askInline values) fun _ _ inside => ?_
    exact relates_pure ⟨given, inside, .nil⟩
  | @conditions required required' related =>
    have subject : (Subject.given (identifier.getD "") : Subject Ref).Alike like.name
        (Ref.Alike like) (.given (identifier'.getD "")) := by
      cases named with
      | none => exact .given (like.same "")
      | some named => exact .given named
    have hoisted := Conditions.alike_hoistedHalf related
    have empty : required.hoistedHalf.isEmpty = required'.hoistedHalf.isEmpty :=
      isEmpty_alike hoisted
    refine relates_bind (Conditions.drafts_ask (Conditions.alike_inlineHalf related) subject)
      fun _ _ inside => ?_
    -- either both patterns hoist conditions, and may ask for a subject, or none does
    rw [← empty]
    split
    · exact relates_pure ⟨given, Where.alike_inline inside, .nil⟩
    · refine relates_bind (drafts_askSubject stem given) fun _ _ about => ?_
      refine relates_bind (Conditions.drafts_ask hoisted about) fun _ _ outside => ?_
      exact relates_pure ⟨.some about, Where.alike_inline inside, outside⟩

theorem Node.drafts_ask {node node' : Node} (alike : node.Alike like node') :
    Drafts like (PatternText.Alike like) node.ask node'.ask := by
  cases alike with
  | raw text => exact relates_pure ⟨.cons (.raw text) .nil, .nil⟩
  | pattern shape =>
    refine relates_bind (Filter.drafts_ask shape.filter _ shape.identifier)
      fun filter filter' related => ?_
    have head := List.rel_append (subjectPart_alike related.subject) (labelPart_alike shape.label)
    have inner := headAndInside_alike head related.inside
    refine relates_pure ⟨.cons (.fixed "(") (List.rel_append inner ?_), related.hoisted⟩
    exact .cons (.fixed ")") .nil

theorem Relationship.drafts_ask {relationship relationship' : Relationship}
    (alike : relationship.Alike like relationship') :
    Drafts like (PatternText.Alike like) relationship.ask relationship'.ask := by
  cases alike with
  | raw text => exact relates_pure ⟨.cons (.raw text) .nil, .nil⟩
  | @pattern shape shape' related =>
    refine relates_bind (Filter.drafts_ask related.filter _ related.identifier)
      fun filter filter' filtered => ?_
    have typed := List.rel_append (subjectPart_alike filtered.subject) (typePart_alike related.types)
    have head := List.rel_append typed shape.hops.alike_fragment
    have inner := around_alike shape.direction (headAndInside_alike head filtered.inside)
    rw [← related.hops, ← related.direction]
    exact relates_pure ⟨inner, filtered.hoisted⟩

theorem PathElement.drafts_ask {element element' : PathElement}
    (alike : element.Alike like element') :
    Drafts like (PatternText.Alike like) element.ask element'.ask := by
  cases alike with
  | node related => exact Node.drafts_ask related
  | relationship related => exact Relationship.drafts_ask related

/-- Patterns that are alike one by one are alike together. -/
theorem PatternText.alike_together {join : List (Fragment Ref) → Fragment Ref}
    (joined : ∀ {fragments fragments'}, List.Forall₂ like.text fragments fragments' →
      like.text (join fragments) (join fragments'))
    {parts parts' : List (PatternText Ref)} (alike : List.Forall₂ (PatternText.Alike like) parts parts') :
    (PatternText.together join parts).Alike like (PatternText.together join parts') := by
  constructor
  · refine joined ?_
    rw [List.forall₂_map_left_iff, List.forall₂_map_right_iff]
    exact alike.imp fun _ _ related => related.text
  · refine List.rel_flatten ?_
    rw [List.forall₂_map_left_iff, List.forall₂_map_right_iff]
    exact alike.imp fun _ _ related => related.hoisted

theorem Pattern.drafts_ask {pattern pattern' : Pattern}
    (alike : pattern.Alike like pattern') :
    Drafts like (PatternText.Alike like) pattern.ask pattern'.ask := by
  cases alike with
  | node related => exact Node.drafts_ask related
  | nodes related =>
    refine relates_bind (relates_askAll related fun _ _ => Node.drafts_ask) fun _ _ parts => ?_
    exact relates_pure (PatternText.alike_together (Fragment.alike_joinedBy ", ") parts)
  | path related =>
    refine relates_bind (relates_askAll related fun _ _ => PathElement.drafts_ask)
      fun _ _ parts => ?_
    exact relates_pure (PatternText.alike_together (fun texts => List.rel_flatten texts) parts)

/-! ## Clauses -/

theorem before_alike (keyword : Keyword) {rest rest' : Fragment Ref} (alike : like.text rest rest') :
    like.text (keyword.before rest) (keyword.before rest') :=
  .cons (.fixed _) alike

theorem hoistedPart_alike {hoisted hoisted' : Where Ref} (alike : like.condition hoisted hoisted') :
    like.text (hoistedPart hoisted) (hoistedPart hoisted') := by
  rw [hoistedPart, hoistedPart, ← Where.isEmpty_alike alike]
  split
  · exact .nil
  · exact .cons (.fixed _) (Where.alike_expression alike)

theorem Where.alike_clause {condition condition' : Where Ref}
    (alike : like.condition condition condition') : like.text condition.clause condition'.clause := by
  rw [Where.clause, Where.clause, ← Where.isEmpty_alike alike]
  split
  · exact .nil
  · exact before_alike _ (Where.alike_expression alike)

theorem propertyAccess_alike {identifier identifier' : String} {property property' : Option String}
    (alike : like.name identifier identifier') (alike' : Option.Rel like.name property property') :
    like.text (propertyAccess identifier property) (propertyAccess identifier' property') := by
  cases alike' with
  | none => exact .cons (.name alike) .nil
  | some named => exact .cons (.name alike) (.cons (.fixed ".") (.cons (.name named) .nil))

theorem joined_alike {α β : Type} {same : α → β → Prop} {write : α → Fragment Ref}
    {write' : β → Fragment Ref} {items : List α} {items' : List β}
    (alike : List.Forall₂ same items items')
    (each : ∀ item item', same item item' → like.text (write item) (write' item')) :
    like.text (Fragment.joinedBy ", " (items.map write))
      (Fragment.joinedBy ", " (items'.map write')) := by
  refine Fragment.alike_joinedBy ", " ?_
  rw [List.forall₂_map_left_iff, List.forall₂_map_right_iff]
  exact alike.imp each

theorem Removal.alike_fragment {removal removal' : Removal} (alike : removal.Alike like removal') :
    like.text removal.fragment removal'.fragment := by
  cases alike with
  | properties identified names =>
    exact joined_alike names fun _ _ named => propertyAccess_alike identified (.some named)
  | labels identified names =>
    exact .cons (.name identified) (.cons (.fixed ":") (Fragment.alike_names ":" names))

theorem Deletion.alike_fragment {deletion deletion' : Deletion}
    (alike : deletion.Alike like deletion') : like.text deletion.fragment deletion'.fragment := by
  cases alike with
  | identifiers names => exact Fragment.alike_names ", " names
  | literal text => exact .cons (.raw text) .nil

theorem ProjectionItem.alike_fragment {item item' : ProjectionItem}
    (alike : item.Alike like item') : like.text item.fragment item'.fragment := by
  obtain ⟨identifier, property, newName⟩ := item
  obtain ⟨identifier', property', newName'⟩ := item'
  obtain ⟨identified, accessed, renamed⟩ := alike
  refine List.rel_append (propertyAccess_alike identified accessed) ?_
  cases renamed with
  | none => exact .nil
  | some named => exact .cons (.fixed _) (.cons (.name named) .nil)

theorem Projection.alike_fragment {projection projection' : Projection}
    (alike : projection.Alike like projection') :
    like.text projection.fragment projection'.fragment := by
  cases alike with
  | names given => exact Fragment.alike_names ", " given
  | items given => exact joined_alike given fun _ _ => ProjectionItem.alike_fragment

theorem SortItem.alike_fragment {item item' : SortItem} (alike : item.Alike like item') :
    like.text item.fragment item'.fragment := by
  rw [SortItem.fragment, SortItem.fragment, ← alike.direction]
  refine List.rel_append (propertyAccess_alike alike.identifier alike.property) ?_
  split
  · exact .cons (.fixed _) .nil
  · exact .cons (.fixed _) .nil
  · exact .nil

theorem Assignment.drafts_ask {assignment assignment' : Assignment}
    (alike : assignment.Alike like assignment') :
    Drafts like like.text assignment.ask assignment'.ask := by
  have owner : like.text [.name assignment.identifier, .fixed "."]
      [.name assignment'.identifier, .fixed "."] :=
    .cons (.name alike.identifier) (.cons (.fixed ".") .nil)
  refine relates_bind (Properties.drafts_ask alike.properties " = " owner) fun _ _ parts => ?_
  exact relates_pure (Fragment.alike_joinedBy ", " parts)

theorem Unwinding.drafts_ask {source source' : Unwinding}
    (alike : source.Alike like source') :
    Drafts like (Piece.Alike like.name (Ref.Alike like)) source.ask source'.ask := by
  cases alike with
  | expression text => exact relates_pure (.raw text)
  | values listed =>
    refine relates_bind (drafts_ask_parameter (like.same _) listed) fun _ _ related => ?_
    exact relates_pure (.parameter related)

theorem Subject.alike_granted {subject subject' : Subject String}
    (alike : subject.Alike like.name like.name subject') :
    (subject.map Ref.granted).Alike like.name (Ref.Alike like) (subject'.map Ref.granted) := by
  cases alike with
  | given named => exact .given named
  | synthesized named => exact .synthesized (.granted named)

theorem BoundOperand.alike_granted {operand operand' : BoundOperand String}
    (alike : operand.Alike like.name operand') :
    (operand.map Ref.granted).Alike (Ref.Alike like) (operand'.map Ref.granted) := by
  cases alike with
  | parameter named => exact .parameter (.granted named)
  | literal text => exact .literal text

theorem Where.alike_granted {condition condition' : Where String}
    (alike : condition.Alike like.name like.name condition') :
    like.condition (condition.map Ref.granted) (condition'.map Ref.granted) := by
  simp only [Likeness.condition, Where.Alike, Where.map]
  rw [List.forall₂_map_left_iff, List.forall₂_map_right_iff]
  refine List.Forall₂.imp (fun first second related => ?_) alike
  exact ⟨Subject.alike_granted related.subject, related.property, related.operator,
    BoundOperand.alike_granted related.operand⟩

theorem Clause.drafts_ask_of_plain {clause clause' : Clause}
    (plain : clause.body? = none) (alike : clause.Alike like clause') :
    Drafts like like.text clause.ask clause'.ask := by
  cases alike with
  | spliced keyword text => exact relates_pure (before_alike _ (.cons (.raw text) .nil))
  | raw text => exact relates_pure (.cons (.raw text) .nil)
  | pattern use related =>
    refine relates_bind (Pattern.drafts_ask related) fun _ _ drafted => ?_
    exact relates_pure (List.rel_append (before_alike _ drafted.text)
      (hoistedPart_alike drafted.hoisted))
  | assign moment related =>
    refine relates_bind (Assignment.drafts_ask related) fun _ _ parts => ?_
    exact relates_pure (before_alike _ parts)
  | remove related => exact relates_pure (before_alike _ (Removal.alike_fragment related))
  | delete detach related =>
    rw [Clause.ask, Clause.ask]
    have target := before_alike Keyword.delete (Deletion.alike_fragment related)
    refine relates_pure ?_
    cases detach with
    | true => exact .cons (.fixed _) target
    | false => exact target
  | project stage distinct related =>
    exact relates_pure (before_alike _ (Projection.alike_fragment related))
  | sort related =>
    refine relates_pure (before_alike _ ?_)
    exact joined_alike related fun _ _ => SortItem.alike_fragment
  | unwind related named =>
    refine relates_bind (Unwinding.drafts_ask related) fun _ _ list => ?_
    exact relates_pure (before_alike _ (.cons list (.cons (.fixed _) (.cons (.name named) .nil))))
  | page part counted =>
    refine relates_bind (drafts_ask_parameter (like.same _) (like.page counted))
      fun _ _ related => ?_
    exact relates_pure (before_alike _ (.cons (.parameter related) .nil))
  | restrict related =>
    refine relates_bind (Criteria.drafts_ask related) fun _ _ condition => ?_
    exact relates_pure (Where.alike_clause condition)
  | restrictBound related => exact relates_pure (Where.alike_clause (Where.alike_granted related))
  | forEach => cases plain
  | call => cases plain

/-- What was written already is alike where the drafts are. -/
def Likeness.Keeps (like : Likeness) : Prop :=
  ∀ entry entry' : Clause × Fragment String, like.cached entry entry' →
    Drafts like like.text entry.1.ask entry'.1.ask →
    Fragment.Alike like.name like.name entry.2 entry'.2

/-- The drafts of bodies that are alike, given that the drafts of their clauses are. -/
theorem Clause.drafts_askBody (keeps : like.Keeps) {body body' : Body Clause}
    (alike : body.Alike like body')
    (each : ∀ inner ∈ Query.clauses body, ∀ inner', inner.Alike like inner' →
      Drafts like like.text inner.ask inner'.ask) :
    Drafts like (Piece.Alike like.name (Ref.Alike like)) (Clause.askBody body)
      (Clause.askBody body') := by
  cases alike with
  | @mk written written' pending pending' home home' clauses cached later homes =>
    rw [List.forall₂_map_left_iff, List.forall₂_map_right_iff] at clauses
    -- the clauses that are written are drafted again, to compare what was written of them
    have known := (List.forall₂_and_left _ _).mpr ⟨fun entry member =>
      each entry.1 (List.mem_append_left _ (List.mem_map_of_mem member)), clauses⟩
    have fragments := List.Forall₂.mp
      (fun _ _ both kept => keeps _ _ kept (both.1 _ both.2)) known cached
    have drafts := (List.forall₂_and_left _ _).mpr ⟨fun inner member =>
      each inner (List.mem_append_right _ member), later⟩
    rw [Clause.askBody, Clause.askBody, Clause.askAll_eq, Clause.askAll_eq]
    refine relates_bind (relates_askAll drafts fun _ _ both => both.1 _ both.2) fun _ _ drafted => ?_
    refine relates_pure (.body (List.rel_append ?_ drafted))
    rw [List.forall₂_map_left_iff, List.forall₂_map_right_iff]
    exact fragments.imp fun _ _ related => Fragment.alike_map (fun _ _ => .granted) related

/-- Clauses that are alike ask for the like and are written alike. -/
theorem Clause.drafts_ask (keeps : like.Keeps) {clause clause' : Clause}
    (alike : clause.Alike like clause') : Drafts like like.text clause.ask clause'.ask := by
  induction clause using Clause.induction generalizing clause' with
  | plain clause noBody => exact Clause.drafts_ask_of_plain noBody alike
  | nested clause body nested ih =>
    have inside {body' : Body Clause} (related : body.Alike like body') :=
      Clause.drafts_askBody keeps related fun inner member _ => ih inner member
    cases alike with
    | forEach list named related =>
      obtain rfl := Option.some.inj nested
      refine relates_bind (inside related) fun _ _ inner => relates_pure (before_alike _ ?_)
      exact .cons (.fixed _) (.cons (.name named) (.cons (.fixed _) (.cons (.raw list)
        (.cons (.fixed _) (.cons inner (.cons (.fixed _) .nil))))))
    | call related =>
      obtain rfl := Option.some.inj nested
      refine relates_bind (inside related) fun _ _ inner => relates_pure (before_alike _ ?_)
      exact .cons (.fixed _) (.cons inner (.cons (.fixed _) .nil))
    | _ => cases nested

theorem Clause.drafts_askAll (keeps : like.Keeps) {clauses clauses' : List Clause}
    (alike : List.Forall₂ (Clause.Alike like) clauses clauses') :
    Drafts like (List.Forall₂ like.text) (Clause.askAll clauses) (Clause.askAll clauses') := by
  rw [Clause.askAll_eq, Clause.askAll_eq]
  exact relates_askAll alike fun _ _ => Clause.drafts_ask keeps

end Drafts

end Cypher
