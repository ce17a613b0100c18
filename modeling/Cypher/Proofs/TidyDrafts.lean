import Cypher.Proofs.RawTexts
import Cypher.Proofs.Tidy

/-!
# The drafts of clauses are tidy

Every name that a clause writes stands between keywords and punctuation, and
the texts of the caller in the fragment of a clause are those of the clause.
-/

namespace Cypher

open Fragment (Tidy Opens TextEnds SetsApart)
open Lexing (separates)
open Asking (Yields yields_pure yields_true yields_bind yields_askAll)

/-! ## Conditions and properties -/

variable {allowed : String → Prop}

theorem BoundOperand.tidy_piece {ρ : Type} {operand : BoundOperand ρ}
    (raw : ∀ text ∈ operand.rawTexts, allowed text) : Fragment.PieceTidy allowed operand.piece := by
  cases operand with
  | parameter ref => exact trivial
  | literal text => exact raw text (List.mem_singleton_self text)

theorem Subject.tidy_piece {ρ : Type} (subject : Subject ρ) :
    Fragment.PieceTidy allowed subject.piece := by
  cases subject <;> exact trivial

theorem Operand.yields_ask {operand : Operand} (raw : ∀ text ∈ operand.rawTexts, allowed text)
    (property : String) :
    Yields (fun bound => ∀ text ∈ bound.rawTexts, allowed text) (operand.ask property) := by
  cases operand with
  | value bound => exact yields_bind (yields_true _) fun ref _ => yields_pure nofun
  | literal text => exact yields_pure raw

/-- A condition whose texts are allowed. -/
def Where.Sound {ρ : Type} (allowed : String → Prop) (condition : Where ρ) : Prop :=
  ∀ comparison ∈ condition.comparisons, ∀ text ∈ comparison.operand.rawTexts, allowed text

theorem Condition.yields_ask {condition : Condition}
    (raw : ∀ text ∈ condition.rawTexts, allowed text) (subject : Subject Ref) (property : String) :
    Yields (fun comparisons => Where.Sound allowed ⟨comparisons⟩)
      (condition.ask subject property) := by
  rw [Condition.rawTexts, List.forall_mem_flatMap] at raw
  refine yields_askAll fun comparison member => ?_
  refine yields_bind (Operand.yields_ask (raw comparison member) property) fun operand sound => ?_
  exact yields_pure sound

theorem Conditions.yields_ask {conditions : Conditions}
    (raw : ∀ text ∈ conditions.rawTexts, allowed text) (subject : Subject Ref) :
    Yields (Where.Sound allowed) (conditions.ask subject) := by
  rw [Conditions.rawTexts, List.forall_mem_flatMap] at raw
  have each := yields_askAll fun entry member =>
    Condition.yields_ask (raw entry member) subject entry.1
  refine yields_bind each fun parts sound => yields_pure fun comparison member => ?_
  obtain ⟨part, there, inside⟩ := List.mem_flatten.mp member
  exact sound part there comparison inside

theorem Criteria.yields_ask {criteria : Criteria}
    (raw : ∀ text ∈ criteria.rawTexts, allowed text) :
    Yields (Where.Sound allowed) criteria.ask := by
  rw [Criteria.rawTexts, List.forall_mem_flatMap] at raw
  have each := yields_askAll fun entry member =>
    Conditions.yields_ask (raw entry member) (.given entry.1)
  refine yields_bind each fun parts sound => yields_pure fun comparison member => ?_
  obtain ⟨part, there, inside⟩ := List.mem_flatten.mp member
  obtain ⟨condition, among, rfl⟩ := List.mem_map.mp there
  exact sound condition among comparison inside

theorem Operator.setsApart (operator : Operator) : SetsApart (" " ++ operator.symbol ++ " ") := by
  cases operator <;> decide

theorem Comparison.tidy_fragment {ρ : Type} {comparison : Comparison ρ}
    (raw : ∀ text ∈ comparison.operand.rawTexts, allowed text) :
    Tidy allowed comparison.fragment := by
  have target : Tidy allowed
      [comparison.subject.piece, .fixed ".", .name comparison.property] :=
    Fragment.tidy_between (by decide) (Fragment.tidy_single (Subject.tidy_piece _))
      (Fragment.tidy_name _)
  have operand := Fragment.tidy_single (BoundOperand.tidy_piece raw)
  have apart := Operator.setsApart comparison.operator
  rw [Comparison.fragment]
  split
  · exact Fragment.tidy_between (by decide) operand target
  · exact Fragment.tidy_between apart target operand

theorem Comparison.tidy_entry {ρ : Type} {comparison : Comparison ρ}
    (raw : ∀ text ∈ comparison.operand.rawTexts, allowed text) :
    Tidy allowed comparison.entry :=
  Fragment.tidy_between (by decide) (Fragment.tidy_name _)
    (Fragment.tidy_single (BoundOperand.tidy_piece raw))

theorem tidy_braced {ρ : Type} {entries : List (Fragment ρ)}
    (each : ∀ entry ∈ entries, Tidy allowed entry) : Tidy allowed (braced entries) := by
  cases entries with
  | nil => exact trivial
  | cons entry rest =>
    exact Fragment.tidy_around (by decide) (by decide) (Fragment.tidy_joinedBy (by decide) each)

theorem Where.tidy_expression {ρ : Type} {condition : Where ρ} (sound : condition.Sound allowed) :
    Tidy allowed condition.expression :=
  Fragment.tidy_joined (by decide) fun comparison there =>
    Comparison.tidy_fragment (sound comparison there)

theorem Where.tidy_inline {ρ : Type} {condition : Where ρ} (sound : condition.Sound allowed) :
    Tidy allowed condition.inline :=
  tidy_braced (List.forall_mem_map.mpr fun comparison there =>
    Comparison.tidy_entry (sound comparison there))

/-! ## Patterns -/

theorem Label.tidy_fragment {ρ : Type} {label : Label}
    (raw : ∀ text ∈ label.rawTexts, allowed text) :
    Tidy allowed (label.fragment : Fragment ρ) := by
  cases label with
  | all names => exact Fragment.tidy_names (by decide) names
  | any names => exact Fragment.tidy_names (by decide) names
  | resolved text => exact Fragment.tidy_single (raw text (List.mem_singleton_self text))

/-- What can stand behind a name in the head of a pattern. -/
def Fragment.Trails {ρ : Type} (allowed : String → Prop) (fragment : Fragment ρ) : Prop :=
  Tidy allowed fragment ∧ Opens fragment

theorem Fragment.trails_nil {ρ : Type} : Trails allowed ([] : Fragment ρ) :=
  ⟨trivial, fun _ none => nomatch none⟩

theorem Fragment.trails_fixed {ρ : Type} {text : String} (keyed : Keyed text)
    (opens : text.toList.head?.any separates = true) :
    Trails allowed ([.fixed text] : Fragment ρ) := by
  refine ⟨tidy_single keyed, ?_⟩
  rintro _ ⟨⟩
  exact opens

theorem Fragment.trails_fixed_cons {ρ : Type} {text : String} {fragment : Fragment ρ}
    (apart : SetsApart text) (tidy : Tidy allowed fragment) :
    Trails allowed (.fixed text :: fragment) := by
  refine ⟨tidy_fixed_cons apart.1 apart.2.2 tidy, ?_⟩
  rintro _ ⟨⟩
  exact apart.2.1

theorem labelPart_trails {ρ : Type} {label : Option Label}
    (raw : ∀ text ∈ label.elim [] Label.rawTexts, allowed text) :
    Fragment.Trails allowed (labelPart label : Fragment ρ) := by
  cases label with
  | none => exact Fragment.trails_nil
  | some label =>
    rw [labelPart]
    split
    · exact Fragment.trails_nil
    · exact Fragment.trails_fixed_cons (by decide) (Label.tidy_fragment raw)

theorem typePart_trails {ρ : Type} (types : List String) :
    Fragment.Trails allowed (typePart types : Fragment ρ) := by
  cases types with
  | nil => exact Fragment.trails_nil
  | cons first rest => exact Fragment.trails_fixed_cons (by decide) (Fragment.tidy_names (by decide) _)

theorem Decimal.calm_numeral (n : Nat) :
    ∀ c ∈ Decimal.numeral n, Spacing.isQuote c = false ∧ c ≠ '$' := by
  have digit : ∀ d : Fin 10,
      Spacing.isQuote (Decimal.digitChar d) = false ∧ Decimal.digitChar d ≠ '$' := by decide
  fun_induction Decimal.numeral n with
  | case1 n small =>
    rintro c (_ | ⟨_, ⟨⟩⟩)
    exact digit ⟨n, small⟩
  | case2 n large ih =>
    intro c member
    rcases List.mem_append.mp member with before | last
    · exact ih c before
    · rw [List.mem_singleton.mp last]
      exact digit ⟨n % 10, Nat.mod_lt n (by decide)⟩

theorem Hops.segment_calm (hops : Hops) :
    ∀ c ∈ hops.segment, Spacing.isQuote c = false ∧ c ≠ '$' := by
  have star : Spacing.isQuote '*' = false ∧ '*' ≠ '$' := by decide
  have dot : Spacing.isQuote '.' = false ∧ '.' ≠ '$' := by decide
  have numeral := Decimal.calm_numeral
  obtain ⟨min, max⟩ := hops
  rw [Hops.segment]
  split <;> try split
  all_goals simp only [List.mem_append, List.mem_cons, List.not_mem_nil, or_false]
  all_goals grind

theorem Hops.segment_head (hops : Hops) : ∀ c ∈ hops.segment.head?, c = '*' := by
  obtain ⟨min, max⟩ := hops
  rw [Hops.segment]
  split <;> try split
  all_goals simp

theorem Hops.fragment_trails {ρ : Type} (hops : Hops) :
    Fragment.Trails allowed (hops.fragment : Fragment ρ) := by
  have calm := hops.segment_calm
  have head := hops.segment_head
  rw [Hops.fragment]
  split
  · exact Fragment.trails_nil
  · next nonempty =>
    generalize hops.segment = segment at calm head nonempty
    cases segment with
    | nil => exact absurd rfl nonempty
    | cons c rest =>
      obtain rfl := head c rfl
      refine Fragment.trails_fixed (fun c member => ?_) ?_
      · rw [String.toList_ofList] at member
        exact calm c member
      · rw [String.toList_ofList]
        exact (by decide : separates '*' = true)

theorem Fragment.tidy_append_trails {ρ : Type} {first second : Fragment ρ}
    (tidy : Tidy allowed first) (trails : Trails allowed second) :
    Tidy allowed (first ++ second) :=
  tidy_append_of_opens tidy trails.1 trails.2

theorem subjectPart_tidy {ρ : Type} (subject : Option (Subject ρ)) :
    Tidy allowed (subjectPart subject) := by
  cases subject with
  | none => exact trivial
  | some subject => exact Fragment.tidy_single (Subject.tidy_piece subject)

theorem headAndInside_tidy {ρ : Type} {head inside : Fragment ρ} (tidy : Tidy allowed head)
    (tidy' : Tidy allowed inside) : Tidy allowed (headAndInside head inside) := by
  rw [headAndInside]
  split
  · exact tidy'
  · split
    · exact tidy
    · exact Fragment.tidy_between (by decide) tidy tidy'

/-- A filter whose texts are allowed. -/
structure FilterText.Sound (allowed : String → Prop) (filter : FilterText Ref) : Prop where
  inside : Tidy allowed filter.inside
  hoisted : filter.hoisted.Sound allowed

/-- A pattern that can stand next to others, with conditions whose texts are allowed. -/
structure PatternText.Sound (allowed : String → Prop) (pattern : PatternText Ref) : Prop where
  text : Tidy allowed pattern.text
  hoisted : pattern.hoisted.Sound allowed

theorem Where.sound_empty : (Where.empty : Where Ref).Sound allowed := nofun

theorem PatternText.sound_raw {text : String} (raw : allowed text) :
    (⟨[.raw text], .empty⟩ : PatternText Ref).Sound allowed ∧ TextEnds ([.raw text] : Fragment Ref) :=
  ⟨⟨Fragment.tidy_raw raw, Where.sound_empty⟩, Fragment.textEnds_raw text⟩

theorem Properties.yields_ask {properties : Properties}
    (raw : ∀ text ∈ properties.rawTexts, allowed text) {separator : String}
    (apart : SetsApart separator) {owner : Fragment Ref}
    (before : ∀ given, Tidy allowed (owner ++ [.name given])) :
    Yields (fun parts => ∀ part ∈ parts, Tidy allowed part)
      (properties.ask separator owner) := by
  rw [Properties.rawTexts, List.forall_mem_flatMap] at raw
  refine yields_askAll fun entry member => ?_
  refine yields_bind (Operand.yields_ask (raw entry member) entry.1) fun operand sound => ?_
  have target := Fragment.tidy_between apart (before entry.1)
    (Fragment.tidy_single (BoundOperand.tidy_piece sound))
  rw [List.append_assoc] at target
  exact yields_pure target

theorem Properties.yields_askInline {properties : Properties}
    (raw : ∀ text ∈ properties.rawTexts, allowed text) :
    Yields (Tidy allowed) properties.askInline := by
  refine yields_bind (Properties.yields_ask raw (by decide) Fragment.tidy_name) fun parts each => ?_
  exact yields_pure (tidy_braced each)

theorem Filter.yields_ask {filter : Filter} (raw : ∀ text ∈ filter.rawTexts, allowed text)
    (stem : String) (identifier : Option String) :
    Yields (FilterText.Sound allowed) (filter.ask stem identifier) := by
  cases filter with
  | nothing => exact yields_pure ⟨trivial, Where.sound_empty⟩
  | properties values =>
    refine yields_bind (Properties.yields_askInline raw) fun inside tidy => ?_
    exact yields_pure ⟨tidy, Where.sound_empty⟩
  | conditions required =>
    -- both halves write texts of the whole only
    have inner := Conditions.yields_ask
      (fun text there => raw text (required.rawTexts_inlineHalf there))
      (.given (identifier.getD ""))
    have outer := Conditions.yields_ask
      (fun text there => raw text (required.rawTexts_hoistedHalf there))
    refine yields_bind inner fun inside sound => ?_
    have tidy := Where.tidy_inline sound
    split
    · exact yields_pure ⟨tidy, Where.sound_empty⟩
    · refine yields_bind (yields_true _) fun subject _ => ?_
      refine yields_bind (outer subject) fun hoisted sound' => ?_
      exact yields_pure ⟨tidy, sound'⟩

theorem Node.yields_ask {node : Node} (raw : ∀ text ∈ node.rawTexts, allowed text) :
    Yields (fun pattern => pattern.Sound allowed ∧ TextEnds pattern.text) node.ask := by
  cases node with
  | raw text => exact yields_pure (PatternText.sound_raw (raw text (List.mem_singleton_self text)))
  | pattern shape =>
    rw [Node.rawTexts, List.forall_mem_append] at raw
    refine yields_bind (Filter.yields_ask raw.2 _ _) fun filter sound => ?_
    have head : Tidy allowed (subjectPart filter.subject ++ labelPart shape.label) :=
      Fragment.tidy_append_trails (subjectPart_tidy _) (labelPart_trails raw.1)
    have apart : SetsApart "(" ∧ SetsApart ")" := by decide
    have tidy := Fragment.tidy_around apart.1 apart.2 (headAndInside_tidy head sound.inside)
    exact yields_pure ⟨⟨tidy, sound.hoisted⟩, Fragment.textEnds_around _ _ _⟩

theorem Direction.tidy_around {ρ : Type} (direction : Direction) {inside : Fragment ρ}
    (tidy : Tidy allowed inside) :
    Tidy allowed (direction.around inside) ∧ TextEnds (direction.around inside) := by
  cases direction <;>
    exact ⟨Fragment.tidy_around (by decide) (by decide) tidy, Fragment.textEnds_around _ _ _⟩

theorem Relationship.yields_ask {relationship : Relationship}
    (raw : ∀ text ∈ relationship.rawTexts, allowed text) :
    Yields (fun pattern => pattern.Sound allowed ∧ TextEnds pattern.text) relationship.ask := by
  cases relationship with
  | raw text => exact yields_pure (PatternText.sound_raw (raw text (List.mem_singleton_self text)))
  | pattern shape =>
    refine yields_bind (Filter.yields_ask raw _ _) fun filter sound => ?_
    have typed : Tidy allowed (subjectPart filter.subject ++ typePart shape.types) :=
      Fragment.tidy_append_trails (subjectPart_tidy _) (typePart_trails _)
    have head := Fragment.tidy_append_trails typed shape.hops.fragment_trails
    obtain ⟨tidy, ends⟩ := shape.direction.tidy_around (headAndInside_tidy head sound.inside)
    exact yields_pure ⟨⟨tidy, sound.hoisted⟩, ends⟩

theorem PathElement.yields_ask {element : PathElement}
    (raw : ∀ text ∈ element.rawTexts, allowed text) :
    Yields (fun pattern => pattern.Sound allowed ∧ TextEnds pattern.text) element.ask := by
  cases element with
  | node element => exact Node.yields_ask raw
  | relationship element => exact Relationship.yields_ask raw

/-- What patterns hand on together is what they hand on one by one. -/
theorem PatternText.together_sound {join : List (Fragment Ref) → Fragment Ref}
    {parts : List (PatternText Ref)} (tidy : Tidy allowed (join (parts.map PatternText.text)))
    (each : ∀ part ∈ parts, part.hoisted.Sound allowed) :
    (PatternText.together join parts).Sound allowed := by
  refine ⟨tidy, fun comparison member => ?_⟩
  obtain ⟨comparisons, among, there⟩ := List.mem_flatten.mp member
  obtain ⟨part, inside, rfl⟩ := List.mem_map.mp among
  exact each part inside comparison there

theorem Pattern.yields_ask {pattern : Pattern} (raw : ∀ text ∈ pattern.rawTexts, allowed text) :
    Yields (PatternText.Sound allowed) pattern.ask := by
  cases pattern with
  | node single => exact fun asked => (Node.yields_ask raw asked).1
  | nodes siblings =>
    rw [Pattern.rawTexts, List.forall_mem_flatMap] at raw
    refine yields_bind (yields_askAll fun node member => Node.yields_ask (raw node member))
      fun parts each => yields_pure ?_
    refine PatternText.together_sound ?_ fun part member => (each part member).1.hoisted
    refine Fragment.tidy_joinedBy (by decide) fun fragment member => ?_
    obtain ⟨part, there, rfl⟩ := List.mem_map.mp member
    exact (each part there).1.text
  | path elements =>
    rw [Pattern.rawTexts, List.forall_mem_flatMap] at raw
    refine yields_bind (yields_askAll fun element member =>
      PathElement.yields_ask (raw element member)) fun parts each => yields_pure ?_
    refine PatternText.together_sound ?_ fun part member => (each part member).1.hoisted
    refine (Fragment.tidy_flatten fun fragment member => ?_).1
    obtain ⟨part, there, rfl⟩ := List.mem_map.mp member
    exact ⟨(each part there).1.text, (each part there).2⟩

/-! ## Clauses -/

theorem Keyword.tidy_before {ρ : Type} (keyword : Keyword) {rest : Fragment ρ}
    (tidy : Tidy allowed rest) : Tidy allowed (keyword.before rest) := by
  have keyed : Fragment.Keyed (keyword.text ++ " ") ∧
      (keyword.text ++ " ").toList.getLast?.any separates = true := by
    cases keyword <;> decide
  exact Fragment.tidy_fixed_cons keyed.1 keyed.2 tidy

theorem hoistedPart_trails {hoisted : Where Ref} (sound : hoisted.Sound allowed) :
    Fragment.Trails allowed (hoistedPart hoisted) := by
  rw [hoistedPart]
  split
  · exact Fragment.trails_nil
  · exact Fragment.trails_fixed_cons (by decide) (Where.tidy_expression sound)

theorem propertyAccess_tidy {ρ : Type} (identifier : String) (property : Option String) :
    Tidy allowed (propertyAccess identifier property : Fragment ρ) := by
  cases property with
  | none => exact Fragment.tidy_name identifier
  | some name =>
    exact Fragment.tidy_between (by decide) (Fragment.tidy_name identifier)
      (Fragment.tidy_name name)

theorem Removal.tidy_fragment {ρ : Type} (removal : Removal) :
    Tidy allowed (removal.fragment : Fragment ρ) := by
  cases removal with
  | properties identifier names =>
    exact Fragment.tidy_joined (by decide) fun name _ =>
      propertyAccess_tidy identifier (some name)
  | labels identifier names =>
    exact Fragment.tidy_between (by decide) (Fragment.tidy_name identifier)
      (Fragment.tidy_names (by decide) names)

theorem Deletion.tidy_fragment {ρ : Type} {deletion : Deletion}
    (raw : ∀ text ∈ deletion.rawTexts, allowed text) :
    Tidy allowed (deletion.fragment : Fragment ρ) := by
  cases deletion with
  | identifiers names => exact Fragment.tidy_names (by decide) names
  | literal text => exact Fragment.tidy_raw (raw text (List.mem_singleton_self text))

theorem ProjectionItem.tidy_fragment {ρ : Type} (item : ProjectionItem) :
    Tidy allowed (item.fragment : Fragment ρ) := by
  have access : Tidy allowed (propertyAccess item.identifier item.property : Fragment ρ) :=
    propertyAccess_tidy item.identifier item.property
  rw [ProjectionItem.fragment]
  cases item.newName with
  | none => simpa using access
  | some newName =>
    exact Fragment.tidy_between (by decide) access (Fragment.tidy_name newName)

theorem Projection.tidy_fragment {ρ : Type} (projection : Projection) :
    Tidy allowed (projection.fragment : Fragment ρ) := by
  cases projection with
  | names given => exact Fragment.tidy_names (by decide) given
  | items given =>
    exact Fragment.tidy_joined (by decide) fun item _ => ProjectionItem.tidy_fragment item

theorem SortItem.tidy_fragment {ρ : Type} (item : SortItem) :
    Tidy allowed (item.fragment : Fragment ρ) := by
  have access : Tidy allowed (propertyAccess item.identifier item.property : Fragment ρ) :=
    propertyAccess_tidy item.identifier item.property
  rw [SortItem.fragment]
  split
  · exact Fragment.tidy_append_trails access (Fragment.trails_fixed (by decide) (by decide))
  · exact Fragment.tidy_append_trails access (Fragment.trails_fixed (by decide) (by decide))
  · simpa using access

theorem Assignment.yields_ask {assignment : Assignment}
    (raw : ∀ text ∈ assignment.properties.rawTexts, allowed text) :
    Yields (Tidy allowed) assignment.ask := by
  have owner (given : String) : Tidy allowed
      ([.name assignment.identifier, .fixed "."] ++ [.name given] : Fragment Ref) :=
    Fragment.tidy_between (by decide) (Fragment.tidy_name _) (Fragment.tidy_name given)
  refine yields_bind (Properties.yields_ask raw (by decide) owner) fun parts each => ?_
  exact yields_pure (Fragment.tidy_joinedBy (by decide) each)

theorem Unwinding.yields_ask {source : Unwinding}
    (raw : ∀ text ∈ source.rawTexts, allowed text) :
    Yields (Fragment.PieceTidy allowed) source.ask := by
  cases source with
  | expression text => exact yields_pure (raw text (List.mem_singleton_self text))
  | values items => exact yields_bind (yields_true _) fun _ _ => yields_pure trivial

theorem Where.tidy_clause {ρ : Type} {condition : Where ρ} (sound : condition.Sound allowed) :
    Tidy allowed condition.clause := by
  rw [Where.clause]
  split
  · exact trivial
  · exact Keyword.tidy_before _ (Where.tidy_expression sound)

theorem BoundOperand.rawTexts_map {ρ σ : Type} (f : ρ → σ) (operand : BoundOperand ρ) :
    (operand.map f).rawTexts = operand.rawTexts := by
  cases operand <;> rfl

theorem Where.sound_map {ρ σ : Type} (f : ρ → σ) {condition : Where ρ}
    (raw : ∀ text ∈ condition.rawTexts, allowed text) : (condition.map f).Sound allowed := by
  rw [Where.rawTexts, List.forall_mem_flatMap] at raw
  intro comparison member
  obtain ⟨before, there, rfl⟩ := List.mem_map.mp member
  rw [Comparison.map, BoundOperand.rawTexts_map]
  exact raw before there

/-- What is written in a body is tidy when its clauses are. -/
theorem Clause.yields_askBody {body : Body Clause}
    (genuine : ∀ entry ∈ body.written, Rendered entry)
    (each : ∀ inner ∈ Query.clauses body, Yields (Tidy allowed) inner.ask) :
    Yields (Fragment.PieceTidy allowed) (Clause.askBody body) := by
  obtain ⟨written, pending, allocator⟩ := body
  have later := yields_askAll fun inner member => each inner (List.mem_append_right _ member)
  rw [← Clause.askAll_eq] at later
  rw [Clause.askBody]
  refine yields_bind later fun drafted tidy => yields_pure (Fragment.allTidy_iff.mpr ?_)
  intro fragment member
  rcases List.mem_append.mp member with first | last
  · obtain ⟨entry, there, rfl⟩ := List.mem_map.mp first
    obtain ⟨asked, names, same⟩ := genuine entry there
    rw [same]
    refine Fragment.tidy_map _ (Fragment.tidy_map _ (each entry.1 ?_ asked))
    exact List.mem_append_left _ (List.mem_map_of_mem there)
  · exact tidy fragment last

theorem Clause.yields_ask_of_plain {clause : Clause} (plain : clause.body? = none)
    (raw : ∀ text ∈ clause.rawTexts, allowed text) : Yields (Tidy allowed) clause.ask := by
  cases clause with
  | spliced keyword text =>
    have tidy := Fragment.tidy_raw (ρ := Ref) (raw text (by simp [Clause.rawTexts]))
    exact yields_pure (Keyword.tidy_before keyword tidy)
  | raw text => exact yields_pure (Fragment.tidy_raw (raw text (by simp [Clause.rawTexts])))
  | pattern use shape =>
    refine yields_bind (Pattern.yields_ask (by simpa [Clause.rawTexts] using raw))
      fun drafted sound => ?_
    exact yields_pure (Fragment.tidy_append_trails (Keyword.tidy_before _ sound.text)
      (hoistedPart_trails sound.hoisted))
  | assign moment assignment =>
    refine yields_bind (Assignment.yields_ask (by simpa [Clause.rawTexts] using raw))
      fun parts tidy => ?_
    exact yields_pure (Keyword.tidy_before _ tidy)
  | remove removal => exact yields_pure (Keyword.tidy_before _ removal.tidy_fragment)
  | delete detach deletion =>
    have tidy : Tidy allowed (Keyword.delete.before deletion.fragment : Fragment Ref) :=
      Keyword.tidy_before _ (Deletion.tidy_fragment (by simpa [Clause.rawTexts] using raw))
    rw [Clause.ask]
    refine yields_pure ?_
    split
    · exact Fragment.tidy_fixed_cons (by decide) (by decide) tidy
    · exact tidy
  | project stage distinct projection =>
    exact yields_pure (Keyword.tidy_before _ projection.tidy_fragment)
  | sort items =>
    refine yields_pure (Keyword.tidy_before _ ?_)
    exact Fragment.tidy_joined (by decide) fun item _ => item.tidy_fragment
  | unwind source newName =>
    refine yields_bind (Unwinding.yields_ask (by simpa [Clause.rawTexts] using raw))
      fun list tidy => ?_
    exact yields_pure (Keyword.tidy_before _ (Fragment.tidy_between (by decide)
      (Fragment.tidy_single tidy) (Fragment.tidy_name newName)))
  | page part count =>
    refine yields_bind (yields_true _) fun ref _ => ?_
    exact yields_pure (Keyword.tidy_before _ (Fragment.tidy_single trivial))
  | restrict criteria =>
    refine yields_bind (Criteria.yields_ask (by simpa [Clause.rawTexts] using raw))
      fun condition sound => ?_
    exact yields_pure (Where.tidy_clause sound)
  | restrictBound condition =>
    -- its names were granted before this statement, and any name is tidy
    have sound := Where.sound_map Ref.granted (by simpa [Clause.rawTexts] using raw)
    exact yields_pure (Where.tidy_clause sound)
  | forEach item list body => cases plain
  | call body => cases plain

/-- Clauses are written tidily, whatever their names are. -/
theorem Clause.yields_ask {clause : Clause} (genuine : clause.Genuine)
    (raw : ∀ text ∈ clause.rawTexts, allowed text) : Yields (Tidy allowed) clause.ask := by
  induction clause using Clause.induction with
  | plain clause noBody => exact Clause.yields_ask_of_plain noBody raw
  | nested clause body nested ih =>
    obtain ⟨rendered, inside⟩ := genuine.inside nested
    have written : Yields (Fragment.PieceTidy allowed) (Clause.askBody body) := by
      refine Clause.yields_askBody rendered fun inner member =>
        ih inner member (inside inner member) fun text there => raw text ?_
      exact Clause.rawTexts_of_body? nested member there
    cases clause with
    | forEach item list loop =>
      obtain rfl := Option.some.inj nested
      refine yields_bind written fun inner tidy => yields_pure (Keyword.tidy_before _ ?_)
      have list := Fragment.tidy_raw (ρ := Ref) (raw list (by simp [Clause.rawTexts]))
      exact Fragment.tidy_fixed_cons (by decide) (by decide)
        (Fragment.tidy_between (by decide) (Fragment.tidy_name item)
          (Fragment.tidy_between (by decide) list
            (Fragment.tidy_between (by decide) (Fragment.tidy_single tidy) trivial)))
    | call called =>
      obtain rfl := Option.some.inj nested
      refine yields_bind written fun inner tidy => yields_pure (Keyword.tidy_before _ ?_)
      exact Fragment.tidy_around (by decide) (by decide) (Fragment.tidy_single tidy)
    | _ => cases nested

/-- The fragments of a query are tidy, whatever the names in it are. -/
theorem Query.Genuine.tidy {query : Query} (genuine : query.Genuine)
    (raw : ∀ text ∈ Clause.rawTextsBody query, allowed text) :
    Fragment.AllTidy allowed query.fragments := by
  rw [Clause.rawTextsBody_eq, List.forall_mem_flatMap] at raw
  refine Fragment.allTidy_iff.mpr fun fragment member => ?_
  obtain ⟨entry, there, rfl⟩ := List.mem_map.mp member
  obtain ⟨asked, names, same⟩ := genuine.written entry there
  have clause : entry.1 ∈ query.clauses := List.mem_append_left _ (List.mem_map_of_mem there)
  rw [same]
  exact Fragment.tidy_map _ (Clause.yields_ask (genuine.clauses _ clause) (raw _ clause) asked)

end Cypher
