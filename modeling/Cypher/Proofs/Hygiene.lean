import Cypher.Proofs.PlacedConditions
import Cypher.Proofs.ReferenceReading

/-!
# Identifiers that nobody gave

An element of a pattern that has conditions but no identifier is given a reserved
name. The names of a statement are different from each other and from its
parameters. They are not compared with the identifiers of the caller: those are
different from them because of their form, unless one of them has that form.
-/

namespace Cypher

/-! ## The elements of a statement -/

mutual

/-- The fragment of a clause has these elements, at any depth, in the order in which they are
written. What is written in a body already is left out. -/
def Clause.Laid : Clause → Fragment String → List Placement → Prop
  | .pattern use shape, fragment, placements =>
      fragment = use.fragment shape placements ∧
        placements.map Placement.element = shape.elements
  | .forEach _ _ body, fragment, placements =>
      ∃ inner ∈ fragment, Clause.LaidBody body inner placements
  | .call body, fragment, placements => ∃ inner ∈ fragment, Clause.LaidBody body inner placements
  | _, _, placements => placements = []

def Clause.LaidBody : Body Clause → Piece String → List Placement → Prop
  | ⟨written, pending, _⟩, piece, placements => ∃ fragments,
      piece = .body (written.map Prod.snd ++ fragments) ∧ Clause.LaidAll pending fragments placements

def Clause.LaidAll : List Clause → List (Fragment String) → List Placement → Prop
  | [], fragments, placements => fragments = [] ∧ placements = []
  | clause :: rest, fragments, placements => ∃ fragment more first others,
      fragments = fragment :: more ∧ placements = first ++ others ∧
        clause.Laid fragment first ∧ Clause.LaidAll rest more others

end

mutual

/-- The identifiers that a clause is given for elements of patterns and for conditions, at any
depth. -/
def Clause.identifiers : Clause → List String
  | .pattern _ shape => shape.elements.filterMap PathElement.identifier?
  | .restrict criteria => criteria.names
  | .forEach _ _ body => Clause.identifiersBody body
  | .call body => Clause.identifiersBody body
  | _ => []

def Clause.identifiersBody : Body Clause → List String
  | ⟨_, pending, _⟩ => Clause.identifiersAll pending

def Clause.identifiersAll : List Clause → List String
  | [] => []
  | clause :: rest => clause.identifiers ++ Clause.identifiersAll rest

end

/-- What is rendered are elements, all of them complete, and their names are what it reserves. -/
def Clause.LaidOut (laid : List Placement → Prop) (after : Allocator) (names : List String) : Prop :=
  ∃ placements, laid placements ∧ names = placements.flatMap Placement.names ∧
    ∀ placement ∈ placements, placement.Complete after

namespace Clause

theorem LaidOut.keeps {laid laid' : List Placement → Prop} {before after : Allocator}
    {names : List String} (out : LaidOut laid before names) (keeps : before.Keeps after)
    (more : ∀ placements, laid placements → laid' placements) : LaidOut laid' after names := by
  obtain ⟨placements, here, same, all⟩ := out
  exact ⟨placements, more placements here, same, fun one member => (all one member).keeps keeps⟩

/-- A clause that reserves nothing has no elements. -/
theorem makes_laid_of_quiet {start : Allocator} {clause : Clause} {home : AllocatorId}
    (quiet : Quiet (clause.render home)) (bare : ∀ fragment, clause.Laid fragment []) :
    Makes start (fun after names fragment => LaidOut (clause.Laid fragment) after names)
      (clause.render home) := by
  intro allocator fragment after _ ran
  obtain ⟨keeps, same⟩ := quiet allocator fragment after ran
  refine ⟨keeps, [], ?_, [], bare fragment, rfl, List.forall_mem_nil _⟩
  rw [same, List.append_nil]

mutual

theorem makes_laid {start : Allocator} (home : AllocatorId) (clause : Clause) :
    Makes start (fun after names fragment => LaidOut (clause.Laid fragment) after names)
      (clause.render home) := by
  cases clause with
  | pattern use shape =>
    intro allocator fragment after kept ran
    obtain ⟨keeps, names, reserved, placements, same, own, elements, all⟩ :=
      makes_pattern home use shape allocator fragment after kept ran
    exact ⟨keeps, names, reserved, placements, ⟨same, elements⟩, own, all⟩
  | forEach item list body =>
    refine makes_check fun _ => makes_check fun _ => ?_
    refine makes_bind (makes_laidBody home _ body) fun _ names inner _ out => ?_
    refine makes_pure fun later keeps => ?_
    rw [List.append_nil]
    exact out.keeps keeps fun placements laid => ⟨inner, by simp [Keyword.before], laid⟩
  | call body =>
    refine makes_bind (makes_laidBody home _ body) fun _ names inner _ out => ?_
    refine makes_pure fun later keeps => ?_
    rw [List.append_nil]
    exact out.keeps keeps fun placements laid => ⟨inner, by simp [Keyword.before], laid⟩
  | _ => exact makes_laid_of_quiet (quiet_render rfl (by rintro _ _ ⟨⟩) home) fun _ => rfl

theorem makes_laidBody {start : Allocator} (home : AllocatorId) (key : String)
    (body : Body Clause) :
    Makes start (fun after names piece => LaidOut (LaidBody body piece) after names)
      (renderBody home key body) := by
  obtain ⟨written, pending, own⟩ := body
  refine makes_check fun _ => ?_
  refine makes_bind (makes_laidAll own pending) fun _ names fragments _ out => ?_
  refine makes_pure fun later keeps => ?_
  rw [List.append_nil]
  exact out.keeps keeps fun placements laid => ⟨fragments, rfl, laid⟩

theorem makes_laidAll {start : Allocator} (home : AllocatorId) (clauses : List Clause) :
    Makes start (fun after names fragments => LaidOut (LaidAll clauses fragments) after names)
      (renderAll home clauses) := by
  cases clauses with
  | nil => exact makes_pure fun _ _ => ⟨[], ⟨rfl, rfl⟩, rfl, List.forall_mem_nil _⟩
  | cons clause rest =>
    refine makes_bind (makes_laid home clause) fun _ names fragment _ out => ?_
    refine makes_bind (makes_laidAll home rest) fun _ others fragments kept out' => ?_
    refine makes_pure fun later keeps => ?_
    obtain ⟨first, here, rfl, all⟩ := out
    obtain ⟨more, there, rfl, all'⟩ := out'
    refine ⟨first ++ more, ⟨fragment, fragments, first, more, rfl, rfl, here, there⟩, ?_, ?_⟩
    · rw [List.append_nil, List.flatMap_append]
    · intro one member
      rcases List.mem_append.mp member with member | member
      · exact (all one member).keeps (kept.trans keeps)
      · exact (all' one member).keeps keeps

end

end Clause

/-! ## Names and their forms -/

/-- The form of the names that are reserved: what is asked for, with suffixes behind it. -/
def IsReserved (stem : String) (name : List Char) : Prop :=
  ∃ count, name = (stem ++ Allocator.suffixes count).toList

/-- The variable that a subject stands for in a statement. -/
def Subject.denoted : Subject String → List Char
  | given name => Name.read name.toList
  | synthesized name => Name.read name.toList

namespace Placement

/-- The variable that an element is. -/
def denoted? (placement : Placement) : Option (List Char) :=
  placement.filter.subject.map Subject.denoted

/-- The caller has given the element no name of the form of this stem. -/
def Spares (stem : String) (placement : Placement) : Prop :=
  ∀ given, placement.element.identifier? = some given → ¬ IsReserved stem (Name.read given.toList)

/-- If a name was reserved for the element, the other one is another variable, unless the caller has
given that one a name of the same form. -/
def ApartFrom (placement other : Placement) : Prop :=
  placement.names ≠ [] → other.Spares placement.element.stem → placement.denoted? ≠ other.denoted?

/-- The names that were reserved for these elements of the statement make none of them another. -/
structure Hygienic (compiled : Compiled) (placements : List Placement) : Prop where
  distinct : (placements.flatMap names).Nodup
  parameters : ∀ name ∈ placements.flatMap names, name ∉ compiled.parameters.names
  reserved : ∀ placement ∈ placements, ∀ name ∈ placement.names,
    IsReserved placement.element.stem name.toList
  about : ∀ placement ∈ placements, ∀ comparison ∈ placement.hoisted,
    placement.denoted? = some comparison.subject.denoted
  apart : placements.Pairwise fun first second => first.ApartFrom second ∧ second.ApartFrom first

/-- A reserved name is none that the caller gives anywhere, unless that has the form itself. -/
theorem Hygienic.callers {compiled : Compiled} {placements : List Placement}
    (hygienic : Hygienic compiled placements) {placement : Placement}
    (member : placement ∈ placements) {name given : String} (reserved : name ∈ placement.names)
    (other : ¬ IsReserved placement.element.stem (Name.read given.toList)) :
    Name.read given.toList ≠ name.toList := by
  intro same
  rw [same] at other
  exact other (hygienic.reserved placement member name reserved)

end Placement

theorem IsReserved.head? {element : PathElement} {name : List Char}
    (reserved : IsReserved element.stem name) : name.head? = some '_' := by
  obtain ⟨count, rfl⟩ := reserved
  rw [String.toList_append, List.head?_append]
  cases element with
  | node node => exact (rfl : nodeIdentifier.toList.head?.or _ = some '_')
  | relationship relationship => exact (rfl : relationshipIdentifier.toList.head?.or _ = some '_')

/-- A reserved name is no quoted form. -/
theorem IsReserved.read {element : PathElement} {name : List Char}
    (reserved : IsReserved element.stem name) : Name.read name = name := by
  rw [Name.read_eq_self_iff]
  have first := reserved.head?
  cases name with
  | nil => cases first
  | cons c rest =>
    obtain rfl := Option.some.inj first
    rfl

/-- An element has a reserved name, or is what the caller said. -/
theorem Placement.Complete.cases {after : Allocator} {placement : Placement}
    (complete : placement.Complete after) :
    (∃ name : String, IsReserved placement.element.stem name.toList ∧ placement.names = [name] ∧
        placement.denoted? = some name.toList) ∨
      placement.names = [] ∧ ∀ name, placement.denoted? = some name →
        ∃ given, placement.element.identifier? = some given ∧ name = Name.read given.toList := by
  obtain ⟨element, filter⟩ := placement
  unfold Placement.names FilterText.names Placement.denoted?
  cases own : element.identifier? with
  | some given =>
    have subject := complete.named given own
    dsimp only at subject
    rw [subject]
    refine .inr ⟨rfl, fun name same => ⟨given, rfl, ?_⟩⟩
    exact (Option.some.inj same).symm
  | none =>
    have nameless := complete.nameless own
    dsimp only at nameless
    split at nameless
    · rw [nameless]
      exact .inr ⟨rfl, nofun⟩
    · obtain ⟨count, subject⟩ := nameless
      have reserved : IsReserved element.stem (element.stem ++ Allocator.suffixes count).toList :=
        ⟨count, rfl⟩
      rw [subject]
      refine .inl ⟨_, reserved, rfl, ?_⟩
      rw [Option.map_some, Subject.denoted, reserved.read]

/-- The name that an element is given has the form of its stem. -/
theorem Placement.Complete.isReserved {after : Allocator} {placement : Placement}
    (complete : placement.Complete after) :
    ∀ name ∈ placement.names, IsReserved placement.element.stem name.toList := by
  intro name member
  rcases complete.cases with ⟨own, form, names, _⟩ | ⟨names, _⟩
  · rw [names, List.mem_singleton] at member
    rwa [member]
  · rw [names] at member
    cases member

/-- Elements for which different names were reserved are different variables. -/
theorem Placement.apartFrom_of_disjoint {after : Allocator} {placement other : Placement}
    (complete : placement.Complete after) (complete' : other.Complete after)
    (different : placement.names.Disjoint other.names) : placement.ApartFrom other := by
  intro named spared same
  rcases complete.cases with ⟨name, form, names, own⟩ | ⟨names, _⟩
  · rcases complete'.cases with ⟨name', _, names', own'⟩ | ⟨_, given'⟩
    · -- both names were reserved, and no name is reserved twice
      rw [names, names'] at different
      rw [own, own'] at same
      obtain rfl := String.toList_injective (Option.some.inj same)
      exact different (List.mem_singleton_self name) (List.mem_singleton_self name)
    · -- a reserved name that the caller gave would have the form
      obtain ⟨caller, gave, read⟩ := given' _ (same.symm.trans own)
      exact spared caller gave (read ▸ form)
  · exact named names

/-- Names that are taken once, behind the parameters, are hygienic. -/
theorem Placement.hygienic_of_nodup {after : Allocator} {text : String}
    {placements : List Placement} (complete : ∀ placement ∈ placements, placement.Complete after)
    (once : (after.parameters.names ++ placements.flatMap Placement.names).Nodup) :
    Placement.Hygienic ⟨text, after.parameters⟩ placements := by
  obtain ⟨_, distinct, disjoint⟩ := List.nodup_append'.mp once
  refine ⟨distinct, ?_, fun placement member => (complete placement member).isReserved, ?_, ?_⟩
  · exact fun name member parameter => disjoint parameter member
  · intro placement member comparison among
    exact congrArg (Option.map Subject.denoted) ((complete placement member).about comparison among)
  · refine (List.nodup_flatMap.mp distinct).2.imp_of_mem ?_
    intro first second member member' different
    exact ⟨apartFrom_of_disjoint (complete first member) (complete second member') different,
      apartFrom_of_disjoint (complete second member') (complete first member)
        (List.disjoint_symm different)⟩

theorem Allocator.nodup_taken_grantAll {allocator : Allocator} (distinct : allocator.taken.Nodup)
    (requests : List Request) : (allocator.grantAll requests).2.taken.Nodup := by
  induction requests generalizing allocator with
  | nil => exact distinct
  | cons request rest ih =>
    refine ih ?_
    cases request with
    | parameter name value => exact nodup_taken_call distinct (.bind name value)
    | identifier name => exact nodup_taken_call distinct (.reserve name)

/-! ## Compiled payloads -/

/-- The elements of a statement are laid out, and no name is taken twice. -/
theorem Query.write_laidOut {clauses : List Clause} {home : AllocatorId} {done : Query}
    {after : Allocator} (written : Query.write ⟨[], clauses, home⟩ .empty = .ok (done, after)) :
    after.taken.Nodup ∧
      Clause.LaidOut (Clause.LaidAll clauses done.fragments) after after.reserved := by
  obtain ⟨fragments, ran, same⟩ := Query.rendered_of_write written
  obtain ⟨_, names, reserved, out⟩ :=
    Clause.makes_laidAll home clauses .empty fragments after (.refl .empty) ran
  have once : after.taken.Nodup := by
    have none : Allocator.empty.taken.Nodup := List.nodup_nil
    obtain ⟨_, _, rfl⟩ := Query.write_eq_ok written
    exact Allocator.nodup_taken_grantAll none _
  rw [same, reserved]
  exact ⟨once, out⟩

/-- The names that a compiled payload gives to elements of its patterns have the form of their stem.
They differ from each other, from all parameters, and so from every identifier of the caller that
has not the form itself (`Placement.Hygienic.callers`). What an element hands on is about its own
variable. An element with such a name is a variable apart from every other element, unless the
caller has given that one a name of the same form. -/
theorem compile_hygienic {payload : Json} {clauses : List Clause} {compiled : Compiled}
    (read : Payload.readClauses soleAllocator payload = .ok clauses)
    (done : compile payload = .ok compiled) :
    ∃ (query : Query) (after : Allocator) (placements : List Placement),
      Query.write ⟨[], clauses, soleAllocator⟩ .empty = .ok (query, after) ∧
        compiled = ⟨query.text, after.parameters⟩ ∧
        Clause.LaidAll clauses query.fragments placements ∧
        (∀ placement ∈ placements, placement.Complete after) ∧
        Placement.Hygienic compiled placements := by
  obtain ⟨query, after, written, rfl⟩ := exists_write_of_compile read done
  obtain ⟨once, placements, laid, own, complete⟩ := Query.write_laidOut written
  refine ⟨query, after, placements, written, rfl, laid, complete, ?_⟩
  rw [Allocator.taken, own] at once
  exact Placement.hygienic_of_nodup complete once

/-- Two nodes without names, around one with a name. -/
def twoStrangers : Json :=
  .object [("match", .object [("multiple", .array [
    .object [("where", .object [("age", .object [("gt", .string "x")])])],
    .object [("identifier", .string "n")],
    .object [("where", .object [("age", .object [("lt", .string "y")])])]])])]

theorem compile_hygienic_twoStrangers :
    ∃ (compiled : Compiled) (clauses : List Clause) (placements : List Placement),
      compile twoStrangers = .ok compiled ∧ compiled.statement =
          "MATCH (__n), (n), (__n__aaaa) WHERE __n.age > $age AND __n__aaaa.age < $age__aaaa" ∧
        Payload.readClauses soleAllocator twoStrangers = .ok clauses ∧
        Placement.Hygienic compiled placements ∧
        ∀ placement ∈ placements, ∀ name ∈ placement.names, "n".toList ≠ name.toList := by
  have stated : (compile twoStrangers).toOption.map (fun done => done.statement) = some
      "MATCH (__n), (n), (__n__aaaa) WHERE __n.age > $age AND __n__aaaa.age < $age__aaaa" := by
    decide +kernel
  have read : Payload.readClauses soleAllocator twoStrangers =
      .ok ((Payload.readClauses soleAllocator twoStrangers).toOption.getD []) := rfl
  cases done : compile twoStrangers with
  | error error =>
    rw [done] at stated
    cases stated
  | ok compiled =>
    rw [done] at stated
    obtain ⟨_, _, placements, _, _, _, _, hygienic⟩ := compile_hygienic read done
    have other (element : PathElement) : ¬ IsReserved element.stem (Name.read "n".toList) :=
      fun reserved => absurd reserved.head? (by decide)
    exact ⟨compiled, _, placements, rfl, Option.some.inj stated, read, hygienic,
      fun placement member name reserved => hygienic.callers member reserved (other _)⟩

/-- A node without a name, behind one with the name that it would get. -/
def sharedIdentifier : Json :=
  .object [("match", .object [("multiple", .array [
    .object [("identifier", .string "__n")],
    .object [("where", .object [("age", .object [("gt", .string "x")])])]])])]

/-- The two nodes, with what they become. -/
def sharedNodes : List Placement :=
  let older : Conditions := .ofList [("age", .operators [(.gt, .value (.string "x"))])]
  [⟨.node (.pattern ⟨some "__n", none, .nothing⟩), ⟨some (.given "__n"), [], .empty⟩⟩,
    ⟨.node (.pattern ⟨none, none, .conditions older⟩),
      ⟨some (.synthesized "__n"), [], ⟨[⟨.synthesized "__n", "age", .gt, .parameter "age"⟩]⟩⟩⟩]

/-- They are one variable: the name of the one is an identifier that the caller gave. -/
theorem compile_sharedIdentifier :
    ∃ (clauses : List Clause) (query : Query) (after : Allocator),
      Payload.readClauses soleAllocator sharedIdentifier = .ok clauses ∧
        Query.write ⟨[], clauses, soleAllocator⟩ .empty = .ok (query, after) ∧
        compile sharedIdentifier = .ok ⟨query.text, after.parameters⟩ ∧
        query.text = "MATCH (__n), (__n) WHERE __n.age > $age" ∧
        Clause.LaidAll clauses query.fragments sharedNodes ∧
        "__n" ∈ Clause.identifiersAll clauses ∧
        "__n" ∈ sharedNodes.flatMap Placement.names ∧
        ¬ sharedNodes.Pairwise fun first second => first.denoted? ≠ second.denoted? := by
  refine ⟨_, _, _, rfl, rfl, rfl, ?_, ?_, ?_, ?_, ?_⟩
  · decide +kernel
  · -- there is one fragment, with both nodes
    refine ⟨_, [], sharedNodes, [], ?_, rfl, ⟨rfl, rfl⟩, rfl, rfl⟩
    with_unfolding_all rfl
  · decide +kernel
  · decide +kernel
  · simp [sharedNodes, Placement.denoted?, Subject.denoted]

end Cypher
