import Cypher.Proofs.Atomicity
import Cypher.Proofs.HopRanges
import Cypher.Proofs.AllocatorRuns
import Cypher.Proofs.ClauseObjects

/-!
# Counts are exact

The count of a page and the bounds of a range of hops are natural numbers, and
each has its own limit: a page is bound as an integer of 64 bits with a sign, a
bound of hops has 32 bits. The limits stand at different places, that of a page
partly where payloads are read and partly where clauses are written. Whatever
number a payload gives, it is refused or it arrives as its numeral says.
-/

namespace Cypher

open Decimal (numeral)
open Json.Numeral (Denotes)

namespace Payload

/-- Reads a payload and renders its clauses in place. -/
def render (home : AllocatorId) (payload : Json) : Rendering (List (Fragment String)) := do
  Clause.renderAll home (← demand (readClauses home payload))

/-! ## Pages -/

section Pages

variable {home : AllocatorId} {payload : Json} {allocator after : Allocator}

theorem render_of_read_error {error : Error} (read : readClauses home payload = .error error) :
    (render home payload).run allocator = .error error allocator := by
  rw [render, read]
  rfl

theorem render_of_read {clause : Clause} (read : readClauses home payload = .ok [clause]) :
    (render home payload).run allocator = match (clause.render home).run allocator with
      | .ok fragment after => .ok [fragment] after
      | .error error after => .error error after := by
  rw [render, read]
  show (Clause.renderAll home [clause]).run allocator = _
  rw [Clause.renderAll, EStateM.run_bind]
  cases (clause.render home).run allocator <;> rfl

/-- A payload that skips or keeps so many rows. -/
def pagePayload (part : Page) (number : Number) : Json :=
  .object [(part.keyword.key, .number number)]

theorem readClauses_page (home : AllocatorId) (part : Page) (number : Number) :
    readClauses home (pagePayload part number) =
      (readPage part (.number number)).map fun clause => [clause] := by
  have known : ClauseKind.ofKey? (ClauseKind.page part).key = some (.page part) :=
    ClauseKind.ofKey?_key _ (by cases part <;> decide)
  show readClauseObject home [((ClauseKind.page part).key, _)] >>= _ = _
  rw [readClauseObject_singleton known]
  rfl

/-- A count is written when it fits 64 bits with a sign. -/
theorem run_page (home : AllocatorId) (part : Page) (count : Nat) (allocator : Allocator) :
    ((Clause.page part count).render home).run allocator =
      if count < 2 ^ 63 then
        .ok (part.keyword.before [.parameter (allocator.freshName part.keyword.key)])
          (allocator.bind part.keyword.key (.int (Int64.ofNat count))).2
      else
        .error (.shape part.keyword.key .signedCount (.json (.number (.integer count))))
          allocator := by
  rw [Clause.render, EStateM.run_bind, Page.check, show (1 <<< 63 : Nat) = 2 ^ 63 from rfl]
  by_cases fits : count < 2 ^ 63
  · rw [if_pos fits, if_pos fits]
    rfl
  · rw [if_neg fits, if_neg fits]
    rfl

variable {text : List Char} {number : Number}

theorem readPage_numeral (denotes : Denotes text number) (part : Page) {count : Nat}
    (spelled : text = numeral count) (fits : count < 2 ^ 64) :
    readPage part (.number number) = .ok (.page part count) := by
  rw [readPage, denotes.natural?_eq_some_iff.mpr ⟨spelled, fits⟩]

theorem readPage_other (denotes : Denotes text number) (part : Page)
    (other : ∀ count < 2 ^ 64, text ≠ numeral count) :
    readPage part (.number number) =
      .error (unexpected part.keyword.key .natural (.number number)) := by
  have none : number.natural? = none := by
    cases natural : number.natural? with
    | none => rfl
    | some count =>
      obtain ⟨spelled, fits⟩ := denotes.natural?_eq_some_iff.mp natural
      exact absurd spelled (other count fits)
  rw [readPage, none]

/-- Of the numbers that a page is given, those below `2 ^ 63` that are written with digits alone
are bound as they are, under a name that is new. Larger ones are refused where the clause is
written, and all others where the payload is read. -/
theorem render_page (denotes : Denotes text number) (part : Page) (home : AllocatorId)
    (allocator : Allocator) :
    (∀ count < 2 ^ 63, text = numeral count →
      readClauses home (pagePayload part number) = .ok [.page part count] ∧
      (render home (pagePayload part number)).run allocator =
        .ok [part.keyword.before [.parameter (allocator.freshName part.keyword.key)]]
          (allocator.bind part.keyword.key (.int (Int64.ofNat count))).2) ∧
    (∀ count, 2 ^ 63 ≤ count → count < 2 ^ 64 → text = numeral count →
      readClauses home (pagePayload part number) = .ok [.page part count] ∧
      (render home (pagePayload part number)).run allocator =
        .error (.shape part.keyword.key .signedCount (.json (.number (.integer count))))
          allocator) ∧
    ((∀ count < 2 ^ 64, text ≠ numeral count) →
      readClauses home (pagePayload part number) =
        .error (unexpected part.keyword.key .natural (.number number)) ∧
      (render home (pagePayload part number)).run allocator =
        .error (unexpected part.keyword.key .natural (.number number)) allocator) := by
  have read (count : Nat) (fits : count < 2 ^ 64) (spelled : text = numeral count) :
      readClauses home (pagePayload part number) = .ok [.page part count] := by
    rw [readClauses_page, readPage_numeral denotes part spelled fits]
    rfl
  refine ⟨fun count fits spelled => ?_, fun count large fits spelled => ?_, fun other => ?_⟩
  · have clauses := read count (by omega) spelled
    refine ⟨clauses, ?_⟩
    rw [render_of_read clauses, run_page, if_pos fits]
  · have clauses := read count fits spelled
    refine ⟨clauses, ?_⟩
    rw [render_of_read clauses, run_page, if_neg (by omega)]
  · have refused : readClauses home (pagePayload part number) =
        .error (unexpected part.keyword.key .natural (.number number)) := by
      rw [readClauses_page, readPage_other denotes part other]
      rfl
    exact ⟨refused, render_of_read_error refused⟩

/-- Nothing else is rendered. -/
theorem render_page_iff (denotes : Denotes text number) (part : Page) (home : AllocatorId)
    (allocator : Allocator) :
    (∃ fragments after, (render home (pagePayload part number)).run allocator =
      .ok fragments after) ↔ ∃ count < 2 ^ 63, text = numeral count := by
  obtain ⟨small, large, other⟩ := render_page denotes part home allocator
  constructor
  · rintro ⟨fragments, after, ran⟩
    by_contra absent
    by_cases unsigned : ∃ count < 2 ^ 64, text = numeral count
    · obtain ⟨count, fits, spelled⟩ := unsigned
      have least : 2 ^ 63 ≤ count := Nat.le_of_not_lt fun fits => absent ⟨count, fits, spelled⟩
      rw [(large count least fits spelled).2] at ran
      cases ran
    · rw [(other fun count fits spelled => unsigned ⟨count, fits, spelled⟩).2] at ran
      cases ran
  · rintro ⟨count, fits, spelled⟩
    exact ⟨_, _, (small count fits spelled).2⟩

end Pages

/-! ## Hops -/

/-- One of the two bounds of a range of hops. -/
inductive HopSide
  | least
  | most

namespace HopSide

def field : HopSide → String
  | least => "minHops"
  | most => "maxHops"

/-- The range with this bound alone. -/
def hops : HopSide → HopBound → Hops
  | least, bound => ⟨some bound, none⟩
  | most, bound => ⟨none, some bound⟩

/-- The segment of that range, given the numeral of the bound. -/
def segment : HopSide → List Char → List Char
  | least, numeral => '*' :: numeral ++ ['.', '.']
  | most, numeral => ['*', '.', '.'] ++ numeral

theorem segment_hops (side : HopSide) (count : Nat) :
    (side.hops (.finite count)).segment = side.segment (numeral count) := by
  cases side <;> rfl

/-- A range with one bound is never empty. -/
theorem check_hops (side : HopSide) (bound : HopBound) : (side.hops bound).check = .ok () := by
  cases side <;> cases bound <;> rfl

end HopSide

/-- A relationship without bounds. -/
def Unbounded (fields : Fields) : Prop := ∀ side : HopSide, fields.get? side.field = none

section Hops

variable {key : String} {front back : Fields} {shape : RelationshipPattern}

/-- The types of a relationship. -/
def readTypes (fields : Fields) : Except Error (List String) := do
  match ← fields.strings? "name" with
  | some names => someNames "name" names
  | none => pure []

/-- What a relationship is read from, field by field. -/
theorem readRelationship_eq (key : String) (fields : Fields) :
    readRelationship key (.object fields) = (do
      checkFields relationshipFields fields
      let direction ← readDirection fields
      let identifier ← fields.string? "identifier"
      let types ← readTypes fields
      let filter ← readFilter fields
      let min ← fields.read? (readHop "minHops") "minHops"
      let max ← fields.read? (readHop "maxHops") "maxHops"
      return ⟨direction, identifier, types, filter, ⟨min, max⟩⟩) := by
  unfold readRelationship readTypes
  rw [readFields_bind]
  refine bind_congr fun _ => bind_congr fun direction => bind_congr fun identifier => ?_
  rw [bind_assoc]
  refine bind_congr fun names => ?_
  cases names <;> rfl

/-- A field that is put in among others is not seen by those that ask for another. -/
theorem get?_insert {name other : String} (value : Json) (different : other ≠ name) :
    Fields.get? (front ++ (name, value) :: back) other = Fields.get? (front ++ back) other := by
  unfold Fields.get?
  induction front with
  | nil => exact if_neg different.symm
  | cons entry rest ih => rw [List.cons_append, List.cons_append, findNamed?, findNamed?, ih]

theorem get?_inserted {name : String} (value : Json)
    (absent : Fields.get? (front ++ back) name = none) :
    Fields.get? (front ++ (name, value) :: back) name = some value := by
  unfold Fields.get? at absent ⊢
  induction front with
  | nil => exact if_pos rfl
  | cons entry rest ih =>
    rw [List.cons_append, findNamed?] at absent ⊢
    split
    · next same =>
      rw [if_pos same] at absent
      cases absent
    · next different =>
      rw [if_neg different] at absent
      exact ih absent

theorem read?_insert {α : Type} (read : Json → Except Error α) {name other : String} (value : Json)
    (different : other ≠ name) :
    Fields.read? read (front ++ (name, value) :: back) other =
      Fields.read? read (front ++ back) other := by
  rw [Fields.read?, get?_insert value different]
  rfl

theorem readFilter_insert {name : String} (value : Json) (first : "where" ≠ name)
    (second : "properties" ≠ name) :
    readFilter (front ++ (name, value) :: back) = readFilter (front ++ back) := by
  simp only [readFilter, Fields.notBoth, Fields.has, get?_insert value first,
    get?_insert value second]
  rfl

/-- The bounds of a relationship that had none. -/
theorem readBounds_insert (side : HopSide) (value : Json)
    (absent : Unbounded (front ++ back))
    (make : Option HopBound → Option HopBound → RelationshipPattern) :
    (do
      let min ← Fields.read? (readHop "minHops") (front ++ (side.field, value) :: back) "minHops"
      let max ← Fields.read? (readHop "maxHops") (front ++ (side.field, value) :: back) "maxHops"
      return make min max) =
      (readHop side.field value).map fun bound =>
        make (side.hops bound).min (side.hops bound).max := by
  have here : Fields.read? (readHop side.field) (front ++ (side.field, value) :: back) side.field =
      (readHop side.field value).map some := by
    rw [Fields.read?, get?_inserted value (absent side)]
  have none (other : HopSide) (different : other.field ≠ side.field) :
      Fields.read? (readHop other.field) (front ++ (side.field, value) :: back) other.field =
        .ok none := by
    rw [read?_insert _ value different, Fields.read?, absent other]
  cases side with
  | least =>
    have second := none .most (by decide)
    simp only [HopSide.field] at here second ⊢
    rw [here, second]
    cases readHop "minHops" value <;> rfl
  | most =>
    have first := none .least (by decide)
    simp only [HopSide.field] at here first ⊢
    rw [here, first]
    cases readHop "maxHops" value <;> rfl

theorem read?_of_unbounded {fields : Fields} (absent : Unbounded fields) (side : HopSide) :
    fields.read? (readHop side.field) side.field = .ok none := by
  rw [Fields.read?, absent side]

theorem hops_of_unbounded {fields : Fields} (absent : Unbounded fields)
    (read : readRelationship key (.object fields) = .ok shape) : shape.hops = ⟨none, none⟩ := by
  rw [readRelationship_eq] at read
  obtain ⟨⟨⟩, -, read⟩ := bind_eq_ok read
  obtain ⟨direction, -, read⟩ := bind_eq_ok read
  obtain ⟨identifier, -, read⟩ := bind_eq_ok read
  obtain ⟨types, -, read⟩ := bind_eq_ok read
  obtain ⟨filter, -, read⟩ := bind_eq_ok read
  rw [show fields.read? (readHop "minHops") "minHops" = _ from read?_of_unbounded absent .least,
    show fields.read? (readHop "maxHops") "maxHops" = _ from read?_of_unbounded absent .most]
    at read
  cases read
  rfl

/-- A bound that is put into a relationship without bounds is read, and changes nothing else. -/
theorem readRelationship_insert (side : HopSide) (value : Json) (absent : Unbounded (front ++ back))
    (read : readRelationship key (.object (front ++ back)) = .ok shape) :
    readRelationship key (.object (front ++ (side.field, value) :: back)) =
      (readHop side.field value).map fun bound => { shape with hops := side.hops bound } := by
  have other : "direction" ≠ side.field ∧ "identifier" ≠ side.field ∧ "name" ≠ side.field ∧
      "where" ≠ side.field ∧ "properties" ≠ side.field := by cases side <;> decide
  obtain ⟨notDirection, notIdentifier, notName, notWhere, notProperties⟩ := other
  rw [readRelationship_eq] at read ⊢
  obtain ⟨⟨⟩, checked, read⟩ := bind_eq_ok read
  have allowed :
      checkFields relationshipFields (front ++ (side.field, value) :: back) = .ok () := by
    rw [checkFields_eq_ok] at checked ⊢
    have field : side.field ∈ relationshipFields := by cases side <;> decide
    intro name member
    rw [List.map_append, List.map_cons, List.mem_append, List.mem_cons] at member
    rw [List.map_append] at checked
    rcases member with before | rfl | after
    · exact checked (List.mem_append_left _ before)
    · exact field
    · exact checked (List.mem_append_right _ after)
  obtain ⟨direction, first, read⟩ := bind_eq_ok read
  obtain ⟨identifier, second, read⟩ := bind_eq_ok read
  obtain ⟨types, third, read⟩ := bind_eq_ok read
  obtain ⟨filter, fourth, read⟩ := bind_eq_ok read
  rw [show Fields.read? (readHop "minHops") _ "minHops" = _ from read?_of_unbounded absent .least,
    show Fields.read? (readHop "maxHops") _ "maxHops" = _ from read?_of_unbounded absent .most]
    at read
  cases read
  simp only [allowed, readDirection, Fields.requiredString, readTypes, Fields.string?,
    Fields.strings?, read?_insert _ value notDirection, read?_insert _ value notIdentifier,
    read?_insert _ value notName, readFilter_insert value notWhere notProperties]
    at first second third ⊢
  rw [first, second, third, fourth]
  exact readBounds_insert side value absent
    fun min max => ⟨direction, identifier, types, filter, ⟨min, max⟩⟩

variable {text : List Char} {number : Number}

/-- A bound of hops is a natural number of 32 bits, written with digits alone. -/
theorem readHop_eq_ok (denotes : Denotes text number) {bound : HopBound} :
    readHop key (.number number) = .ok bound ↔
      ∃ count < 2 ^ 32, text = numeral count ∧ bound = .finite count := by
  have size : UInt32.size = 2 ^ 32 := rfl
  rw [readHop]
  constructor
  · intro read
    split at read
    · next count natural =>
      split at read
      · next fits =>
        cases read
        exact ⟨count, size ▸ fits, (denotes.natural?_eq_some_iff.mp natural).1, rfl⟩
      · cases read
    · cases read
  · rintro ⟨count, fits, spelled, rfl⟩
    have large : count < UInt64.size := Nat.lt_trans fits (by decide)
    simp only [denotes.natural?_eq_some_iff.mpr ⟨spelled, large⟩]
    exact if_pos fits

theorem insert_hop_eq_ok (denotes : Denotes text number) (side : HopSide)
    {bounded : RelationshipPattern} :
    (readHop side.field (.number number)).map
        (fun bound => { shape with hops := side.hops bound }) = .ok bounded ↔
      ∃ count < 2 ^ 32, text = numeral count ∧
        bounded = { shape with hops := side.hops (.finite count) } := by
  constructor
  · intro inserted
    obtain ⟨bound, found, rfl⟩ := map_eq_ok inserted
    obtain ⟨count, fits, spelled, rfl⟩ := (readHop_eq_ok denotes).mp found
    exact ⟨count, fits, spelled, rfl⟩
  · rintro ⟨count, fits, spelled, rfl⟩
    rw [(readHop_eq_ok denotes).mpr ⟨count, fits, spelled, rfl⟩]
    rfl

end Hops

/-! ## All counts -/

/-- Whatever number a payload gives as a count, it arrives as it is written or is refused. A page is
rendered just when the number is a natural number below `2 ^ 63` written with digits alone; then it
is the keyword and one new parameter, whose value is that number, behind all other parameters.
Larger numbers of 64 bits are refused by the clause, everything else by the payload, and nothing is
bound. A number as the only bound of a relationship is accepted just when it is a natural number
below `2 ^ 32` written with digits alone; the relationship is then the one without bounds but for
its range, passes the same checks, and its segment has those digits. -/
theorem counts_exact {text : List Char} {number : Number} (denotes : Denotes text number) :
    (∀ (part : Page) (home : AllocatorId) (allocator : Allocator),
      let rendered := (render home (pagePayload part number)).run allocator
      let fresh := allocator.freshName part.keyword.key
      ((∃ fragments after, rendered = .ok fragments after) ↔
        ∃ count < 2 ^ 63, text = numeral count) ∧
      (∀ fragments after, rendered = .ok fragments after →
        fragments = [part.keyword.before [.parameter fresh]] ∧ fresh ∉ allocator.taken ∧
        after.reserved = allocator.reserved ∧
        ∃ (count : Nat) (value : Int64), text = numeral count ∧ value.toInt = count ∧
          after.parameters.entries = allocator.parameters.entries ++ [(fresh, .int value)]) ∧
      (∀ count, 2 ^ 63 ≤ count → count < 2 ^ 64 → text = numeral count →
        readClauses home (pagePayload part number) = .ok [.page part count] ∧
        rendered = .error (.shape part.keyword.key .signedCount
          (.json (.number (.integer count)))) allocator) ∧
      ((∀ count < 2 ^ 64, text ≠ numeral count) →
        readClauses home (pagePayload part number) =
          .error (.shape part.keyword.key .natural (.json (.number number))) ∧
        rendered = .error (.shape part.keyword.key .natural (.json (.number number))) allocator)) ∧
    ∀ (side : HopSide) (key : String) (front back : Fields) (shape : RelationshipPattern),
      Unbounded (front ++ back) → readRelationship key (.object (front ++ back)) = .ok shape →
      let read := readRelationship key (.object (front ++ (side.field, .number number) :: back))
      ((∃ bounded, read = .ok bounded) ↔ ∃ count < 2 ^ 32, text = numeral count) ∧
      ∀ bounded, read = .ok bounded →
        (∃ count, text = numeral count ∧
          bounded = { shape with hops := side.hops (.finite count) }) ∧
        ∀ mode, (Relationship.pattern bounded).check mode = (Relationship.pattern shape).check mode ∧
          ∀ allocator done after,
            (Relationship.pattern bounded).compile mode allocator = .ok (done, after) →
              Lexing.hopSegment (Fragment.chars done.text) = side.segment text := by
  constructor
  · intro part home allocator
    obtain ⟨small, large, other⟩ := render_page denotes part home allocator
    have rendered_iff := render_page_iff denotes part home allocator
    refine ⟨rendered_iff, fun fragments after ran => ?_, large, other⟩
    obtain ⟨count, fits, spelled⟩ := rendered_iff.mp ⟨fragments, after, ran⟩
    rw [(small count fits spelled).2] at ran
    cases ran
    exact ⟨rfl, allocator.freshName_not_taken _, rfl, count, Int64.ofNat count, spelled,
      Int64.toInt_ofNat_of_lt fits, allocator.entries_bind _ _⟩
  · intro side key front back shape unbounded accepted
    have hops := hops_of_unbounded unbounded accepted
    have read := readRelationship_insert side (.number number) unbounded accepted
    rw [read]
    simp only [insert_hop_eq_ok denotes]
    refine ⟨⟨?_, ?_⟩, ?_⟩
    · rintro ⟨bounded, count, fits, spelled, -⟩
      exact ⟨count, fits, spelled⟩
    · rintro ⟨count, fits, spelled⟩
      exact ⟨_, count, fits, spelled, rfl⟩
    · rintro bounded ⟨count, fits, spelled, rfl⟩
      refine ⟨⟨count, spelled, rfl⟩, fun mode => ⟨?_, ?_⟩⟩
      · show ((side.hops (.finite count)).check >>= fun _ => _) = shape.hops.check >>= fun _ => _
        rw [side.check_hops, hops]
        rfl
      · intro allocator done after compiled
        rw [Relationship.hopSegment_compile compiled, spelled]
        exact side.segment_hops count

/-- The largest count of a page, with the name of its parameter taken, and the largest bound of a
relationship. -/
theorem counts_exact_largest :
    (∃ after, (render 0 (pagePayload .limit (.integer 9223372036854775807))).run
        (.ofValues [("limit", .null)]) =
      .ok [[.fixed "LIMIT ", .parameter "limit__aaaa"]] after) ∧
    ∃ bounded, readRelationship "related" (.object [("direction", .string "out"),
      ("maxHops", .number (.integer 4294967295)), ("name", .string "KNOWS")]) = .ok bounded := by
  have largestPage : Denotes (numeral 9223372036854775807) (.integer 9223372036854775807) :=
    Json.Numeral.denotes_numeral (by decide)
  have largestBound : Denotes (numeral 4294967295) (.integer 4294967295) :=
    Json.Numeral.denotes_numeral (by decide)
  obtain ⟨page, -⟩ := counts_exact largestPage
  obtain ⟨-, bound⟩ := counts_exact largestBound
  obtain ⟨rendered, written, -⟩ := page .limit 0 (.ofValues [("limit", .null)])
  obtain ⟨fragments, after, ran⟩ := rendered.mpr ⟨9223372036854775807, by decide, rfl⟩
  obtain ⟨rfl, -⟩ := written _ _ ran
  have fresh : (Allocator.ofValues [("limit", .null)]).freshName "limit" = "limit__aaaa" := by
    decide +kernel
  refine ⟨⟨after, fresh ▸ ran⟩, ?_⟩
  have unbounded : Unbounded ([("direction", .string "out")] ++ [("name", .string "KNOWS")]) := by
    intro side
    cases side <;> rfl
  exact (bound .most "related" [("direction", .string "out")] [("name", .string "KNOWS")] _
    unbounded rfl).1.mpr ⟨4294967295, by decide, rfl⟩

end Payload
end Cypher
