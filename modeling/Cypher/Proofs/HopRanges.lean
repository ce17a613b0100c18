import Cypher.Proofs.Numerals
import Cypher.Proofs.WrittenNames
import Cypher.Proofs.RefusedPatterns
import Cypher.Proofs.TidyDrafts
import Mathlib.Data.List.TakeWhile

/-!
# Ranges of hops

A relationship can stand for paths of several lengths. Its range is a segment
behind its names, and a segment is read on its own: nothing is one hop, `*` is
any number from one on, and a star with numbers has a least length, a greatest
one or both. Read like this, the segment of a relationship has the lengths that
its bounds ask for.

An infinite upper bound is always written `*`, and then the lower bound is not
written; so this holds of it only where the lower bound is one.
-/

namespace Cypher

open Json.Numeral (digits valueFrom)
open Lexing (lexemes lexemes_append lexemes_cons_of_separates lexemes_written_append flatten_lexemes
  separates OpensApart)

/-! ## Reading a segment -/

/-- The lengths of paths from a least one on, up to a greatest one if there is one. -/
structure PathLengths where
  least : Nat
  most : Option Nat

namespace PathLengths

def Admits (lengths : PathLengths) (length : Nat) : Prop :=
  lengths.least ≤ length ∧ ∀ most ∈ lengths.most, length ≤ most

/-- The lengths behind a star: any, exactly so many, or from a number to a number. A range that
does not say where it begins begins at one. -/
def behindStar? (text : List Char) : Option PathLengths :=
  match digits text with
  | ([], []) => some ⟨1, none⟩
  | (exact, []) => some ⟨valueFrom 0 exact, some (valueFrom 0 exact)⟩
  | (first, '.' :: '.' :: text) =>
      let least := if first.isEmpty then 1 else valueFrom 0 first
      match digits text with
      | ([], []) => some ⟨least, none⟩
      | (last, []) => some ⟨least, some (valueFrom 0 last)⟩
      | _ => none
  | _ => none

/-- The lengths that a segment stands for. -/
def read? : List Char → Option PathLengths
  | [] => some ⟨1, some 1⟩
  | '*' :: text => behindStar? text
  | _ => none

open Decimal (numeral digits_numeral places_ne_nil valueFrom_places)

section Forms

variable (least most : Nat)

theorem read?_any : read? ['*'] = some ⟨1, none⟩ := rfl

theorem read?_exactly : read? ('*' :: numeral least) = some ⟨least, some least⟩ := by
  have found := digits_numeral least [] nofun
  rw [List.append_nil] at found
  rw [read?, behindStar?, found]
  simp [places_ne_nil, valueFrom_places]

theorem read?_atLeast : read? ('*' :: numeral least ++ ['.', '.']) = some ⟨least, none⟩ := by
  have found := digits_numeral least ['.', '.'] (by rintro _ ⟨⟩; rfl)
  rw [List.cons_append, read?, behindStar?, found]
  simp [places_ne_nil, valueFrom_places, digits]

theorem read?_atMost : read? (['*', '.', '.'] ++ numeral most) = some ⟨1, some most⟩ := by
  have found := digits_numeral most [] nofun
  rw [List.append_nil] at found
  have dots (text : List Char) : digits ('.' :: '.' :: text) = ([], '.' :: '.' :: text) := rfl
  show behindStar? ('.' :: '.' :: numeral most) = _
  rw [behindStar?, dots]
  simp [found, places_ne_nil, valueFrom_places]

theorem read?_between :
    read? ('*' :: numeral least ++ ['.', '.'] ++ numeral most) = some ⟨least, some most⟩ := by
  have first := digits_numeral least ('.' :: '.' :: numeral most) (by rintro _ ⟨⟩; rfl)
  have last := digits_numeral most [] nofun
  rw [List.append_nil] at last
  show behindStar? (numeral least ++ ['.', '.'] ++ numeral most) = _
  rw [List.append_assoc]
  show behindStar? (numeral least ++ '.' :: '.' :: numeral most) = _
  rw [behindStar?, first]
  simp [last, places_ne_nil, valueFrom_places]

end Forms

end PathLengths

/-! ## The segment of a relationship -/

namespace Lexing

/-- Nothing that ends the head of a relationship, which is what stands behind its bracket. -/
def inHead (lexeme : List Char) : Bool := Kind.of lexeme != .blank && lexeme != [']']

/-- What stands in the head of a relationship from the star on. -/
def hopSegment (text : List Char) : List Char :=
  ((((lexemes text).dropWhile (· != ['['])).takeWhile inHead).dropWhile (· != ['*'])).flatten

/-- What stands in the head before the segment. -/
def BeforeSegment (lexeme : List Char) : Prop := inHead lexeme = true ∧ lexeme ≠ ['*']

theorem beforeSegment_written (name : List Char) : BeforeSegment (Name.written name) := by
  have kind := Kind.of_written name
  refine ⟨?_, ?_⟩
  · rw [inHead, kind]
    have other : Name.written name ≠ [']'] := by
      intro same
      rw [same] at kind
      exact absurd kind (by decide)
    simpa using other
  · intro same
    rw [same] at kind
    exact absurd kind (by decide)

/-- Names that are separated by bars are no segment. -/
theorem lexemes_types (types : List String) {rest : List Char} (apart : OpensApart rest) :
    ∃ lead, lexemes (Fragment.chars (Fragment.names "|" types) ++ rest) = lead ++ lexemes rest ∧
      ∀ lexeme ∈ lead, BeforeSegment lexeme := by
  induction types with
  | nil => exact ⟨[], rfl, nofun⟩
  | cons name more ih =>
    obtain ⟨lead, found, before⟩ := ih
    cases more with
    | nil =>
      refine ⟨[Name.written name.toList], ?_, ?_⟩
      · simpa [Fragment.names, Fragment.joinedBy, Fragment.chars, Fragment.pieceChars] using
          lexemes_written_append name.toList apart
      · exact List.forall_mem_singleton.mpr (beforeSegment_written _)
    | cons next others =>
      refine ⟨Name.written name.toList :: ['|'] :: lead, ?_, ?_⟩
      · have barred : separates '|' = true := by decide
        have text : Fragment.chars (Fragment.names "|" (name :: next :: others)) ++ rest =
            Name.written name.toList ++
              '|' :: (Fragment.chars (Fragment.names "|" (next :: others)) ++ rest) := by
          simp [Fragment.names, Fragment.joinedBy, Fragment.chars, Fragment.pieceChars]
        rw [text, lexemes_written_append name.toList (by rintro _ ⟨⟩; exact barred),
          lexemes_cons_of_separates barred, found]
        rfl
      · rw [List.forall_mem_cons, List.forall_mem_cons]
        exact ⟨beforeSegment_written _, ⟨by decide, by decide⟩, before⟩

/-- So are the identifier and the types of a relationship. -/
theorem lexemes_head (subject : Option (Subject String)) (types : List String) {rest : List Char}
    (apart : OpensApart rest) :
    ∃ lead, lexemes (Fragment.chars (subjectPart subject ++ typePart types) ++ rest) =
        lead ++ lexemes rest ∧ ∀ lexeme ∈ lead, BeforeSegment lexeme := by
  have typed : ∃ lead, lexemes (Fragment.chars (typePart types) ++ rest) = lead ++ lexemes rest ∧
      ∀ lexeme ∈ lead, BeforeSegment lexeme := by
    cases types with
    | nil => exact ⟨[], rfl, nofun⟩
    | cons name more =>
      obtain ⟨lead, found, before⟩ := lexemes_types (name :: more) apart
      refine ⟨[':'] :: lead, ?_, List.forall_mem_cons.mpr ⟨⟨by decide, by decide⟩, before⟩⟩
      have colon : separates ':' = true := by decide
      show lexemes (':' :: (Fragment.chars (Fragment.names "|" (name :: more)) ++ rest)) = _
      rw [lexemes_cons_of_separates colon, found]
      rfl
  have opens : OpensApart (Fragment.chars (typePart types) ++ rest) := by
    cases types with
    | nil => exact apart
    | cons name more =>
      rintro _ ⟨⟩
      decide
  obtain ⟨lead, found, before⟩ := typed
  cases subject with
  | none => exact ⟨lead, found, before⟩
  | some subject =>
    obtain ⟨name, written⟩ : ∃ name, Fragment.pieceChars subject.piece = Name.written name := by
      cases subject <;> exact ⟨_, rfl⟩
    refine ⟨Name.written name :: lead, ?_, ?_⟩
    · show lexemes (Fragment.pieceChars subject.piece ++ Fragment.chars (typePart types) ++ rest) = _
      rw [written, List.append_assoc, lexemes_written_append name opens, found]
      rfl
    · exact List.forall_mem_cons.mpr ⟨beforeSegment_written _, before⟩

theorem segment_visible (hops : Hops) :
    ∀ c ∈ hops.segment, Text.isBlank c = false ∧ c ≠ ']' := by
  have marks : ∀ c ∈ ['*', '.'], Text.isBlank c = false ∧ c ≠ ']' :=
    List.forall_mem_cons.mpr ⟨by decide, List.forall_mem_singleton.mpr (by decide)⟩
  have digit (n : Nat) : ∀ c ∈ Decimal.numeral n, Text.isBlank c = false ∧ c ≠ ']' := by
    intro c member
    have digit := Decimal.isDigit_numeral n c member
    have part : Name.isWordPart c = true := by simp [Name.isWordPart, Char.isAlphanum, digit]
    refine ⟨not_isBlank_of_isWordPart part, ?_⟩
    rintro rfl
    exact absurd digit (by decide)
  obtain ⟨min, max⟩ := hops
  rw [Hops.segment]
  split <;> try split
  all_goals simp only [List.mem_append, List.mem_cons, List.not_mem_nil, or_false]
  all_goals grind

/-- The lexemes of a segment are in the head. -/
theorem inHead_segment (hops : Hops) : ∀ lexeme ∈ lexemes hops.segment, inHead lexeme = true := by
  intro lexeme member
  have part (c : Char) (there : c ∈ lexeme) : c ∈ hops.segment := by
    rw [← flatten_lexemes hops.segment]
    exact List.mem_flatten.mpr ⟨lexeme, member, there⟩
  have visible := segment_visible hops
  cases lexeme with
  | nil => decide
  | cons c rest =>
    have shown := visible c (part c List.mem_cons_self)
    rw [inHead, Bool.and_eq_true, bne_iff_ne, bne_iff_ne]
    refine ⟨fun blank => ?_, ?_⟩
    · rw [Kind.of_cons_eq_blank] at blank
      rw [shown.1] at blank
      cases blank
    · rintro ⟨⟩
      exact shown.2 rfl

/-- The segment is found between the names before it and what ends the head. -/
theorem hopSegment_between {lead : List (List Char)} {text rest : List Char} {stop : Char}
    (hops : Hops) (before : ∀ lexeme ∈ lead, BeforeSegment lexeme)
    (found : lexemes text = lead ++ lexemes (hops.segment ++ stop :: rest))
    (ends : stop = ' ' ∨ stop = ']') :
    (((lexemes text).takeWhile inHead).dropWhile (· != ['*'])).flatten = hops.segment := by
  have apart : separates stop = true ∧ inHead [stop] = false := by
    rcases ends with rfl | rfl <;> decide
  have stopped : lexemes (hops.segment ++ stop :: rest) =
      lexemes hops.segment ++ [stop] :: lexemes rest := by
    rw [lexemes_append, lexemes_cons_of_separates apart.1]
    exact breaks_of_separates (balanced_of_calm fun c member => (hops.segment_calm c member).1)
      apart.1 _
  have inside : ∀ lexeme ∈ lead ++ lexemes hops.segment, inHead lexeme = true := by
    intro lexeme member
    rcases List.mem_append.mp member with first | last
    · exact (before lexeme first).1
    · exact inHead_segment hops lexeme last
  have star : (lexemes hops.segment).dropWhile (· != ['*']) = lexemes hops.segment := by
    have first := hops.segment_head
    cases segment : hops.segment with
    | nil => rfl
    | cons c more =>
      obtain rfl : c = '*' := first c (by rw [segment]; rfl)
      rw [lexemes_cons_of_separates (by decide)]
      rfl
  have skipped : lead.dropWhile (· != ['*']) = [] :=
    List.dropWhile_eq_nil_iff.mpr fun lexeme member => by simpa using (before lexeme member).2
  rw [found, stopped, ← List.append_assoc, List.takeWhile_append_of_pos inside,
    List.takeWhile_cons_of_neg (by simp [apart.2]), List.append_nil, List.dropWhile_append, skipped,
    List.isEmpty_nil, if_pos rfl, star, flatten_lexemes]

theorem chars_around (direction : Direction) (content : Fragment String) :
    ∃ opening closing, (opening = ['-'] ∨ opening = ['<', '-']) ∧
      Fragment.chars (direction.around content) =
        opening ++ '[' :: (Fragment.chars content ++ ']' :: closing) := by
  cases direction with
  | forward =>
    exact ⟨['-'], "->".toList, .inl rfl, by
      simp [Direction.around, Fragment.chars, Fragment.pieceChars, Fragment.chars_append]⟩
  | backward =>
    exact ⟨['<', '-'], "-".toList, .inr rfl, by
      simp [Direction.around, Fragment.chars, Fragment.pieceChars, Fragment.chars_append]⟩
  | either =>
    exact ⟨['-'], "-".toList, .inl rfl, by
      simp [Direction.around, Fragment.chars, Fragment.pieceChars, Fragment.chars_append]⟩

/-- Up to its bracket a relationship has marks only. -/
theorem hopSegment_around (direction : Direction) (content : Fragment String) :
    ∃ closing, hopSegment (Fragment.chars (direction.around content)) =
      (((lexemes (Fragment.chars content ++ ']' :: closing)).takeWhile inHead).dropWhile
        (· != ['*'])).flatten := by
  have marks : separates '<' = true ∧ separates '-' = true ∧ separates '[' = true := by decide
  obtain ⟨opening, closing, opens, text⟩ := chars_around direction content
  refine ⟨closing, ?_⟩
  rw [hopSegment, text]
  rcases opens with rfl | rfl
  · simp only [List.cons_append, List.nil_append, lexemes_cons_of_separates marks.2.1,
      lexemes_cons_of_separates marks.2.2]
    rfl
  · simp only [List.cons_append, List.nil_append, lexemes_cons_of_separates marks.1,
      lexemes_cons_of_separates marks.2.1, lexemes_cons_of_separates marks.2.2]
    rfl

theorem chars_segment (hops : Hops) :
    Fragment.chars (hops.fragment : Fragment String) = hops.segment := by
  rw [Hops.fragment]
  cases hops.segment with
  | nil => rfl
  | cons c rest => simp [Fragment.chars, Fragment.pieceChars]

/-- A relationship has the segment of its hops between its names and what stands inside. -/
theorem hopSegment_relationship (shape : RelationshipPattern) (subject : Option (Subject String))
    (inside : Where String) :
    hopSegment (Fragment.chars (shape.direction.around (headAndInside
      (subjectPart subject ++ typePart shape.types ++ shape.hops.fragment) inside.inline))) =
      shape.hops.segment := by
  obtain ⟨closing, around⟩ := hopSegment_around shape.direction (headAndInside
    (subjectPart subject ++ typePart shape.types ++ shape.hops.fragment) inside.inline)
  have opens {stop : Char} (ends : stop = ' ' ∨ stop = ']') (rest : List Char) :
      OpensApart (shape.hops.segment ++ stop :: rest) := by
    have first := shape.hops.segment_head
    cases segment : shape.hops.segment with
    | nil =>
      rintro _ ⟨⟩
      rcases ends with rfl | rfl <;> decide
    | cons c more =>
      obtain rfl : c = '*' := first c (by rw [segment]; rfl)
      rintro _ ⟨⟩
      decide
  have headed {stop : Char} (ends : stop = ' ' ∨ stop = ']') (rest : List Char) :
      (((lexemes (Fragment.chars (subjectPart subject ++ typePart shape.types ++
        shape.hops.fragment) ++ stop :: rest)).takeWhile inHead).dropWhile (· != ['*'])).flatten =
        shape.hops.segment := by
    obtain ⟨lead, found, before⟩ := lexemes_head subject shape.types (opens ends rest)
    rw [Fragment.chars_append, chars_segment, List.append_assoc]
    exact hopSegment_between shape.hops before found ends
  rw [around, headAndInside]
  split
  · next empty =>
    -- nothing stands in front of what is inside, and that begins with its brace
    have nothing := List.isEmpty_iff.mp empty
    have segment : shape.hops.segment = [] := by
      rw [← chars_segment, (List.append_eq_nil_iff.mp nothing).2]
      rfl
    cases entries : inside.comparisons with
    | nil =>
      have bare := headed (.inr rfl) closing
      rw [nothing] at bare
      rw [Where.inline, entries]
      exact bare
    | cons comparison more =>
      rw [segment, Where.inline, entries, List.map_cons]
      have brace : separates '{' = true ∧ separates ' ' = true := by decide
      show (((lexemes ('{' :: ' ' :: _)).takeWhile inHead).dropWhile (· != ['*'])).flatten = []
      rw [lexemes_cons_of_separates brace.1, lexemes_cons_of_separates brace.2]
      rfl
  · split
    · exact headed (.inr rfl) closing
    · rw [Fragment.chars_append, List.append_assoc]
      exact headed (.inl rfl) _

end Lexing

/-! ## Bounds and lengths -/

/-- The length is not below the lower bound; without one, a path is not empty. -/
def HopBound.Reached : Option HopBound → Nat → Prop
  | none, length => 1 ≤ length
  | some (.finite least), length => least ≤ length
  | some .infinite, _ => False

/-- The length is not above the upper bound. -/
def HopBound.Kept : Option HopBound → Nat → Prop
  | some (.finite most), length => length ≤ most
  | _, _ => True

/-- The bounds ask for paths of that length. Without bounds it is one. -/
def Hops.Asks (hops : Hops) (length : Nat) : Prop :=
  if hops = ⟨none, none⟩ then length = 1
  else HopBound.Reached hops.min length ∧ HopBound.Kept hops.max length

/-- The lower bound is not written, and is not the one that a star stands for. -/
def Hops.Widened (hops : Hops) : Prop :=
  hops.max = some .infinite ∧ hops.min ≠ none ∧ hops.min ≠ some (.finite 1)

namespace Hops

open PathLengths (Admits read?)

/-- A segment is read to the lengths that the bounds ask for, unless it is widened. -/
theorem read?_segment (hops : Hops) (bounded : hops.min ≠ some .infinite) :
    ∃ lengths, read? hops.segment = some lengths ∧
      (¬ hops.Widened → ∀ length, lengths.Admits length ↔ hops.Asks length) := by
  obtain ⟨min, max⟩ := hops
  match min, max with
  | some .infinite, _ => exact absurd rfl bounded
  | none, none =>
    refine ⟨_, rfl, fun _ length => ?_⟩
    simp only [Admits, Asks, Option.mem_def, Option.some.injEq, forall_eq', if_pos]
    omega
  | none, some .infinite =>
    exact ⟨_, PathLengths.read?_any, fun _ length => by simp [Admits, Asks, HopBound.Reached,
      HopBound.Kept]⟩
  | some (.finite least), some .infinite =>
    refine ⟨_, PathLengths.read?_any, fun kept length => ?_⟩
    obtain rfl : least = 1 := by
      by_contra other
      exact kept ⟨rfl, nofun, fun same => other (by cases same; rfl)⟩
    simp [Admits, Asks, HopBound.Reached, HopBound.Kept]
  | some (.finite least), none =>
    exact ⟨_, PathLengths.read?_atLeast least, fun _ length => by simp [Admits, Asks,
      HopBound.Reached, HopBound.Kept]⟩
  | none, some (.finite most) =>
    exact ⟨_, PathLengths.read?_atMost most, fun _ length => by simp [Admits, Asks,
      HopBound.Reached, HopBound.Kept]⟩
  | some (.finite least), some (.finite most) =>
    by_cases same : least = most
    · subst same
      refine ⟨_, (congrArg read? (if_pos rfl)).trans (PathLengths.read?_exactly least), ?_⟩
      exact fun _ length => by simp [Admits, Asks, HopBound.Reached, HopBound.Kept]
    · refine ⟨_, (congrArg read? (if_neg same)).trans (PathLengths.read?_between least most), ?_⟩
      exact fun _ length => by simp [Admits, Asks, HopBound.Reached, HopBound.Kept]

theorem segment_infinite {hops : Hops} (infinite : hops.max = some .infinite) :
    hops.segment = ['*'] := by
  obtain ⟨min, max⟩ := hops
  obtain rfl : max = some .infinite := infinite
  match min with
  | none => rfl
  | some .infinite => rfl
  | some (.finite _) => rfl

/-- A star alone is written only for an infinite bound. -/
theorem infinite_of_segment {hops : Hops} (bounded : hops.min ≠ some .infinite)
    (star : hops.segment = ['*']) : hops.max = some .infinite := by
  have filled (n : Nat) : Decimal.numeral n ≠ [] := Decimal.numeral_ne_nil n
  obtain ⟨min, max⟩ := hops
  match min, max with
  | some .infinite, _ => exact absurd rfl bounded
  | _, some .infinite => rfl
  | none, none => cases star
  | some (.finite least), none => simp [segment] at star
  | none, some (.finite most) => simp [segment] at star
  | some (.finite least), some (.finite most) =>
    by_cases same : least = most <;> simp [segment, same, filled] at star

/-- Bounds with the same segment ask for the same lengths, or end nowhere. -/
theorem asks_of_segment {hops other : Hops} (bounded : hops.min ≠ some .infinite)
    (bounded' : other.min ≠ some .infinite) (same : hops.segment = other.segment) :
    (∀ length, hops.Asks length ↔ other.Asks length) ∨
      hops.max = some .infinite ∧ other.max = some .infinite := by
  by_cases either : hops.max = some .infinite ∨ other.max = some .infinite
  · refine .inr ?_
    rcases either with infinite | infinite
    · exact ⟨infinite, infinite_of_segment bounded' (same ▸ segment_infinite infinite)⟩
    · exact ⟨infinite_of_segment bounded (same ▸ segment_infinite infinite), infinite⟩
  · rw [not_or] at either
    obtain ⟨lengths, read, asked⟩ := hops.read?_segment bounded
    obtain ⟨lengths', read', asked'⟩ := other.read?_segment bounded'
    rw [same, read'] at read
    cases read
    exact .inl fun length => (asked (fun widened => either.1 widened.1) length).symm.trans
      (asked' (fun widened => either.2 widened.1) length)

end Hops

/-! ## Relationships -/

namespace Relationship

variable {shape : RelationshipPattern} {mode : Mode} {allocator after : Allocator}
  {done : PatternText String}

/-- The segment of what is written is that of the bounds. -/
theorem hopSegment_compile
    (compiled : (Relationship.pattern shape).compile mode allocator = .ok (done, after)) :
    Lexing.hopSegment (Fragment.chars done.text) = shape.hops.segment := by
  let element : PathElement := .relationship (.pattern shape)
  have rendered : (element.render mode).run allocator = .ok done after := by
    have same := element.compile_eq mode allocator
    rw [show element.compile mode allocator = .ok (done, after) from compiled] at same
    cases ran : (element.render mode).run allocator with
    | ok done after =>
      rw [ran] at same
      cases same
      rfl
    | error error spent =>
      rw [ran] at same
      cases same
  obtain ⟨_, names, _, placement, rfl, -, placed, complete⟩ :=
    element.makes_placement mode allocator done after (.refl allocator) rendered
  obtain ⟨inside, written, -⟩ := complete.conserved
  obtain ⟨_, filter⟩ := placement
  obtain rfl := placed
  dsimp only at written
  rw [Placement.done, Placement.text, written]
  exact Lexing.hopSegment_relationship shape filter.subject inside

/-- The segment of a relationship is read to the path lengths that its bounds ask for, where its
upper bound is finite or absent, or its lower bound is one or absent. With an infinite upper bound
it is a star, whatever the lower bound. Relationships with the same segment ask for the same
lengths, unless both have an infinite upper bound. -/
theorem compile_lengths (bounded : shape.hops.min ≠ some .infinite)
    (compiled : (Relationship.pattern shape).compile mode allocator = .ok (done, after)) :
    (∃ lengths, PathLengths.read? (Lexing.hopSegment (Fragment.chars done.text)) = some lengths ∧
      (¬ shape.hops.Widened → ∀ length, lengths.Admits length ↔ shape.hops.Asks length)) ∧
    (shape.hops.max = some .infinite →
      Lexing.hopSegment (Fragment.chars done.text) = ['*']) ∧
    ∀ (other : RelationshipPattern) mode' allocator' done' after',
      other.hops.min ≠ some .infinite →
      (Relationship.pattern other).compile mode' allocator' = .ok (done', after') →
      Lexing.hopSegment (Fragment.chars done.text) = Lexing.hopSegment (Fragment.chars done'.text) →
        (∀ length, shape.hops.Asks length ↔ other.hops.Asks length) ∨
          shape.hops.max = some .infinite ∧ other.hops.max = some .infinite := by
  rw [hopSegment_compile compiled]
  refine ⟨shape.hops.read?_segment bounded, Hops.segment_infinite, ?_⟩
  intro other mode' allocator' done' after' bounded' compiled' same
  rw [hopSegment_compile compiled'] at same
  exact Hops.asks_of_segment bounded bounded' same

/-- A relationship whose names look like segments and brackets. -/
def starredNames : RelationshipPattern :=
  ⟨.backward, some "r*]", ["*1", "A B"], .properties (.ofList [("since", .literal "3*4")]),
    ⟨some (.finite 2), some (.finite 15)⟩⟩

theorem compile_lengths_starredNames :
    ∃ done after, (Relationship.pattern starredNames).compile .creating .empty = .ok (done, after) ∧
      done.text.text = "<-[`r*]`:`*1`|`A B`*2..15 \x7b since: 3*4 \x7d]-" ∧
      ∃ lengths, PathLengths.read? (Lexing.hopSegment (Fragment.chars done.text)) = some lengths ∧
        ∀ length, lengths.Admits length ↔ starredNames.hops.Asks length := by
  have compiled : (Relationship.pattern starredNames).compile .creating .empty = .ok (_, _) := rfl
  obtain ⟨⟨lengths, read, asked⟩, -⟩ := compile_lengths (by decide) compiled
  exact ⟨_, _, compiled, by decide +kernel, lengths, read, asked fun widened => nomatch widened.1⟩

/-- Two hops or more. -/
def twoOrMore : RelationshipPattern :=
  ⟨.forward, none, [], .nothing, ⟨some (.finite 2), some .infinite⟩⟩

/-- A path of one hop is not asked for and is admitted. -/
theorem compile_widened :
    ¬ ∀ (shape : RelationshipPattern) mode allocator done after,
      shape.hops.min ≠ some .infinite →
      (Relationship.pattern shape).compile mode allocator = .ok (done, after) →
        ∃ lengths, PathLengths.read? (Lexing.hopSegment (Fragment.chars done.text)) =
          some lengths ∧ ∀ length, lengths.Admits length ↔ shape.hops.Asks length := by
  intro faithful
  have compiled : (Relationship.pattern twoOrMore).compile .matching .empty = .ok (_, _) := rfl
  obtain ⟨lengths, read, asked⟩ := faithful _ _ _ _ _ (by decide) compiled
  rw [hopSegment_compile compiled] at read
  obtain rfl : ⟨1, none⟩ = lengths := Option.some.inj read
  have reached := (asked 1).mp ⟨Nat.le_refl 1, nofun⟩
  simp [Hops.Asks, twoOrMore, HopBound.Reached] at reached

end Relationship
end Cypher
