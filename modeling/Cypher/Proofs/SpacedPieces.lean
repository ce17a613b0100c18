import Cypher.Proofs.Respacing
import Mathlib.Data.List.Chain

/-!
# What joining keeps

A text is a row of atoms: quoted names and string literals as a whole, and all
other characters one by one. Its pieces are what stands between the blanks of
that row. Joining keeps every visible character, whatever quotes are open. When
no fragment leaves quotes open it keeps the pieces of all fragments, in order
and each as it is, with one space between two of them and none elsewhere.
-/

namespace Cypher.Spacing

open Lexing

/-- A part of a text that blanks are looked for in, or not. -/
inductive Atom
  /-- A character outside of quotes. -/
  | bare (c : Char)
  /-- A quoted name or a string literal, with its quotes. -/
  | quoted (text : List Char)

namespace Atom

def isBlank : Atom → Bool
  | bare c => Text.isBlank c
  | quoted _ => false

/-- The text between quotes, and the quotes. -/
def quoted? : Atom → Option (List Char)
  | bare _ => none
  | quoted text => some text

/-- The atoms of a lexeme: one if it begins with a quote, else all of its characters. -/
def ofLexeme (lexeme : List Char) : List Atom :=
  if lexeme.head?.any isQuote then [.quoted lexeme] else lexeme.map .bare

end Atom

/-- The atoms of lexemes. -/
def row (lexemes : List (List Char)) : List Atom := lexemes.flatMap Atom.ofLexeme

/-- The atoms of a text. -/
def atoms (text : List Char) : List Atom := row (lexemes text)

/-- The quoted names and string literals of a text. -/
def quotes (text : List Char) : List (List Char) := (atoms text).filterMap Atom.quoted?

/-- What stands between the blanks of a row. -/
def segments (row : List Atom) : List (List Atom) :=
  (row.splitOnP Atom.isBlank).filter fun segment => !segment.isEmpty

/-- The pieces of a text, which blanks outside of quotes set apart. -/
def pieces (text : List Char) : List (List Atom) := segments (atoms text)

/-- The blanks of a row are single spaces, and each of them is between two other atoms. -/
structure Spaced (row : List Atom) : Prop where
  space : ∀ c, .bare c ∈ row → Text.isBlank c = true → c = ' '
  single : row.IsChain fun first second => ¬ (first.isBlank = true ∧ second.isBlank = true)
  opens : ∀ first ∈ row.head?, first.isBlank = false
  closes : ∀ last ∈ row.getLast?, last.isBlank = false

/-! ## Visible characters -/

theorem filter_sweep (mode : Mode) (text : List Char) :
    (sweep mode text).filter (fun c => !Text.isBlank c) =
      text.filter fun c => !Text.isBlank c := by
  have space : Text.isBlank ' ' = true := by decide
  induction text generalizing mode with
  | nil => rw [sweep_nil]
  | cons c rest ih =>
    rw [sweep_cons, List.filter_append, ih, List.filter_cons]
    cases mode <;> by_cases blank : Text.isBlank c = true <;> simp [Mode.adds, blank, space]

theorem filter_sweepAll (begun : Bool) (fragments : List (List Char)) :
    (sweepAll begun fragments).filter (fun c => !Text.isBlank c) =
      fragments.flatten.filter fun c => !Text.isBlank c := by
  induction fragments generalizing begun with
  | nil => rfl
  | cons fragment rest ih =>
    rw [sweepAll, List.filter_append, filter_sweep, ih, List.flatten_cons, List.filter_append]

theorem joined_ne_nil {fragments : List (List Char)}
    (visible : fragments.flatten.all Text.isBlank = false) : joined fragments ≠ [] := by
  intro nothing
  have kept := filter_sweepAll false fragments
  rw [show sweepAll false fragments = [] from nothing] at kept
  rw [List.all_eq_false] at visible
  obtain ⟨c, member, seen⟩ := visible
  have present : c ∈ fragments.flatten.filter fun c => !Text.isBlank c :=
    List.mem_filter.mpr ⟨member, by simpa using seen⟩
  rw [← kept] at present
  cases present

/-! ## Fragments one behind the other -/

theorem sweepAll_append (begun : Bool) (before after : List (List Char)) :
    sweepAll begun (before ++ after) =
      sweepAll begun before ++ sweepAll (begun || !(sweepAll begun before).isEmpty) after := by
  induction before generalizing begun with
  | nil => simp [sweepAll]
  | cons fragment rest ih =>
    rw [List.cons_append, sweepAll, sweepAll, ih, List.append_assoc]
    generalize sweep (if begun then .gap else .blank) fragment = added
    cases begun <;> cases added <;> rfl

/-- Behind a statement that is begun, fragments are what they are on their own, with a space before
them. -/
theorem sweepAll_begun (fragments : List (List Char)) :
    sweepAll true fragments = if joined fragments = [] then [] else ' ' :: joined fragments := by
  unfold joined
  induction fragments with
  | nil => rfl
  | cons fragment rest ih =>
    obtain ⟨nothing, something⟩ := sweep_gap fragment
    rw [sweepAll, sweepAll]
    cases alone : sweep .blank fragment with
    | nil => simpa [alone, nothing alone] using ih
    | cons c more =>
      have spaced := (something (alone ▸ List.cons_ne_nil c more)).1
      simp [alone, spaced]

/-- Two groups of fragments have a space between them, unless one of them makes nothing. -/
theorem joined_append_eq (before after : List (List Char)) :
    joined (before ++ after) = joined before ++
      if joined before = [] ∨ joined after = [] then joined after else ' ' :: joined after := by
  have behind := sweepAll_begun after
  unfold joined at behind ⊢
  rw [sweepAll_append]
  cases begun : sweepAll false before with
  | nil => simp
  | cons c more =>
    rw [show (false || !(c :: more).isEmpty) = true from rfl, behind]
    by_cases nothing : sweepAll false after = []
    · rw [if_pos nothing, if_pos (.inr nothing), nothing]
    · rw [if_neg nothing, if_neg (by simp [nothing])]

/-- Two groups of fragments with something visible in both have a space between them. -/
theorem joined_append {before after : List (List Char)}
    (visible : before.flatten.all Text.isBlank = false)
    (visible' : after.flatten.all Text.isBlank = false) :
    joined (before ++ after) = joined before ++ ' ' :: joined after := by
  rw [joined_append_eq, if_neg]
  rintro (nothing | nothing)
  · exact joined_ne_nil visible nothing
  · exact joined_ne_nil visible' nothing

/-! ## Segments -/

/-- Atoms with no blank among them. -/
def Solid (segment : List Atom) : Prop := segment ≠ [] ∧ ∀ atom ∈ segment, atom.isBlank = false

theorem Solid.append {first second : List Atom} (solid : Solid first) (solid' : Solid second) :
    Solid (first ++ second) := by
  refine ⟨List.append_ne_nil_of_left_ne_nil solid.1 second, fun atom member => ?_⟩
  rcases List.mem_append.mp member with member | member
  · exact solid.2 atom member
  · exact solid'.2 atom member

theorem segments_blank {atom : Atom} (blank : atom.isBlank = true) (rest : List Atom) :
    segments (atom :: rest) = segments rest := by
  rw [segments, List.splitOnP_cons_eq_if_modifyHead, if_pos blank]
  rfl

theorem segments_solid {segment : List Atom} (solid : Solid segment) :
    segments segment = [segment] := by
  rw [segments, List.splitOnP_eq_singleton solid.2]
  simp [solid.1]

theorem segments_solid_append {segment : List Atom} (solid : Solid segment) {atom : Atom}
    (blank : atom.isBlank = true) (rest : List Atom) :
    segments (segment ++ atom :: rest) = segment :: segments rest := by
  rw [segments, List.splitOnP_append_cons_of_forall_mem solid.2 atom blank]
  simp [solid.1, segments]

theorem splitOnP_cons_visible {atom : Atom} (visible : ¬ atom.isBlank = true) (rest : List Atom) :
    ∃ first more, rest.splitOnP Atom.isBlank = first :: more ∧
      (atom :: rest).splitOnP Atom.isBlank = (atom :: first) :: more := by
  obtain ⟨first, more, split⟩ := List.exists_cons_of_ne_nil
    (List.splitOnP_ne_nil Atom.isBlank rest)
  refine ⟨first, more, split, ?_⟩
  rw [List.splitOnP_cons_eq_if_modifyHead, if_neg visible, split]
  rfl

theorem visible_of_mem_splitOnP (row : List Atom) :
    ∀ segment ∈ row.splitOnP Atom.isBlank, ∀ atom ∈ segment, atom.isBlank = false := by
  induction row with
  | nil => simp
  | cons atom rest ih =>
    by_cases blank : atom.isBlank = true
    · rw [List.splitOnP_cons_eq_if_modifyHead, if_pos blank, List.forall_mem_cons]
      exact ⟨List.forall_mem_nil _, ih⟩
    · obtain ⟨first, more, split, split'⟩ := splitOnP_cons_visible blank rest
      rw [split, List.forall_mem_cons] at ih
      rw [split', List.forall_mem_cons, List.forall_mem_cons]
      exact ⟨⟨Bool.eq_false_iff.mpr blank, ih.1⟩, ih.2⟩

theorem solid_of_mem_segments {row segment : List Atom} (member : segment ∈ segments row) :
    Solid segment := by
  obtain ⟨among, filled⟩ := List.mem_filter.mp member
  exact ⟨by simpa using filled, visible_of_mem_splitOnP row segment among⟩

/-- Nothing but blanks is between segments. -/
theorem flatten_segments (row : List Atom) :
    (segments row).flatten = row.filter fun atom => !atom.isBlank := by
  rw [show (segments row).flatten = (row.splitOnP Atom.isBlank).flatten from
    List.flatten_filter_not_isEmpty]
  induction row with
  | nil => rfl
  | cons atom rest ih =>
    by_cases blank : atom.isBlank = true
    · rw [List.splitOnP_cons_eq_if_modifyHead, if_pos blank]
      simpa [blank] using ih
    · obtain ⟨first, more, split, split'⟩ := splitOnP_cons_visible blank rest
      rw [split] at ih
      rw [split']
      simpa [blank] using ih

/-! ## Segments with spaces between them -/

/-- Segments with one space before each of them, or before all but the first one. -/
def laid : Bool → List (List Atom) → List Atom
  | _, [] => []
  | begun, segment :: rest => (if begun then [.bare ' '] else []) ++ segment ++ laid true rest

theorem isBlank_space : (Atom.bare ' ').isBlank = true := by decide

theorem laid_append (begun : Bool) (first second : List (List Atom)) :
    laid begun (first ++ second) = laid begun first ++ laid (begun || !first.isEmpty) second := by
  induction first generalizing begun with
  | nil => simp [laid]
  | cons segment rest ih => simp [laid, ih]

variable {parts : List (List Atom)}

theorem segments_laid (solid : ∀ segment ∈ parts, Solid segment) (begun : Bool) :
    segments (laid begun parts) = parts := by
  induction parts generalizing begun with
  | nil => rfl
  | cons segment rest ih =>
    rw [List.forall_mem_cons] at solid
    have unspaced : segments (segment ++ laid true rest) = segment :: rest := by
      cases rest with
      | nil => rw [laid, List.append_nil, segments_solid solid.1]
      | cons next more =>
        have behind := ih solid.2 true
        simp only [laid, if_true, List.cons_append] at behind ⊢
        rw [segments_blank isBlank_space] at behind
        rw [segments_solid_append solid.1 isBlank_space, behind]
    cases begun with
    | false => exact unspaced
    | true =>
      rw [laid, if_pos rfl, List.append_assoc, List.singleton_append,
        segments_blank isBlank_space]
      exact unspaced

theorem Spaced.of_solid {segment : List Atom} (solid : Solid segment) : Spaced segment where
  space c member blank := by
    have visible := solid.2 _ member
    rw [show (Atom.bare c).isBlank = true from blank] at visible
    cases visible
  single := by
    have visible := solid.2
    clear solid
    induction segment with
    | nil => exact .nil
    | cons atom rest ih =>
      rw [List.forall_mem_cons] at visible
      refine (ih visible.2).cons fun next _ both => ?_
      rw [visible.1] at both
      cases both.1
  opens first head := solid.2 first (List.mem_of_mem_head? head)
  closes last ends := solid.2 last (List.mem_of_mem_getLast? ends)

/-- One more segment in front, with a space behind it. -/
theorem Spaced.behind {segment row : List Atom} (solid : Solid segment) (spaced : Spaced row)
    (filled : row ≠ []) : Spaced (segment ++ .bare ' ' :: row) where
  space c member blank := by
    rcases List.mem_append.mp member with member | member
    · exact (Spaced.of_solid solid).space c member blank
    · rcases List.mem_cons.mp member with same | member
      · exact Atom.bare.inj same
      · exact spaced.space c member blank
  single := by
    have spaces := spaced.single.cons (x := .bare ' ') fun next head both => by
      rw [spaced.opens next head] at both
      cases both.2
    refine (Spaced.of_solid solid).single.append spaces fun last ends next _ both => ?_
    rw [(Spaced.of_solid solid).closes last ends] at both
    cases both.1
  opens first head := by
    rw [List.head?_append_of_ne_nil _ solid.1] at head
    exact (Spaced.of_solid solid).opens first head
  closes last ends := by
    rw [List.getLast?_append_of_ne_nil _ (List.cons_ne_nil _ _), List.getLast?_cons_of_ne_nil filled]
      at ends
    exact spaced.closes last ends

theorem spaced_laid (solid : ∀ segment ∈ parts, Solid segment) : Spaced (laid false parts) := by
  have spaced (segment : List Atom) (rest : List (List Atom)) (solid : Solid segment)
      (solid' : ∀ segment ∈ rest, Solid segment) : Spaced (segment ++ laid true rest) := by
    induction rest generalizing segment with
    | nil => simpa [laid] using Spaced.of_solid solid
    | cons next more ih =>
      rw [List.forall_mem_cons] at solid'
      have filled : next ++ laid true more ≠ [] :=
        List.append_ne_nil_of_left_ne_nil solid'.1.1 _
      simpa [laid] using Spaced.behind solid (ih next solid'.1 solid'.2) filled
  cases parts with
  | nil => exact ⟨nofun, .nil, nofun, nofun⟩
  | cons segment rest =>
    rw [List.forall_mem_cons] at solid
    exact spaced segment rest solid.1 solid.2

/-! ## Lexemes -/

/-- Between quotes, a blank alone, or without blanks. -/
def Uniform (lexeme : List Char) : Prop :=
  lexeme.head?.any isQuote = true ∨ (∃ c, Text.isBlank c = true ∧ lexeme = [c]) ∨
    lexeme ≠ [] ∧ ∀ c ∈ lexeme, Text.isBlank c = false

/-- What goes on with the lexeme that is read: nothing at all, or only parts of words. -/
def GoesOn (phase : Phase) (ahead : List Char) : Prop :=
  (phase = .idle → ahead = []) ∧ (phase = .word → ∀ c ∈ ahead, Name.isWordPart c = true)

theorem uniform_start {c : Char} {ahead : List Char} (goesOn : GoesOn (Phase.start c) ahead) :
    Uniform (c :: ahead) := by
  obtain ⟨alone, word⟩ := goesOn
  rw [Phase.start] at alone word
  by_cases quote : isQuote c = true
  · exact .inl quote
  · have other : c ≠ Name.backtick := fun same => quote (same ▸ isQuote_backtick)
    rw [if_neg other, if_neg quote] at alone word
    by_cases part : Name.isWordPart c = true
    · rw [if_pos part] at word
      refine .inr (.inr ⟨List.cons_ne_nil _ _, List.forall_mem_cons.mpr ?_⟩)
      exact ⟨not_isBlank_of_isWordPart part, fun d member =>
        not_isBlank_of_isWordPart (word rfl d member)⟩
    · rw [if_neg part] at alone
      rw [alone rfl]
      by_cases blank : Text.isBlank c = true
      · exact .inr (.inl ⟨c, blank, rfl⟩)
      · refine .inr (.inr ⟨List.cons_ne_nil _ _, List.forall_mem_singleton.mpr ?_⟩)
        exact Bool.eq_false_iff.mpr blank

theorem uniform_scan (phase : Phase) (text : List Char) :
    GoesOn phase (scan phase text).1 ∧ ∀ lexeme ∈ (scan phase text).2, Uniform lexeme := by
  induction text generalizing phase with
  | nil => exact ⟨⟨fun _ => rfl, fun _ => List.forall_mem_nil _⟩, List.forall_mem_nil _⟩
  | cons c rest ih =>
    obtain ⟨goesOn, others⟩ := ih (phase.next c)
    cases cut : phase.cuts c with
    | true =>
      rw [Phase.next_of_cuts cut] at goesOn others
      have first := uniform_start goesOn
      simp only [scan, cut, if_true, Phase.next_of_cuts cut]
      exact ⟨⟨fun _ => rfl, fun _ => List.forall_mem_nil _⟩, List.forall_mem_cons.mpr ⟨first, others⟩⟩
    | false =>
      rw [scan_of_not_cuts cut]
      refine ⟨⟨?_, ?_⟩, others⟩
      · rintro rfl
        cases cut
      · rintro rfl
        have part : Name.isWordPart c = true := by simpa [Phase.cuts] using cut
        have same : Phase.word.next c = .word := by simp [Phase.next, Phase.cuts, part]
        exact List.forall_mem_cons.mpr ⟨part, goesOn.2 same⟩

theorem uniform_lexemes (text : List Char) : ∀ lexeme ∈ lexemes text, Uniform lexeme :=
  (uniform_scan .idle text).2

/-- A lexeme is one blank atom, or solid. -/
theorem Uniform.cases {lexeme : List Char} (uniform : Uniform lexeme) :
    (∃ c, Text.isBlank c = true ∧ lexeme = [c] ∧ Atom.ofLexeme lexeme = [.bare c]) ∨
      (∃ c ahead, ¬ Text.isBlank c = true ∧ lexeme = c :: ahead) ∧ Solid (Atom.ofLexeme lexeme) := by
  rcases uniform with quoted | ⟨c, blank, rfl⟩ | ⟨filled, visible⟩
  · obtain ⟨c, head, quote⟩ := (Option.any_eq_true _ _).mp quoted
    obtain ⟨ahead, rfl⟩ := List.head?_eq_some_iff.mp head
    refine .inr ⟨⟨c, ahead, by simp [not_isBlank_of_isQuote quote], rfl⟩, ?_⟩
    rw [Atom.ofLexeme, if_pos quoted]
    exact ⟨List.cons_ne_nil _ _, List.forall_mem_singleton.mpr rfl⟩
  · refine .inl ⟨c, blank, rfl, ?_⟩
    have calm : ¬ isQuote c = true := fun quote => by simp [not_isBlank_of_isQuote quote] at blank
    simp [Atom.ofLexeme, calm]
  · obtain ⟨c, ahead, rfl⟩ := List.exists_cons_of_ne_nil filled
    refine .inr ⟨⟨c, ahead, by simp [visible c], rfl⟩, ?_⟩
    rw [Atom.ofLexeme]
    split
    · exact ⟨List.cons_ne_nil _ _, List.forall_mem_singleton.mpr rfl⟩
    · exact ⟨by simp, List.forall_mem_map.mpr visible⟩

/-! ## Squeezed lexemes -/

theorem row_cons (lexeme : List Char) (rest : List (List Char)) :
    row (lexeme :: rest) = Atom.ofLexeme lexeme ++ row rest :=
  List.flatMap_cons

theorem row_append (first second : List (List Char)) : row (first ++ second) = row first ++ row second :=
  List.flatMap_append

/-- Squeezing lexemes sets a space between their segments. -/
structure Squeezed (lexemes : List (List Char)) : Prop where
  /-- A space that is due comes before the first segment. -/
  due : ∀ begun, row (squeeze (if begun then .gap else .blank) lexemes) =
    laid begun (segments (row lexemes))
  /-- Behind visible atoms the segment that they begin goes on. -/
  goesOn : ∀ begun segment, Solid segment →
    (if begun then [.bare ' '] else []) ++ segment ++ row (squeeze .flush lexemes) =
      laid begun (segments (segment ++ row lexemes))

namespace Squeezed

theorem nil : Squeezed [] where
  due _ := rfl
  goesOn begun segment solid := by
    rw [show row [] = [] from rfl, List.append_nil, segments_solid solid]
    rfl

variable {rest : List (List Char)} {c : Char}

theorem blank (squeezed : Squeezed rest) (blank : Text.isBlank c = true)
    (atom : Atom.ofLexeme [c] = [.bare c]) : Squeezed ([c] :: rest) where
  due begun := by
    have mode : (if (if begun then Mode.gap else .blank) = .blank then Mode.blank else .gap) =
        if begun then .gap else .blank := by
      cases begun <;> rfl
    have blank' : (Atom.bare c).isBlank = true := blank
    rw [squeeze_blank blank, mode, squeezed.due begun, row_cons, atom, List.singleton_append,
      segments_blank blank']
  goesOn begun segment solid := by
    have blank' : (Atom.bare c).isBlank = true := blank
    have gap : squeeze .flush ([c] :: rest) = squeeze .gap rest := squeeze_blank blank .flush rest
    rw [gap, row_cons, atom, List.singleton_append, segments_solid_append solid blank', laid,
      ← squeezed.due true]
    rfl

theorem visible (squeezed : Squeezed rest) (visible : ¬ Text.isBlank c = true) {ahead : List Char}
    (solid : Solid (Atom.ofLexeme (c :: ahead))) : Squeezed ((c :: ahead) :: rest) where
  due begun := by
    have laidOut := squeezed.goesOn begun _ solid
    have space : row [[' ']] = [.bare ' '] := rfl
    rw [squeeze_visible visible, row_append, row_cons, row_cons, ← laidOut, List.append_assoc]
    cases begun with
    | false => rfl
    | true => rfl
  goesOn begun segment solid' := by
    have flush : squeeze .flush ((c :: ahead) :: rest) = (c :: ahead) :: squeeze .flush rest :=
      squeeze_visible visible .flush ahead rest
    rw [flush, row_cons, row_cons, ← List.append_assoc segment,
      ← squeezed.goesOn begun _ (solid'.append solid)]
    simp only [List.append_assoc]

end Squeezed

theorem squeezed_of_uniform {lexemes : List (List Char)}
    (uniform : ∀ lexeme ∈ lexemes, Uniform lexeme) : Squeezed lexemes := by
  induction lexemes with
  | nil => exact .nil
  | cons lexeme rest ih =>
    rw [List.forall_mem_cons] at uniform
    have squeezed := ih uniform.2
    rcases uniform.1.cases with ⟨c, blank, rfl, atom⟩ | ⟨⟨c, ahead, visible, rfl⟩, solid⟩
    · exact squeezed.blank blank atom
    · exact squeezed.visible visible solid

/-- Nothing is squeezed into a text just when it has no segments. -/
theorem isEmpty_squeeze {lexemes : List (List Char)}
    (uniform : ∀ lexeme ∈ lexemes, Uniform lexeme) :
    (squeeze .blank lexemes).isEmpty = (segments (row lexemes)).isEmpty := by
  induction lexemes with
  | nil => rfl
  | cons lexeme rest ih =>
    have squeezed := (squeezed_of_uniform uniform).due false
    rw [List.forall_mem_cons] at uniform
    rcases uniform.1.cases with ⟨c, blank, rfl, atom⟩ | ⟨⟨c, ahead, visible, rfl⟩, solid⟩
    · have blank' : (Atom.bare c).isBlank = true := blank
      rw [squeeze_blank blank, if_pos rfl, ih uniform.2, row_cons, atom, List.singleton_append,
        segments_blank blank']
    · rw [squeeze_visible visible, if_neg (by simp), List.nil_append] at squeezed ⊢
      cases parts : segments (row ((c :: ahead) :: rest)) with
      | nil =>
        -- the first lexeme is visible, and would be lost
        rw [parts, row_cons, laid, List.append_eq_nil_iff] at squeezed
        exact absurd squeezed.1 solid.1
      | cons _ _ => rfl

theorem row_squeezeAll (begun : Bool) {fragments : List (List (List Char))}
    (uniform : ∀ lexemes ∈ fragments, ∀ lexeme ∈ lexemes, Uniform lexeme) :
    row (squeezeAll begun fragments) =
      laid begun (fragments.flatMap fun lexemes => segments (row lexemes)) := by
  induction fragments generalizing begun with
  | nil => rfl
  | cons lexemes rest ih =>
    rw [List.forall_mem_cons] at uniform
    have begun' : (begun || !(squeeze (if begun then .gap else .blank) lexemes).isEmpty) =
        (begun || !(segments (row lexemes)).isEmpty) := by
      cases begun with
      | false => exact congrArg (fun nothing => false || !nothing) (isEmpty_squeeze uniform.1)
      | true => rfl
    rw [squeezeAll, row_append, begun', ih _ uniform.2, (squeezed_of_uniform uniform.1).due begun,
      List.flatMap_cons, laid_append]

/-- The atoms of a statement are the pieces of its fragments, set apart by spaces. -/
theorem atoms_joined {fragments : List (List Char)}
    (balanced : ∀ fragment ∈ fragments, Balanced fragment) :
    atoms (joined fragments) = laid false (fragments.flatMap pieces) := by
  rw [atoms, lexemes_joined balanced, row_squeezeAll false, List.flatMap_map]
  · rfl
  · exact List.forall_mem_map.mpr fun fragment _ => uniform_lexemes fragment

/-- What is between quotes is in a piece. -/
theorem quotes_eq (text : List Char) :
    quotes text = (pieces text).flatMap fun piece => piece.filterMap Atom.quoted? := by
  rw [List.flatMap_def, ← List.filterMap_flatten, pieces, flatten_segments, List.filterMap_filter,
    quotes]
  refine List.filterMap_congr fun atom _ => ?_
  cases atom with
  | bare c => simp [Atom.quoted?]
  | quoted text => simp [Atom.isBlank]

/-- Joining keeps the visible characters of all fragments, in order. When no fragment leaves quotes
open it keeps quoted names and string literals as they are; outside of them it leaves single spaces
between visible characters only; it keeps what is set apart by blanks, or by the end of a fragment,
apart; and what is joined already is joined as it is. -/
theorem joined_pieces (fragments : List (List Char)) :
    (joined fragments).filter (fun c => !Text.isBlank c) =
        fragments.flatten.filter (fun c => !Text.isBlank c) ∧
      ((∀ fragment ∈ fragments, Balanced fragment) →
        quotes (joined fragments) = fragments.flatMap quotes ∧
          Spaced (atoms (joined fragments)) ∧
          pieces (joined fragments) = fragments.flatMap pieces ∧
          (∀ before after, fragments = before ++ after →
            before.flatten.all Text.isBlank = false → after.flatten.all Text.isBlank = false →
            joined fragments = joined before ++ ' ' :: joined after) ∧
          joined [joined fragments] = joined fragments) := by
  refine ⟨filter_sweepAll false fragments, fun balanced => ?_⟩
  have solid : ∀ segment ∈ fragments.flatMap pieces, Solid segment := by
    intro segment member
    obtain ⟨fragment, _, among⟩ := List.mem_flatMap.mp member
    exact solid_of_mem_segments among
  have whole := atoms_joined balanced
  have kept : pieces (joined fragments) = fragments.flatMap pieces := by
    rw [pieces, whole, segments_laid solid]
  refine ⟨?_, ?_, kept, ?_, ?_⟩
  · rw [quotes_eq, kept, List.flatMap_assoc]
    exact List.flatMap_congr fun fragment _ => (quotes_eq fragment).symm
  · rw [whole]
    exact spaced_laid solid
  · rintro before after rfl visible visible'
    exact joined_append visible visible'
  · exact (List.append_nil _).trans (sweep_joined balanced).1

/-- Blanks at the ends of fragments, around an empty one, and between quotes. -/
def untidy : List (List Char) :=
  [" a\t`b  c``d` ".toList, [], "\n x = 'it\\'s  y'".toList]

theorem joined_pieces_untidy :
    (∀ fragment ∈ untidy, Balanced fragment) ∧
      joined untidy = "a `b  c``d` x = 'it\\'s  y'".toList ∧
      quotes (joined untidy) = ["`b  c``d`".toList, "'it\\'s  y'".toList] ∧
      joined [joined untidy] = joined untidy := by
  have balanced : ∀ fragment ∈ untidy, Balanced fragment := by decide
  obtain ⟨kept, _, _, _, same⟩ := (joined_pieces untidy).2 balanced
  exact ⟨balanced, by decide +kernel, kept.trans (by decide +kernel), same⟩

end Cypher.Spacing
