import Cypher.Draft
import Cypher.Proofs.Spacing

/-!
# Tidy fragments

A fragment is tidy when no name in it touches anything but keywords and
punctuation that set it apart. The lexemes of a tidy fragment can be told piece
by piece (`lexemes_chars`): a name is one of them, whatever it is, and nothing
of the caller becomes a part of it.
-/

namespace Cypher

open Lexing

variable {ρ σ : Type}

namespace Piece

/-- Whether the lexeme at the end of the piece may be gone on with. -/
def endsOpen : Piece ρ → Bool
  | .fixed _ | .raw _ => false
  | _ => true

/-- Whether the piece may go on with the lexeme before it. -/
def beginsOpen : Piece ρ → Bool
  | .fixed _ | .raw _ | .parameter _ => false
  | _ => true

/-- Whether the piece sets apart what stands before it. -/
def opensApart : Piece ρ → Bool
  | .fixed text => text.toList.head?.any separates
  | _ => false

/-- Whether the piece sets apart what stands behind it. -/
def closesApart : Piece ρ → Bool
  | .fixed text => text.toList.getLast?.any separates
  | _ => false

/-- Whether one piece can stand right before another. -/
def Meets (first second : Piece ρ) : Prop :=
  (first.endsOpen = true → second.opensApart = true) ∧
    (second.beginsOpen = true → first.closesApart = true)

/-- Whether the piece is text, which can stand next to other text. -/
def isText : Piece ρ → Bool
  | .fixed _ | .raw _ => true
  | _ => false

end Piece

namespace Fragment

/-- Keywords and punctuation open no quotes and refer to nothing. -/
def Keyed (text : String) : Prop := ∀ c ∈ text.toList, Spacing.isQuote c = false ∧ c ≠ '$'

instance (text : String) : Decidable (Keyed text) :=
  List.decidableBAll (fun c => Spacing.isQuote c = false ∧ c ≠ '$') text.toList

mutual

def PieceTidy (allowed : String → Prop) : Piece ρ → Prop
  | .fixed text => Keyed text
  | .raw text => allowed text
  | .body fragments => AllTidy allowed fragments
  | .name _ | .identifier _ | .parameter _ => True

/-- Names are set apart, and raw texts are of the allowed ones. -/
def Tidy (allowed : String → Prop) : List (Piece ρ) → Prop
  | [] => True
  | piece :: rest =>
      PieceTidy allowed piece ∧ (∀ next ∈ rest.head?, piece.Meets next) ∧ Tidy allowed rest

def AllTidy (allowed : String → Prop) : List (List (Piece ρ)) → Prop
  | [] => True
  | fragment :: rest => Tidy allowed fragment ∧ AllTidy allowed rest

end

mutual

/-- The lexemes of a fragment behind a text that is not cut yet. -/
def lexemesFrom (run : List Char) : List (Piece String) → List (List Char)
  | [] => lexemes run
  | .fixed text :: rest => lexemesFrom (run ++ text.toList) rest
  | .raw text :: rest => lexemesFrom (run ++ text.toList) rest
  | .name given :: rest => lexemes run ++ Name.written given.toList :: lexemesFrom [] rest
  | .identifier ref :: rest => lexemes run ++ Name.written ref.toList :: lexemesFrom [] rest
  | .parameter ref :: rest =>
      lexemes run ++ ['$'] :: Name.written ref.toList :: lexemesFrom [] rest
  | .body fragments :: rest =>
      lexemes run ++ (Spacing.squeezeAll false (allLexemes fragments) ++ lexemesFrom [] rest)

def allLexemes : List (List (Piece String)) → List (List (List Char))
  | [] => []
  | fragment :: rest => lexemesFrom [] fragment :: allLexemes rest

end

/-! ## The lexemes of tidy fragments -/

mutual

theorem balanced_pieceChars {piece : Piece String}
    (tidy : PieceTidy (fun text => Balanced text.toList) piece) : Balanced (pieceChars piece) := by
  cases piece with
  | fixed text => exact balanced_of_calm fun c member => (tidy c member).1
  | raw text => exact tidy
  | name given => exact balanced_written _
  | identifier ref => exact balanced_written _
  | parameter ref =>
    have dollar : Balanced ['$'] := by decide
    exact balanced_append dollar (balanced_written _)
  | body fragments => exact Spacing.balanced_joined (balanced_allChars tidy)

theorem balanced_chars {fragment : List (Piece String)}
    (tidy : Tidy (fun text => Balanced text.toList) fragment) : Balanced (chars fragment) := by
  cases fragment with
  | nil => exact balanced_nil
  | cons piece rest =>
    exact balanced_append (balanced_pieceChars tidy.1) (balanced_chars tidy.2.2)

theorem balanced_allChars {fragments : List (List (Piece String))}
    (tidy : AllTidy (fun text => Balanced text.toList) fragments) :
    ∀ text ∈ allChars fragments, Balanced text := by
  cases fragments with
  | nil => simp [allChars]
  | cons fragment rest =>
    simp only [allChars, List.forall_mem_cons]
    exact ⟨balanced_chars tidy.1, balanced_allChars tidy.2⟩

end

/-- The fragment is empty or sets apart what stands before it. -/
def Opens (fragment : List (Piece ρ)) : Prop := ∀ first ∈ fragment.head?, first.opensApart = true

theorem opensApart_chars {fragment : List (Piece String)} (apart : Opens fragment) :
    OpensApart (chars fragment) := by
  cases fragment with
  | nil => exact opensApart_nil
  | cons first rest =>
    have opened := apart first rfl
    cases first with
    | fixed text =>
      obtain ⟨d, begins, separated⟩ := (Option.any_eq_true _ _).mp opened
      intro c first
      rw [chars, pieceChars, List.head?_append, begins] at first
      obtain rfl : d = c := by simpa using first
      exact separated
    | _ => cases opened

/-- What a name in a fragment becomes. -/
theorem lexemes_written_chars (name : List Char) {piece : Piece String}
    {rest : List (Piece String)} (opens : piece.endsOpen = true)
    (meets : ∀ next ∈ rest.head?, piece.Meets next) :
    lexemes (Name.written name ++ chars rest) = Name.written name :: lexemes (chars rest) :=
  lexemes_written_append name (opensApart_chars fun next first => (meets next first).1 opens)

mutual

/-- Behind a text that ends outside of quotes, and at a cut where a name follows. -/
theorem lexemes_append_chars {fragment : List (Piece String)}
    (tidy : Tidy (fun text => Balanced text.toList) fragment) (run : List Char)
    (outside : (Phase.idle.after run).isOutside = true)
    (cut : ∀ first ∈ fragment.head?, first.beginsOpen = true → Phase.idle.after run = .idle) :
    lexemes (run ++ chars fragment) = lexemesFrom run fragment := by
  cases fragment with
  | nil => simp [chars, lexemesFrom]
  | cons piece rest =>
    obtain ⟨sound, meets, tidyRest⟩ := tidy
    rw [chars]
    have behind : lexemes (chars rest) = lexemesFrom [] rest :=
      lexemes_append_chars tidyRest [] rfl fun _ _ _ => rfl
    have breaks (opens : piece.beginsOpen = true) (text : List Char) :
        Breaks (Phase.idle.after run) text := by
      rw [cut _ rfl opens]
      exact breaks_idle text
    cases piece with
    | fixed text =>
      have calm : ∀ c ∈ text.toList, Spacing.isQuote c = false := fun c member => (sound c member).1
      have outside' : (Phase.idle.after (run ++ text.toList)).isOutside = true := by
        rw [Phase.after_append]
        exact Phase.isOutside_after_of_calm outside calm
      rw [pieceChars, ← List.append_assoc, lexemesFrom]
      refine lexemes_append_chars tidyRest _ outside' fun next first opens => ?_
      rw [Phase.after_append]
      exact after_eq_idle outside calm ((meets next first).2 opens)
    | raw text =>
      have outside' : (Phase.idle.after (run ++ text.toList)).isOutside = true := by
        rw [Phase.after_append]
        exact Phase.isOutside_after outside sound
      rw [pieceChars, ← List.append_assoc, lexemesFrom]
      refine lexemes_append_chars tidyRest _ outside' fun next first opens => ?_
      -- no name stands right behind a text of the caller
      cases (meets next first).2 opens
    | name given =>
      rw [pieceChars, lexemes_append (breaks rfl _),
        lexemes_written_chars _ rfl meets, behind, lexemesFrom]
    | identifier ref =>
      rw [pieceChars, lexemes_append (breaks rfl _),
        lexemes_written_chars _ rfl meets, behind, lexemesFrom]
    | parameter ref =>
      have apart : separates '$' = true := by decide
      rw [pieceChars, List.cons_append, lexemes_append (breaks_of_separates outside apart _),
        lexemes_cons_of_separates apart, lexemes_written_chars _ rfl meets, behind, lexemesFrom]
    | body fragments =>
      -- a nested statement is spaced on its own before it is put between its neighbours
      have balanced := balanced_allChars sound
      have apart : OpensApart (chars rest) :=
        opensApart_chars fun next first => (meets next first).1 rfl
      rw [pieceChars, lexemes_append (breaks rfl _),
        lexemes_append (apart.breaks (Spacing.balanced_joined balanced)),
        Spacing.lexemes_joined balanced, map_lexemes_allChars sound, behind, lexemesFrom]

theorem map_lexemes_allChars {fragments : List (List (Piece String))}
    (tidy : AllTidy (fun text => Balanced text.toList) fragments) :
    (allChars fragments).map lexemes = allLexemes fragments := by
  cases fragments with
  | nil => simp [allChars, allLexemes]
  | cons fragment rest =>
    have first : lexemes (chars fragment) = lexemesFrom [] fragment :=
      lexemes_append_chars tidy.1 [] rfl fun _ _ _ => rfl
    rw [allChars, List.map_cons, first, map_lexemes_allChars tidy.2, allLexemes]

end

/-- The lexemes of a statement made of tidy fragments. -/
theorem lexemes_joined_allChars {fragments : List (List (Piece String))}
    (tidy : AllTidy (fun text => Balanced text.toList) fragments) :
    lexemes (Spacing.joined (allChars fragments)) =
      Spacing.squeezeAll false (allLexemes fragments) := by
  rw [Spacing.lexemes_joined (balanced_allChars tidy), map_lexemes_allChars tidy]

/-! ## Putting tidy fragments together -/

variable {allowed : String → Prop} {first second : List (Piece ρ)}

/-- Punctuation that is apart at both of its ends. -/
def SetsApart (text : String) : Prop :=
  Keyed text ∧ text.toList.head?.any separates = true ∧ text.toList.getLast?.any separates = true

instance (text : String) : Decidable (SetsApart text) := inferInstanceAs (Decidable (_ ∧ _))

theorem meets_of_opensApart {piece next : Piece ρ} (opens : next.opensApart = true) :
    piece.Meets next := by
  refine ⟨fun _ => opens, fun begins => ?_⟩
  cases next <;> simp_all [Piece.opensApart, Piece.beginsOpen]

theorem meets_of_closesApart {piece next : Piece ρ} (closes : piece.closesApart = true) :
    piece.Meets next := by
  refine ⟨fun ends => ?_, fun _ => closes⟩
  cases piece <;> simp_all [Piece.closesApart, Piece.endsOpen]

theorem meets_of_isText {piece next : Piece ρ} (text : piece.isText = true)
    (text' : next.isText = true) : piece.Meets next := by
  constructor
  · intro ends
    cases piece <;> simp_all [Piece.isText, Piece.endsOpen]
  · intro begins
    cases next <;> simp_all [Piece.isText, Piece.beginsOpen]

theorem tidy_single {piece : Piece ρ} (sound : PieceTidy allowed piece) : Tidy allowed [piece] := by
  exact ⟨sound, (fun _ none => nomatch none), trivial⟩

theorem tidy_name (given : String) : Tidy allowed ([.name given] : Fragment ρ) := tidy_single trivial

theorem tidy_raw {text : String} (sound : allowed text) :
    Tidy allowed ([.raw text] : Fragment ρ) :=
  tidy_single sound

theorem tidy_append (tidy : Tidy allowed first) (tidy' : Tidy allowed second)
    (meets : ∀ last ∈ first.getLast?, ∀ next ∈ second.head?, last.Meets next) :
    Tidy allowed (first ++ second) := by
  induction first with
  | nil => exact tidy'
  | cons piece rest ih =>
    obtain ⟨sound, next, tidyRest⟩ := tidy
    cases rest with
    | nil => exact ⟨sound, meets piece rfl, tidy'⟩
    | cons other more => exact ⟨sound, next, ih tidyRest meets⟩

theorem tidy_append_of_opens (tidy : Tidy allowed first) (tidy' : Tidy allowed second)
    (opens : Opens second) : Tidy allowed (first ++ second) :=
  tidy_append tidy tidy' fun _ _ _ there => meets_of_opensApart (opens _ there)

/-- Behind a keyword there can be anything. -/
theorem tidy_fixed_cons {text : String} (keyed : Keyed text)
    (closes : text.toList.getLast?.any separates = true) (tidy : Tidy allowed second) :
    Tidy allowed (.fixed text :: second) :=
  ⟨keyed, fun _ _ => meets_of_closesApart closes, tidy⟩

theorem tidy_between {text : String} (apart : SetsApart text) (tidy : Tidy allowed first)
    (tidy' : Tidy allowed second) : Tidy allowed (first ++ .fixed text :: second) := by
  refine tidy_append_of_opens tidy (tidy_fixed_cons apart.1 apart.2.2 tidy') ?_
  rintro _ ⟨⟩
  exact apart.2.1

theorem tidy_around {opener closer : String} (apart : SetsApart opener) (apart' : SetsApart closer)
    (tidy : Tidy allowed first) : Tidy allowed (.fixed opener :: first ++ [.fixed closer]) :=
  tidy_between apart' (tidy_fixed_cons apart.1 apart.2.2 tidy) trivial

theorem tidy_joinedBy {separator : String} (apart : SetsApart separator)
    {fragments : List (Fragment ρ)} (each : ∀ fragment ∈ fragments, Tidy allowed fragment) :
    Tidy allowed (joinedBy separator fragments) := by
  fun_induction joinedBy separator fragments with
  | case1 => exact trivial
  | case2 fragment => exact each fragment (List.mem_singleton_self fragment)
  | case3 fragment next rest ih =>
    simp only [List.forall_mem_cons] at each ih
    exact tidy_between apart each.1 (ih each.2)

/-- Fragments written for items, with a separator between them. -/
theorem tidy_joined {α : Type} {separator : String} {write : α → Fragment ρ} {items : List α}
    (apart : SetsApart separator) (each : ∀ item ∈ items, Tidy allowed (write item)) :
    Tidy allowed (joinedBy separator (items.map write)) :=
  tidy_joinedBy apart (List.forall_mem_map.mpr each)

theorem tidy_names {separator : String} (apart : SetsApart separator) (given : List String) :
    Tidy allowed (names separator given : Fragment ρ) :=
  tidy_joined apart fun name _ => tidy_name name

/-- The fragment has text at its two ends. -/
def TextEnds (fragment : List (Piece ρ)) : Prop :=
  (∀ piece ∈ fragment.head?, piece.isText = true) ∧
    ∀ piece ∈ fragment.getLast?, piece.isText = true

theorem textEnds_around (opener closer : String) (inner : Fragment ρ) :
    TextEnds (.fixed opener :: inner ++ [.fixed closer]) := by
  constructor
  · rintro _ ⟨⟩
    rfl
  · intro piece ends
    rw [List.getLast?_concat] at ends
    cases ends
    rfl

theorem textEnds_raw (text : String) : TextEnds ([.raw text] : Fragment ρ) :=
  ⟨by rintro _ ⟨⟩; rfl, by rintro _ ⟨⟩; rfl⟩

theorem tidy_flatten {fragments : List (Fragment ρ)}
    (each : ∀ fragment ∈ fragments, Tidy allowed fragment ∧ TextEnds fragment) :
    Tidy allowed fragments.flatten ∧ ∀ piece ∈ fragments.flatten.head?, piece.isText = true := by
  induction fragments with
  | nil => exact ⟨trivial, fun _ none => nomatch none⟩
  | cons fragment rest ih =>
    simp only [List.forall_mem_cons] at each
    obtain ⟨⟨tidy, text, text'⟩, others⟩ := each
    obtain ⟨tidyRest, textRest⟩ := ih others
    rw [List.flatten_cons]
    -- text meets text, so no name comes to stand right behind another
    refine ⟨tidy_append tidy tidyRest fun last ends next begins =>
      meets_of_isText (text' last ends) (textRest next begins), ?_⟩
    intro piece begins
    cases fragment with
    | nil => exact textRest piece begins
    | cons other more => exact text piece begins

theorem allTidy_iff {fragments : List (List (Piece ρ))} :
    AllTidy allowed fragments ↔ ∀ fragment ∈ fragments, Tidy allowed fragment := by
  induction fragments with
  | nil => simp [AllTidy]
  | cons fragment rest ih => simp [AllTidy, ih]

/-! ## Filled gaps -/

theorem mapPiece_meets (f : ρ → σ) {piece next : Piece ρ} (meets : piece.Meets next) :
    (mapPiece f piece).Meets (mapPiece f next) := by
  cases piece <;> cases next <;> exact meets

mutual

theorem pieceTidy_mapPiece (f : ρ → σ) {piece : Piece ρ} (tidy : PieceTidy allowed piece) :
    PieceTidy allowed (mapPiece f piece) := by
  cases piece with
  | body fragments => exact allTidy_mapAll f tidy
  | fixed text => exact tidy
  | raw text => exact tidy
  | _ => exact trivial

theorem tidy_map (f : ρ → σ) {fragment : List (Piece ρ)} (tidy : Tidy allowed fragment) :
    Tidy allowed (map f fragment) := by
  cases fragment with
  | nil => exact trivial
  | cons piece rest =>
    obtain ⟨sound, meets, tidyRest⟩ := tidy
    refine ⟨pieceTidy_mapPiece f sound, ?_, tidy_map f tidyRest⟩
    cases rest with
    | nil => exact fun _ none => nomatch none
    | cons next more =>
      rintro _ ⟨⟩
      exact mapPiece_meets f (meets next rfl)

theorem allTidy_mapAll (f : ρ → σ) {fragments : List (List (Piece ρ))}
    (tidy : AllTidy allowed fragments) : AllTidy allowed (mapAll f fragments) := by
  cases fragments with
  | nil => exact trivial
  | cons fragment rest => exact ⟨tidy_map f tidy.1, allTidy_mapAll f tidy.2⟩

end

mutual

theorem PieceTidy.mono {more : String → Prop} (wider : ∀ text, allowed text → more text)
    {piece : Piece ρ} (tidy : PieceTidy allowed piece) : PieceTidy more piece := by
  cases piece with
  | body fragments => exact AllTidy.mono wider tidy
  | fixed text => exact tidy
  | raw text => exact wider text tidy
  | _ => exact trivial

theorem Tidy.mono {more : String → Prop} (wider : ∀ text, allowed text → more text)
    {fragment : List (Piece ρ)} (tidy : Tidy allowed fragment) : Tidy more fragment := by
  cases fragment with
  | nil => exact trivial
  | cons piece rest => exact ⟨PieceTidy.mono wider tidy.1, tidy.2.1, Tidy.mono wider tidy.2.2⟩

theorem AllTidy.mono {more : String → Prop} (wider : ∀ text, allowed text → more text)
    {fragments : List (List (Piece ρ))} (tidy : AllTidy allowed fragments) :
    AllTidy more fragments := by
  cases fragments with
  | nil => exact trivial
  | cons fragment rest => exact ⟨Tidy.mono wider tidy.1, AllTidy.mono wider tidy.2⟩

end

end Fragment
end Cypher
