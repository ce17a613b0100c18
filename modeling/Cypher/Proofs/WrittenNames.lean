import Cypher.Proofs.PlacedConditions

/-!
# Written names are read back

A name is written as one token, a plain word or a text between backticks, and
the token is read back to what the name denotes: the text that it quotes, if it
is quoted already, and otherwise itself. Names with one of the separators
between them are read back one by one.
-/

namespace Cypher

open Lexing

namespace Name

/-- What a name stands for: a quoted one for what it quotes, every other one for itself. -/
inductive Denotes : List Char → List Char → Prop
  | quoted (content : List Char) : Denotes (quoted content) content
  | itself {name : List Char} (unquoted : ∀ content, name ≠ quoted content) : Denotes name name

/-! ## One name -/

/-- Reading a name gives what it denotes. -/
theorem denotes_read (name : List Char) : Denotes name (read name) := by
  rw [read]
  cases found : unquoted? name with
  | none =>
    refine .itself fun content same => ?_
    rw [unquoted?_eq_some_iff.mpr same] at found
    cases found
  | some content =>
    rw [unquoted?_eq_some_iff.mp found]
    exact .quoted content

theorem toList_escape (name : String) : (escape name).toList = written name.toList :=
  String.toList_ofList

theorem needsEscaping_escape (name : String) : needsEscaping (escape name) = false := by
  rw [needsEscaping, toList_escape, written_isName]

theorem escape_of_not_needsEscaping {name : String} (fine : needsEscaping name = false) :
    escape name = name := by
  rw [needsEscaping] at fine
  rw [escape, written, fine, if_neg Bool.false_ne_true, String.ofList_toList]

end Name

/-! ## Names in a row -/

namespace Lexing

/-- The names among the lexemes of a text. -/
def names (text : List Char) : List (List Char) :=
  (lexemes text).filter fun lexeme => Kind.of lexeme == .name

theorem lexemes_written (name : List Char) : lexemes (Name.written name) = [Name.written name] := by
  have alone := lexemes_written_append name opensApart_nil
  rwa [List.append_nil] at alone

theorem opensApart_append {text : List Char} (opens : text.head?.any separates = true)
    (rest : List Char) : OpensApart (text ++ rest) := by
  obtain ⟨first, begins, apart⟩ := (Option.any_eq_true _ _).mp opens
  obtain ⟨more, rfl⟩ := List.head?_eq_some_iff.mp begins
  rintro _ ⟨⟩
  exact apart

/-- Names with a separator between them that is apart at its two ends. -/
theorem lexemes_intercalate {separator : String} (apart : Fragment.SetsApart separator)
    (given : List (List Char)) :
    lexemes (separator.toList.intercalate (given.map Name.written)) =
      (lexemes separator.toList).intercalate (given.map fun name => [Name.written name]) := by
  obtain ⟨keyed, opens, closes⟩ := apart
  have idle : Phase.idle.after separator.toList = .idle :=
    after_eq_idle rfl (fun c member => (keyed c member).1) closes
  induction given with
  | nil => rfl
  | cons name rest ih =>
    cases rest with
    | nil => simpa using lexemes_written name
    | cons next more =>
      simp only [List.map_cons] at ih ⊢
      rw [List.intercalate_cons_cons, List.intercalate_cons_cons, List.append_assoc,
        lexemes_written_append name (opensApart_append opens _), lexemes_append, ih]
      · rfl
      · rw [idle]
        exact breaks_idle _

/-- Only the names are found between separators that have none. -/
theorem filter_intercalate {separator : List (List Char)}
    (nameless : ∀ lexeme ∈ separator, Kind.of lexeme ≠ .name) (given : List (List Char)) :
    (separator.intercalate (given.map fun name => [Name.written name])).filter
        (fun lexeme => Kind.of lexeme == .name) =
      given.map Name.written := by
  have nothing : separator.filter (fun lexeme => Kind.of lexeme == .name) = [] :=
    List.filter_eq_nil_iff.mpr fun lexeme member => by simpa using nameless lexeme member
  induction given with
  | nil => rfl
  | cons name rest ih =>
    cases rest with
    | nil => simp [Kind.of_written]
    | cons next more =>
      simp only [List.map_cons] at ih ⊢
      rw [List.intercalate_cons_cons, List.filter_append, List.filter_append, nothing, ih]
      simp [Kind.of_written]

end Lexing

namespace Name

theorem toList_escapeJoined (names : List String) (joiner : String) :
    (escapeJoined names joiner).toList =
      joiner.toList.intercalate ((names.map String.toList).map written) := by
  rw [escapeJoined, String.toList_intercalate, List.map_map, List.map_map]
  exact congrArg _ (List.map_congr_left fun name _ => toList_escape name)

/-- Names in a fragment are written as names in a row. -/
theorem text_names (separator : String) (names : List String) :
    (Fragment.names separator names : Fragment String).text = escapeJoined names separator := by
  rw [← String.toList_inj, toList_escapeJoined, Fragment.text, String.toList_ofList, Fragment.names,
    Fragment.chars_joinedBy, List.map_map, List.map_map]
  refine congrArg _ (List.map_congr_left fun name _ => ?_)
  simp [Fragment.chars, Fragment.pieceChars]

/-- A name is written as a plain word or between backticks; it is written so only once, and read
back to what it denotes. Names with one of the separators between them are as many tokens, with
the separator between two of them, and every token is read back to what its name denotes. -/
theorem escape_denotes :
    (∀ name : String,
      (isPlain (escape name).toList = true ∨ ∃ content, (escape name).toList = quoted content) ∧
        needsEscaping (escape name) = false ∧ escape (escape name) = escape name ∧
        Denotes name.toList (read (escape name).toList)) ∧
      ∀ joiner ∈ [":", "|", ", "], ∀ given : List String, ∃ tokens,
        lexemes (escapeJoined given joiner).toList =
            (lexemes joiner.toList).intercalate (tokens.map fun token => [token]) ∧
          names (escapeJoined given joiner).toList = tokens ∧
          List.Forall₂ (fun name token => Denotes name.toList (read token)) given tokens ∧
          (Fragment.names joiner given : Fragment String).text = escapeJoined given joiner := by
  have back (name : String) : Denotes name.toList (read (written name.toList)) := by
    rw [read_written]
    exact denotes_read name.toList
  constructor
  · intro name
    have fine := needsEscaping_escape name
    refine ⟨word_or_quoted fine, fine, escape_of_not_needsEscaping fine, ?_⟩
    rw [toList_escape]
    exact back name
  · intro joiner member given
    have apart : ∀ joiner ∈ [":", "|", ", "], Fragment.SetsApart joiner := by decide
    have nameless : ∀ joiner ∈ [":", "|", ", "], ∀ lexeme ∈ lexemes joiner.toList,
        Kind.of lexeme ≠ .name := by decide
    have found := lexemes_intercalate (apart joiner member) (given.map String.toList)
    refine ⟨(given.map String.toList).map written, ?_, ?_, ?_, text_names joiner given⟩
    · rw [toList_escapeJoined, found]
      simp only [List.map_map]
      rfl
    · rw [names, toList_escapeJoined, found]
      exact filter_intercalate (nameless joiner member) _
    · rw [List.map_map, List.forall₂_map_right_iff]
      exact List.forall₂_same.mpr fun name _ => back name

theorem escape_denotes_oddNames :
    ":" ∈ [":", "|", ", "] ∧ escapeJoined ["A", "`", "`b c`", ""] ":" = "A:````:`b c`:``" ∧
      ∃ tokens, names (escapeJoined ["A", "`", "`b c`", ""] ":").toList = tokens ∧
        List.Forall₂ (fun name token => Denotes name.toList (read token)) ["A", "`", "`b c`", ""]
          tokens := by
  obtain ⟨tokens, _, found, denote, _⟩ :=
    escape_denotes.2 ":" List.mem_cons_self ["A", "`", "`b c`", ""]
  exact ⟨List.mem_cons_self, by decide +kernel, tokens, found, denote⟩

end Name
end Cypher
