import Cypher.Proofs.Tidy

/-!
# References to parameters

What refers to a parameter in a statement is a dollar sign with a name right
behind it. A reader of the lexemes finds the references of a tidy fragment, each
one and nothing else, when the texts of the caller have no quotes and no dollar
sign.
-/

namespace Cypher

open Lexing

namespace Lexing

/-- The references to parameters: a dollar sign and the name right behind it. -/
def references : List (List Char) → List (List Char)
  | first :: second :: rest =>
      if first = ['$'] ∧ Kind.of second = .name then ('$' :: second) :: references (second :: rest)
      else references (second :: rest)
  | _ => []

example : references (lexemes "RETURN $x, '$y', `$z`, $`a b`, $ x".toList) =
    ["$x".toList, "$`a b`".toList] := by decide +kernel

/-- Lexemes in which a dollar sign only stands before a name, and the references among them. -/
inductive Referring : List (List Char) → List (List Char) → Prop
  | nil : Referring [] []
  | other {lexeme : List Char} {rest found : List (List Char)} : lexeme ≠ ['$'] →
      Referring rest found → Referring (lexeme :: rest) found
  | parameter {name : List Char} {rest found : List (List Char)} : Kind.of name = .name →
      Referring rest found → Referring (['$'] :: name :: rest) (('$' :: name) :: found)

theorem references_cons_of_ne {lexeme : List Char} (other : lexeme ≠ ['$'])
    (rest : List (List Char)) : references (lexeme :: rest) = references rest := by
  cases rest with
  | nil => rfl
  | cons next more => rw [references, if_neg fun both => other both.1]

theorem ne_dollar_of_name {lexeme : List Char} (name : Kind.of lexeme = .name) :
    lexeme ≠ ['$'] := by
  rintro rfl
  exact absurd name (by decide)

theorem references_eq {lexemes found : List (List Char)} (referring : Referring lexemes found) :
    references lexemes = found := by
  induction referring with
  | nil => rfl
  | other other _ ih => rw [references_cons_of_ne other, ih]
  | parameter name _ ih =>
    rw [references, if_pos ⟨rfl, name⟩, references_cons_of_ne (ne_dollar_of_name name), ih]

namespace Referring

variable {first second found found' : List (List Char)}

theorem append (here : Referring first found) (there : Referring second found') :
    Referring (first ++ second) (found ++ found') := by
  induction here with
  | nil => exact there
  | other other _ ih => exact .other other ih
  | parameter name _ ih => exact .parameter name ih

theorem of_calm (calm : ∀ lexeme ∈ first, lexeme ≠ ['$']) : Referring first [] := by
  induction first with
  | nil => exact .nil
  | cons lexeme rest ih =>
    simp only [List.forall_mem_cons] at calm
    exact .other calm.1 (ih calm.2)

/-- Text without a dollar sign refers to nothing. -/
theorem of_text {text : List Char} (calm : ∀ c ∈ text, c ≠ '$') : Referring (lexemes text) [] := by
  refine of_calm fun lexeme member => ?_
  rintro rfl
  have inside : '$' ∈ (lexemes text).flatten :=
    List.mem_flatten.mpr ⟨_, member, List.mem_singleton_self '$'⟩
  rw [flatten_lexemes] at inside
  exact calm _ inside rfl

theorem squeeze (here : Referring first found) (mode : Spacing.Mode) :
    Referring (Spacing.squeeze mode first) found := by
  have space : ([' '] : List Char) ≠ ['$'] := by decide
  have dollar : Kind.of ['$'] ≠ .blank := by decide
  induction here generalizing mode with
  | nil => exact .nil
  | other other _ ih =>
    rw [Spacing.squeeze]
    split
    · exact ih _
    · split
      · exact .other space (.other other (ih _))
      · exact .other other (ih _)
  | @parameter name rest found' isName _ ih =>
    have shown : Kind.of name ≠ .blank := by simp [isName]
    -- no space is put between the dollar sign and its name
    have flush : Spacing.squeeze .flush (name :: rest) = name :: Spacing.squeeze .flush rest := by
      simp [Spacing.squeeze, shown]
    rw [Spacing.squeeze, if_neg dollar, flush]
    split
    · exact .other space (.parameter isName (ih _))
    · exact .parameter isName (ih _)

end Referring
end Lexing

namespace Fragment

variable {ρ σ : Type}

mutual

def pieceParameters : Piece ρ → List ρ
  | .parameter ref => [ref]
  | .body fragments => allParameters fragments
  | .fixed _ | .raw _ | .name _ | .identifier _ => []

/-- The parameters that a fragment refers to, those of nested statements among them. -/
def parameters : List (Piece ρ) → List ρ
  | [] => []
  | piece :: rest => pieceParameters piece ++ parameters rest

def allParameters : List (List (Piece ρ)) → List ρ
  | [] => []
  | fragment :: rest => parameters fragment ++ allParameters rest

end

/-- A reference as it is written. -/
def reference (name : String) : List Char := '$' :: Name.written name.toList

mutual

theorem referring_lexemesFrom {fragment : List (Piece String)} (tidy : Tidy Keyed fragment)
    {run : List Char} (calm : ∀ c ∈ run, c ≠ '$') :
    Referring (lexemesFrom run fragment) ((parameters fragment).map reference) := by
  cases fragment with
  | nil => simpa [lexemesFrom, parameters] using Referring.of_text calm
  | cons piece rest =>
    obtain ⟨sound, _, tidyRest⟩ := tidy
    have behind : Referring (lexemesFrom [] rest) _ :=
      referring_lexemesFrom tidyRest fun _ none => nomatch none
    have text {text : String} (keyed : Keyed text) : ∀ c ∈ run ++ text.toList, c ≠ '$' := by
      intro c member
      rcases List.mem_append.mp member with before | here
      · exact calm c before
      · exact (keyed c here).2
    have name (given : String) :
        Referring (lexemes run ++ Name.written given.toList :: lexemesFrom [] rest)
          ((parameters rest).map reference) :=
      (Referring.of_text calm).append
        (.other (ne_dollar_of_name (Kind.of_written _)) behind)
    rw [parameters, List.map_append]
    -- text is put to the run, and all else stands behind the lexemes of the run
    cases piece with
    | fixed text' =>
      rw [lexemesFrom, pieceParameters]
      exact referring_lexemesFrom tidyRest (text sound)
    | raw text' =>
      rw [lexemesFrom, pieceParameters]
      exact referring_lexemesFrom tidyRest (text sound)
    | name given =>
      rw [lexemesFrom, pieceParameters]
      exact name given
    | identifier ref =>
      rw [lexemesFrom, pieceParameters]
      exact name ref
    | parameter ref =>
      rw [lexemesFrom, pieceParameters]
      exact (Referring.of_text calm).append (.parameter (Kind.of_written _) behind)
    | body fragments =>
      rw [lexemesFrom, pieceParameters]
      exact (Referring.of_text calm).append ((referring_allLexemes sound false).append behind)

theorem referring_allLexemes {fragments : List (List (Piece String))}
    (tidy : AllTidy Keyed fragments) (begun : Bool) :
    Referring (Spacing.squeezeAll begun (allLexemes fragments))
      ((allParameters fragments).map reference) := by
  cases fragments with
  | nil => simpa [allLexemes, Spacing.squeezeAll, allParameters] using Referring.nil
  | cons fragment rest =>
    have first : Referring (lexemesFrom [] fragment) _ :=
      referring_lexemesFrom tidy.1 fun _ none => nomatch none
    rw [allLexemes, Spacing.squeezeAll, allParameters, List.map_append]
    exact (first.squeeze _).append (referring_allLexemes tidy.2 _)

end

theorem balanced_of_keyed (text : String) (keyed : Keyed text) : Balanced text.toList :=
  balanced_of_calm fun c member => (keyed c member).1

/-- A statement refers to the parameters of its fragments, in the same order. -/
theorem references_joined {fragments : List (List (Piece String))}
    (tidy : AllTidy Keyed fragments) :
    references (lexemes (Spacing.joined (allChars fragments))) =
      (allParameters fragments).map reference := by
  rw [lexemes_joined_allChars (AllTidy.mono balanced_of_keyed tidy)]
  exact references_eq (referring_allLexemes tidy false)

end Fragment
end Cypher
