import Cypher.Allocator
import Cypher.Name
import Cypher.Spacing

/-!
# Drafts

A clause is written in two steps. Its draft asks the allocator for names and
has a gap wherever one of them goes, so it does not depend on what the
allocator holds. Granting the requests in turn and filling the gaps gives the
fragment that stands in the statement.
-/

namespace Cypher

/-- A name that is granted already, or the answer to one of the requests of a draft. -/
inductive Ref
  | granted (name : String)
  | asked (request : Nat)
  deriving DecidableEq, Repr

/-- The name, given the answers to the requests. -/
def Ref.resolve (names : List String) : Ref → String
  | granted name => name
  | asked request => names.getD request ""

/-- A piece of a fragment; `ρ` is what stands for an allocated name. -/
inductive Piece (ρ : Type)
  /-- Keywords and punctuation. -/
  | fixed (text : String)
  /-- Text of the caller, written as it is. -/
  | raw (text : String)
  /-- A name of the caller. -/
  | name (given : String)
  /-- An allocated identifier. -/
  | identifier (ref : ρ)
  /-- A reference to an allocated parameter. -/
  | parameter (ref : ρ)
  /-- The fragments of a nested statement. -/
  | body (fragments : List (List (Piece ρ)))

/-- What a clause contributes to a statement. -/
abbrev Fragment (ρ : Type) := List (Piece ρ)

namespace Fragment

variable {ρ σ : Type}

mutual

def mapPiece (f : ρ → σ) : Piece ρ → Piece σ
  | .fixed text => .fixed text
  | .raw text => .raw text
  | .name given => .name given
  | .identifier ref => .identifier (f ref)
  | .parameter ref => .parameter (f ref)
  | .body fragments => .body (mapAll f fragments)

/-- Replaces what stands for the allocated names. -/
def map (f : ρ → σ) : List (Piece ρ) → List (Piece σ)
  | [] => []
  | piece :: rest => mapPiece f piece :: map f rest

def mapAll (f : ρ → σ) : List (List (Piece ρ)) → List (List (Piece σ))
  | [] => []
  | fragment :: rest => map f fragment :: mapAll f rest

end

mutual

def pieceChars : Piece String → List Char
  | .fixed text => text.toList
  | .raw text => text.toList
  | .name given => Name.written given.toList
  | .identifier ref => Name.written ref.toList
  | .parameter ref => '$' :: Name.written ref.toList
  | .body fragments => Spacing.joined (allChars fragments)

/-- The text of a fragment; a nested statement is spaced on its own. -/
def chars : List (Piece String) → List Char
  | [] => []
  | piece :: rest => pieceChars piece ++ chars rest

def allChars : List (List (Piece String)) → List (List Char)
  | [] => []
  | fragment :: rest => chars fragment :: allChars rest

end

/-- The text of a fragment. -/
def text (fragment : Fragment String) : String := String.ofList (chars fragment)

/-- The fragments with the separator between them. -/
def joinedBy (separator : String) : List (Fragment ρ) → Fragment ρ
  | [] => []
  | [fragment] => fragment
  | fragment :: next :: rest => fragment ++ .fixed separator :: joinedBy separator (next :: rest)

/-- Names of the caller with the separator between them. -/
def names (separator : String) (given : List String) : Fragment ρ :=
  joinedBy separator (given.map fun name => [.name name])

end Fragment

/-- A computation that asks for names; its state is what it has asked for so far. -/
abbrev Asking := StateM (List Request)

/-- Asks for one name. -/
def ask (request : Request) : Asking Ref := fun asked => (.asked asked.length, asked ++ [request])

/-- Runs the drafts in order. -/
def askAll {α β : Type} (draft : α → Asking β) : List α → Asking (List β)
  | [] => pure []
  | item :: rest => do
      let first ← draft item
      let more ← askAll draft rest
      pure (first :: more)

/-- Grants what a draft asks for and fills its gaps. -/
def settle {α β : Type} (fill : List String → α → β) (draft : Asking α) (allocator : Allocator) :
    β × Allocator :=
  let (drafted, asked) := draft.run []
  let (names, after) := allocator.grantAll asked
  (fill names drafted, after)

/-- Fills the gaps of a fragment. -/
def Fragment.fill (names : List String) (fragment : Fragment Ref) : Fragment String :=
  Fragment.map (Ref.resolve names) fragment

end Cypher
