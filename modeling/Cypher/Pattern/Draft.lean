import Cypher.Condition.Where
import Cypher.Pattern.Check

/-!
# Drafting patterns

Values inside a pattern become parameters named like their properties. The
conditions for which a pattern has no room are handed on to its clause; they
need an identifier, so a pattern that has none is given one.
-/

namespace Cypher

/-- What is asked for when a node needs an identifier. -/
def nodeIdentifier : String := "__n"

/-- What is asked for when a relationship needs an identifier. -/
def relationshipIdentifier : String := "__r"

/-- The text of a pattern, and the conditions that its clause has to add. -/
structure PatternText (ρ : Type) where
  text : Fragment ρ
  hoisted : Where ρ

/-- Fills the gaps of a pattern. -/
def PatternText.fill (names : List String) (pattern : PatternText Ref) : PatternText String :=
  ⟨pattern.text.fill names, pattern.hoisted.fill names⟩

/-- What a filter does to its pattern. -/
structure FilterText (ρ : Type) where
  subject : Option (Subject ρ)
  inside : Fragment ρ
  hoisted : Where ρ

variable {ρ : Type}

def Label.fragment : Label → Fragment ρ
  | all names => Fragment.names ":" names
  | any names => Fragment.names "|" names
  | resolved text => [.raw text]

/-- The label behind its colon; nothing when there is none. -/
def labelPart : Option Label → Fragment ρ
  | none => []
  | some label => if label.isEmpty then [] else .fixed ":" :: label.fragment

/-- The types behind their colon; nothing when there are none. -/
def typePart : List String → Fragment ρ
  | [] => []
  | names => .fixed ":" :: Fragment.names "|" names

/-- The range of hops; nothing when there are no bounds. -/
def Hops.segment (hops : Hops) : List Char :=
  match hops.min, hops.max with
  | none, none => []
  | some .infinite, _ => ['*']
  | _, some .infinite => ['*']
  | some (.finite min), none => '*' :: Decimal.numeral min ++ ['.', '.']
  | none, some (.finite max) => ['*', '.', '.'] ++ Decimal.numeral max
  | some (.finite min), some (.finite max) =>
      if min = max then '*' :: Decimal.numeral min
      else '*' :: Decimal.numeral min ++ ['.', '.'] ++ Decimal.numeral max

def Hops.fragment (hops : Hops) : Fragment ρ :=
  match hops.segment with
  | [] => []
  | segment => [.fixed (String.ofList segment)]

/-- A property with its operand. -/
def Properties.ask (separator : String) (owner : Fragment Ref) (properties : Properties) :
    Asking (List (Fragment Ref)) :=
  askAll (fun entry => do
    let operand ← entry.2.ask entry.1
    return owner ++ [.name entry.1, .fixed separator, operand.piece]) properties.entries

/-- Property values as a map; nothing when there are none. -/
def Properties.askInline (properties : Properties) : Asking (Fragment Ref) := do
  return braced (← properties.ask ": " [])

/-- Asks for the identifier that hoisted conditions need. -/
def askSubject (stem : String) : Option (Subject Ref) → Asking (Subject Ref)
  | some subject => return subject
  | none => return .synthesized (← ask (.identifier stem))

/-- Asks for the parameters of a filter, those inside the pattern first. -/
def Filter.ask (stem : String) (identifier : Option String) : Filter → Asking (FilterText Ref)
  | nothing => return ⟨identifier.map .given, [], .empty⟩
  | properties values => return ⟨identifier.map .given, ← values.askInline, .empty⟩
  | conditions required => do
      let inside ← required.inlineHalf.ask (.given (identifier.getD ""))
      if required.hoistedHalf.isEmpty then
        return ⟨identifier.map .given, inside.inline, .empty⟩
      else
        let subject ← askSubject stem (identifier.map .given)
        let hoisted ← required.hoistedHalf.ask subject
        return ⟨some subject, inside.inline, hoisted⟩

def subjectPart : Option (Subject ρ) → Fragment ρ
  | none => []
  | some subject => [subject.piece]

/-- Head and inside of a pattern, a space between them when both are there. -/
def headAndInside (head inside : Fragment ρ) : Fragment ρ :=
  if head.isEmpty then inside
  else if inside.isEmpty then head
  else head ++ .fixed " " :: inside

/-- The arrow around the inside of a relationship. -/
def Direction.around (direction : Direction) (inside : Fragment ρ) : Fragment ρ :=
  match direction with
  | forward => .fixed "-[" :: inside ++ [.fixed "]->"]
  | backward => .fixed "<-[" :: inside ++ [.fixed "]-"]
  | either => .fixed "-[" :: inside ++ [.fixed "]-"]

def Node.ask : Node → Asking (PatternText Ref)
  | raw text => return ⟨[.raw text], .empty⟩
  | pattern shape => do
      let filter ← shape.filter.ask nodeIdentifier shape.identifier
      let head := subjectPart filter.subject ++ labelPart shape.label
      return ⟨.fixed "(" :: headAndInside head filter.inside ++ [.fixed ")"], filter.hoisted⟩

def Relationship.ask : Relationship → Asking (PatternText Ref)
  | raw text => return ⟨[.raw text], .empty⟩
  | pattern shape => do
      let filter ← shape.filter.ask relationshipIdentifier shape.identifier
      let head := subjectPart filter.subject ++ typePart shape.types ++ shape.hops.fragment
      return ⟨shape.direction.around (headAndInside head filter.inside), filter.hoisted⟩

def PathElement.ask : PathElement → Asking (PatternText Ref)
  | node element => element.ask
  | relationship element => element.ask

/-- Patterns put together, with what they hand on in the same order. -/
def PatternText.together (join : List (Fragment ρ) → Fragment ρ) (parts : List (PatternText ρ)) :
    PatternText ρ :=
  ⟨join (parts.map PatternText.text), ⟨(parts.map fun part => part.hoisted.comparisons).flatten⟩⟩

def Pattern.ask : Pattern → Asking (PatternText Ref)
  | node single => single.ask
  | nodes siblings => return .together (Fragment.joinedBy ", ") (← askAll Node.ask siblings)
  | path elements => return .together List.flatten (← askAll PathElement.ask elements)

/-- The condition of a clause behind its patterns. -/
def hoistedPart (hoisted : Where ρ) : Fragment ρ :=
  if hoisted.isEmpty then [] else .fixed " WHERE " :: hoisted.expression

/-- Checks a node and writes it, binding its values. -/
def Node.compile (mode : Mode) (node : Node) (allocator : Allocator) :
    Except Error (PatternText String × Allocator) := do
  node.check mode
  return settle PatternText.fill node.ask allocator

/-- Checks a relationship and writes it, binding its values. -/
def Relationship.compile (mode : Mode) (relationship : Relationship) (allocator : Allocator) :
    Except Error (PatternText String × Allocator) := do
  relationship.check mode
  return settle PatternText.fill relationship.ask allocator

end Cypher
