import Cypher.Clause.Basic
import Cypher.Pattern.Check

/-!
# Checking clauses

What can be wrong with a clause does not depend on the names that are taken.
Checks are made in the order in which the clause is written, and the first one
that fails is the error.
-/

namespace Cypher

/-- The text has something in it besides blanks. -/
def checkNonBlank (key text : String) : Except Error Unit :=
  if Text.isBlankText text then .error (.shape key .nonEmptyString (.text text)) else .ok ()

def checkNonEmpty {α : Type} (key : String) (items : List α) : Except Error Unit :=
  if items.isEmpty then .error (.emptyList key) else .ok ()

def Assignment.check (assignment : Assignment) : Except Error Unit := do
  checkNonBlank "identifier" assignment.identifier
  if assignment.properties.isEmpty then
    .error (.shape "properties" .nonEmptyMap (.json (.object [])))

def Removal.check : Removal → Except Error Unit
  | properties identifier names => do
      checkNonBlank "identifier" identifier
      checkNonEmpty "properties" names
  | labels identifier names => do
      checkNonBlank "identifier" identifier
      checkNonEmpty "labels" names

def Deletion.check : Deletion → Except Error Unit
  | identifiers names => checkNonEmpty "identifiers" names
  | literal text => checkNonBlank "literal" text

def ProjectionItem.check (item : ProjectionItem) : Except Error Unit := do
  checkNonBlank "identifier" item.identifier
  match item.newName with
  | some newName => checkNonBlank "alias" newName
  | none => .ok ()

def Projection.check (key : String) : Projection → Except Error Unit
  | names given => checkNonEmpty key given
  | items given => do
      checkNonEmpty key given
      checkEach ProjectionItem.check given

def SortItem.check (item : SortItem) : Except Error Unit :=
  checkNonBlank "identifier" item.identifier

def Unwinding.check : Unwinding → Except Error Unit
  | expression text => checkNonBlank "value" text
  | values _ => .ok ()

/-- The count is a 64-bit integer. -/
def Page.check (page : Page) (count : Nat) : Except Error Unit :=
  if count < 1 <<< 63 then .ok ()
  else .error (.shape page.keyword.key .signedCount (.json (.number (.integer count))))

mutual

/-- Refuses a clause that cannot be written as part of a statement bound through the allocator. -/
def Clause.check (home : AllocatorId) : Clause → Except Error Unit
  | .spliced keyword text => checkNonBlank keyword.key text
  | .raw text => checkNonBlank "raw" text
  | .pattern use shape => shape.check use.mode
  | .assign _ assignment => assignment.check
  | .remove removal => removal.check
  | .delete _ deletion => deletion.check
  | .project stage distinct projection => projection.check (stage.keyword distinct).key
  | .sort items => do
      checkNonEmpty Keyword.order.key items
      checkEach SortItem.check items
  | .unwind source newName => do
      source.check
      checkNonBlank "as" newName
  | .page part count => part.check count
  | .restrict _ => .ok ()
  | .restrictBound _ => .ok ()
  | .forEach item list body => do
      checkNonBlank "variable" item
      checkNonBlank "list" list
      Clause.checkBody home Keyword.forEach.key body
  | .call body => Clause.checkBody home Keyword.call.key body

/-- A nested body binds through the allocator of what it stands in. -/
def Clause.checkBody (home : AllocatorId) (key : String) : Body Clause → Except Error Unit
  | ⟨_, pending, allocator⟩ => do
      if allocator ≠ home then .error (.composition (.foreignBody key))
      Clause.checkAll allocator pending

/-- The first clause that is refused says why. -/
def Clause.checkAll (home : AllocatorId) : List Clause → Except Error Unit
  | [] => .ok ()
  | clause :: rest => do
      clause.check home
      Clause.checkAll home rest

end

end Cypher
