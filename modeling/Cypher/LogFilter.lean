import Cypher.Text.Alphanumeric
import Cypher.Text.Basic

/-!
# Log filters

A log filter is a list of directives with commas between them. A directive is a
level, or a target with a span in brackets, a field of the span in braces, and a
level behind an equals sign: `target[span{field}]=level`, where parts may be
left out. Nothing is logged here, but a filter that is malformed is refused.

A directive is read without the blanks at its ends. The places found in it are
then taken for places in the directive as it was given, so that blanks before
it shift its parts, and those behind it belong to the last one.
-/

namespace Cypher.LogFilter

/-- Why a filter is refused. -/
inductive Fault
  | malformed
  | unknownLevel
  /-- A part would begin or end inside a character. -/
  | dividedCharacter
  deriving DecidableEq, Repr

/-- What is being read, with the place in bytes at which it begins. -/
inductive Stage
  | start
  /-- A level or a target. -/
  | word
  | span (first : Nat)
  | field (first : Nat)
  | afterField
  | afterSpan
  | level (first : Nat)
  deriving DecidableEq, Repr

/-- A character that a level or a target may begin with. -/
def opensWord (c : Char) : Bool :=
  c == '-' || c == ':' || c == '_' || Text.isAlphanumeric c

/-- What stands behind a place of the directive. -/
def partFrom (directive : List Char) (place : Nat) : Except Fault (List Char) :=
  match Text.dropBytes? place directive with
  | some part => .ok part
  | none => .error .dividedCharacter

/-- Takes a part of the directive out, of which only the ends matter. -/
def takeOut (directive : List Char) (first last : Nat) : Except Fault Unit := do
  let _ ← partFrom directive first
  let _ ← partFrom directive last

/-- Reads the character at a place. -/
def Stage.next (directive : List Char) (place : Nat) (c : Char) : Stage → Except Fault Stage
  | start =>
      if c = '[' then .ok (span (place + 1))
      else if opensWord c then .ok word
      else .error .malformed
  | word =>
      if c = '=' then do takeOut directive 0 place; return level (place + 1)
      else if c = '[' then do takeOut directive 0 place; return span (place + 1)
      else .ok word
  | span first =>
      if c = ']' then do takeOut directive first place; return afterSpan
      else if c = '{' then do takeOut directive first place; return field (place + 1)
      else .ok (span first)
  | field first =>
      if c = '}' then do
        takeOut directive first place
        -- a field has a name
        if first = place then .error .malformed else return afterField
      else .ok (field first)
  | afterField => if c = ']' then .ok afterSpan else .error .malformed
  | afterSpan => if c = '=' then .ok (level (place + 1)) else .error .malformed
  | level first => .ok (level first)

/-- The names of the levels, the most silent first. -/
def levelNames : List String := ["off", "error", "warn", "info", "debug", "trace"]

/-- The value of a decimal numeral, which may have a plus sign. -/
def numeralValue? (text : List Char) : Option Nat :=
  let digits := match text with
    | '+' :: rest => rest
    | _ => text
  if digits.isEmpty || !digits.all Char.isDigit then none
  else some (digits.foldl (fun value c => 10 * value + (c.toNat - 0x30)) 0)

/-- A level is named, in either case, or given by its number. -/
def isLevel (text : List Char) : Bool :=
  levelNames.contains (String.ofList (text.map Char.toLower)) ||
    (numeralValue? text).any (· < levelNames.length)

/-- Ends a directive. The level behind an equals sign may be left out. -/
def Stage.finish (directive : List Char) : Stage → Except Fault Unit
  | word | afterSpan => .ok ()
  | level first => do
      let name ← partFrom directive first
      if name.isEmpty || isLevel name then return else .error .unknownLevel
  | _ => .error .malformed

/-- Reads the characters of a directive from a place on. -/
def readFrom (directive : List Char) (stage : Stage) (place : Nat) :
    List Char → Except Fault Unit
  | [] => stage.finish directive
  | c :: rest => do
      readFrom directive (← stage.next directive place c) (place + c.utf8Size) rest

/-- Checks one directive. -/
def checkDirective (directive : String) : Except Fault Unit :=
  readFrom directive.toList .start 0 (Text.trim directive).toList

/-- Checks all directives; what is empty between commas is none. -/
def check (filter : String) : Except Fault Unit :=
  ((filter.splitOn ",").filter (!·.isEmpty)).forM checkDirective

/-- What is said about the filter; nothing if the program breaks off. -/
def Fault.message? : Fault → Option String
  | malformed => some "invalid filter directive"
  | unknownLevel =>
      let reason := "error parsing level filter: expected one of " ++
        String.join (levelNames.map fun name => "\"" ++ name ++ "\", ") ++ "or a number 0-5"
      some (reason ++ ": " ++ reason)
  | dividedCharacter => none

example : isLevel ['W', 'a', 'r', 'n'] = true ∧ isLevel ['+', '0', '5'] = true := by decide
example : isLevel ['6'] = false ∧ isLevel ['+'] = false := by decide

end Cypher.LogFilter
