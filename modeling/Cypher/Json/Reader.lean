import Cypher.Json.Token

/-!
# Reading JSON

The tokens of a text are read by a machine that keeps the arrays and objects
still open, innermost first. The first token that may not stand where it
stands makes the text malformed; a text whose tokens are used up while
something is missing has ended too early.
-/

namespace Cypher.Json

/-- An array or object that is not closed yet. -/
inductive Open
  /-- The items so far, last one first. -/
  | array (items : List Json)
  /-- An object in which the value of a name is due. -/
  | entry (entries : List (String × Json)) (name : String)

/-- What the reader waits for. -/
inductive Reading
  | dueValue (around : List Open)
  /-- The first item of an array, or its end. -/
  | dueItem (around : List Open)
  /-- The first name of an object, or its end. -/
  | dueFirst (around : List Open)
  /-- A name, after a comma. -/
  | dueName (entries : List (String × Json)) (around : List Open)
  /-- The colon after a name. -/
  | dueColon (entries : List (String × Json)) (name : String) (around : List Open)
  /-- A comma or the end of the innermost array. -/
  | afterItem (items : List Json) (around : List Open)
  /-- A comma or the end of the innermost object. -/
  | afterEntry (entries : List (String × Json)) (around : List Open)
  /-- Nothing more. -/
  | finished (result : Json)

/-- Puts a complete value into the innermost open array or object. -/
def Reading.complete (value : Json) : List Open → Reading
  | [] => .finished value
  | .array items :: around => .afterItem (value :: items) around
  | .entry entries name :: around => .afterEntry (setEntry name value entries) around

/-- A token where a value is due. With `limit` arrays and objects open none may be opened. -/
def startValue (limit : Nat) (around : List Open) : Token → Except Fault Reading
  | .openArray => if around.length < limit then .ok (.dueItem around) else .error .malformed
  | .openObject => if around.length < limit then .ok (.dueFirst around) else .error .malformed
  | .text value => .ok (.complete (.string value) around)
  | .scalar value => .ok (.complete value around)
  | .brokenText fault => .error fault
  | .broken fault => .error fault
  | _ => .error .malformed

/-- A token where a name is due. -/
def startName (entries : List (String × Json)) (around : List Open) :
    Token → Except Fault Reading
  | .text name => .ok (.dueColon entries name around)
  | .brokenText fault => .error fault
  | _ => .error .malformed

/-- Reads one token. -/
def Reading.next (limit : Nat) : Reading → Token → Except Fault Reading
  | .dueValue around, token => startValue limit around token
  | .dueItem around, .closeArray => .ok (.complete (.array []) around)
  | .dueItem around, token => startValue limit (.array [] :: around) token
  | .dueFirst around, .closeObject => .ok (.complete (.object []) around)
  | .dueFirst around, token => startName [] around token
  | .dueName entries around, token => startName entries around token
  | .dueColon entries name around, .colon => .ok (.dueValue (.entry entries name :: around))
  | .dueColon _ _ _, _ => .error .malformed
  | .afterItem items around, .comma => .ok (.dueValue (.array items :: around))
  | .afterItem items around, .closeArray => .ok (.complete (.array items.reverse) around)
  | .afterItem _ _, _ => .error .malformed
  | .afterEntry entries around, .comma => .ok (.dueName entries around)
  | .afterEntry entries around, .closeObject => .ok (.complete (.object entries) around)
  | .afterEntry _ _, _ => .error .malformed
  | .finished _, _ => .error .malformed

/-- Reads the tokens to their end. -/
def Reading.run (limit : Nat) : Reading → List Token → Except Fault Json
  | .finished value, [] => .ok value
  | _, [] => .error .unexpectedEnd
  | reading, token :: rest =>
      match reading.next limit token with
      | .ok after => after.run limit rest
      | .error fault => .error fault

/-- The value a text stands for, with at most `limit` arrays and objects inside each other. -/
def readNested (limit : Nat) (text : String) : Except Fault Json :=
  (Reading.dueValue []).run limit (Token.tokens text.toList)

/-- How many arrays and objects may stand inside each other. -/
def nestingLimit : Nat := 127

/-- The value a text stands for. -/
def read (text : String) : Except Fault Json := readNested nestingLimit text

end Cypher.Json
