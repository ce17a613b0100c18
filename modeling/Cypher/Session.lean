import Cypher.Compile
import Cypher.Text.Cluster

/-!
# Interactive sessions

A session builds one statement from the lines that it is given. After its
backspaces are done, a line is a command, which begins with a point, or a
payload. A payload that is refused, when it is read or when it is written, leaves
the session as it was.
-/

namespace Cypher

/-- The name under which the program presents itself. -/
def programName : String := "cypherkit"

def programVersion : String := "0.1.0"

/-- A statement under construction and its allocator. -/
structure Session where
  query : Query
  allocator : Allocator

/-- What a line asks for. -/
inductive Command
  | leave
  | help
  | present
  | reset
  | unknown (line : String)
  | payload (text : String)

/-- What is printed for a line. -/
structure Reply where
  lines : List String
  /-- Whether the time that it took is printed after the lines. -/
  timed : Bool
  /-- The code with which the program ends after it, if it does. -/
  ending : Option Nat

/-- The code of a program that breaks off. -/
def brokenCode : Nat := 101

/-- The command on a line without backspaces; a blank line has none. -/
def Command.ofLine? (line : String) : Option Command :=
  let text := Text.trim line
  match text.toList with
  | [] => none
  | '.' :: _ =>
      if text = ".exit" ∨ text = ".quit" then some .leave
      else if text = ".help" then some .help
      else if text = ".show" then some .present
      else if text = ".reset" then some .reset
      else some (.unknown text)
  | _ => some (.payload text)

/-- A reply that goes on. -/
def Reply.print (lines : List String) : Reply := ⟨lines, false, none⟩

/-- The reply to what is refused. -/
def Reply.refuse (error : Error) : Reply := .print ["Error: " ++ error.message]

/-- The commands of a session. -/
def helpLines : List String :=
  ["Commands:",
   "  .exit, .quit  Exit the REPL",
   "  .help         Show this help message",
   "  .show         Print the statement and its parameters",
   "  .reset        Start a new statement",
   "  <json>        Append a clause payload (object or array)"]

namespace Session

/-- A session without clauses. -/
def new : Session := ⟨.empty soleAllocator, .empty⟩

instance : Inhabited Session := ⟨new⟩

/-- What is printed first. -/
def banner : List String :=
  [programName ++ " REPL v" ++ programVersion,
   "Type .help for instructions, .exit to quit.",
   ""]

/-- The reply when the input ends. -/
def farewell : Reply := ⟨["CTRL-D"], false, some 0⟩

/-- Adds a payload and gives the statement after it. -/
def add (session : Session) (text : String) : Except Error (String × Session) := do
  -- the session is replaced at the end only, so what is refused leaves it alone
  let candidate ← session.query.addText text
  let (done, after) ← candidate.write session.allocator
  return (done.text, ⟨done, after⟩)

/-- The statement so far with its parameters. -/
def compile (session : Session) : Except Error (Compiled × Session) := do
  let (result, done, after) ← session.query.compile session.allocator
  return (result, ⟨done, after⟩)

/-- Does what a command asks for. -/
def answer (session : Session) : Command → Reply × Session
  | .leave => (⟨["Bye!"], false, some 0⟩, session)
  | .help => (.print helpLines, session)
  | .present =>
      match session.compile with
      | .ok (result, after) => (.print [result.toJson.pretty], after)
      | .error error => (.refuse error, session)
  | .reset => (.print ["(empty statement)"], new)
  | .unknown line => (.print ["Unknown command: " ++ line], session)
  | .payload text =>
      match session.add text with
      | .ok (statement, after) => (⟨[statement], true, none⟩, after)
      | .error error => (.refuse error, session)

/-- Does what a line asks for. A line whose backspaces divide a character breaks it off. -/
def hear (session : Session) (line : String) : Reply × Session :=
  match Text.applyBackspaces? line with
  | none => (⟨[], false, some brokenCode⟩, session)
  | some text =>
      match Command.ofLine? text with
      | none => (.print [], session)
      | some command => session.answer command

/-- The replies to lines up to the one that ends the session, or to the end of the input. -/
def replies (session : Session) : List String → List Reply
  | [] => [farewell]
  | line :: rest =>
      let (reply, after) := session.hear line
      if reply.ending.isSome then [reply] else reply :: after.replies rest

end Session
end Cypher
