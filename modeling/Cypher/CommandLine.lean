import Cypher.LogFilter
import Cypher.Session

/-!
# The command line

`compile` reads one payload and prints its statement with the parameters;
`repl` holds a session. Options stand behind a command, the log filter also
before it, where the one behind it counts. An option is given once, and its value
follows it or is joined to it by an equals sign; a value that follows may not
look like an option. The log filter is looked at when all else is in order.
-/

namespace Cypher

/-- How a compiled query is printed. -/
inductive OutputFormat
  /-- On one line. -/
  | line
  | pretty
  deriving DecidableEq, Repr

/-- Where a payload comes from. -/
inductive PayloadSource
  | given (text : String)
  | file (path : String)
  | standardInput
  | missing
  deriving DecidableEq, Repr

/-- What the program is asked to do. -/
inductive Invocation
  | compile (source : PayloadSource) (format : OutputFormat)
  | converse
  deriving DecidableEq, Repr

/-- Why there is nothing to do. -/
inductive Ending
  | helpWanted
  | versionWanted
  | misused
  | badLogFilter (filter : String) (fault : LogFilter.Fault)
  deriving DecidableEq, Repr

/-- The form of an argument. -/
inductive Argument
  | long (name : String) (value : Option String)
  | short (letter : Char)
  /-- Only plain arguments may follow. -/
  | terminator
  | plain (text : String)
  deriving DecidableEq, Repr

/-- The options that have a value. -/
inductive OptionName
  | logFilter
  | payload
  | file
  | format
  deriving DecidableEq, Repr

inductive CommandName
  | compile
  | converse
  deriving DecidableEq, Repr

/-- A name and what stands behind its first equals sign. -/
def splitValue (text : List Char) : Argument :=
  let name := String.ofList (text.takeWhile (· != '='))
  match text.dropWhile (· != '=') with
  | [] => .long name none
  | _ :: value => .long name (some (String.ofList value))

/-- A lone hyphen is a plain argument; of joined letters the first one counts. -/
def Argument.ofText (text : String) : Argument :=
  match text.toList with
  | ['-', '-'] => .terminator
  | '-' :: '-' :: rest => splitValue rest
  | '-' :: letter :: _ => .short letter
  | _ => .plain text

def OutputFormat.ofText? (text : String) : Option OutputFormat :=
  if text = "ndjson" then some .line else if text = "pretty" then some .pretty else none

def OptionName.text : OptionName → String
  | logFilter => "log-level"
  | payload => "payload"
  | file => "file"
  | format => "format"

def CommandName.text : CommandName → String
  | compile => "compile"
  | converse => "repl"

/-- The options of the program, or of one of its commands. -/
def OptionName.allowed : Option CommandName → List OptionName
  | some .compile => [logFilter, payload, file, format]
  | _ => [logFilter]

/-- Whether the text may be the value of an option. -/
def OptionName.admits : OptionName → String → Bool
  | file, text => !text.isEmpty
  | format, text => (OutputFormat.ofText? text).isSome
  | _, _ => true

/-- The arguments that are read so far. -/
structure Arguments where
  command : Option CommandName
  /-- The options of the command, or of the program while there is no command. -/
  values : List (OptionName × String)
  /-- The option whose value is due. -/
  awaiting : Option OptionName
  /-- Whether the terminator was there. -/
  closed : Bool
  /-- The log filter in front of the command. -/
  outerFilter : Option String

namespace Arguments

/-- Nothing is read yet. -/
def start : Arguments := ⟨none, [], none, false, none⟩

def value? (arguments : Arguments) (option : OptionName) : Option String :=
  (arguments.values.find? fun entry => entry.1 == option).map Prod.snd

/-- Sets an option. -/
def give (arguments : Arguments) (option : OptionName) (value : String) :
    Except Ending Arguments :=
  if (arguments.value? option).isSome || !option.admits value then .error .misused
  else .ok { arguments with values := arguments.values ++ [(option, value)], awaiting := none }

/-- Reads an option by its name. -/
def acceptLong (arguments : Arguments) (name : String) (value : Option String) :
    Except Ending Arguments :=
  match (OptionName.allowed arguments.command).find? fun option => option.text == name with
  | some option =>
      match value with
      | some given => arguments.give option given
      | none => .ok { arguments with awaiting := some option }
  | none =>
      if value.isSome then .error .misused
      else if name = "help" then .error .helpWanted
      else if name = "version" ∧ arguments.command = none then .error .versionWanted
      else .error .misused

/-- Reads an option by its letter. -/
def acceptShort (arguments : Arguments) (letter : Char) : Except Ending Arguments :=
  if letter = 'h' then .error .helpWanted
  else if letter = 'V' ∧ arguments.command = none then .error .versionWanted
  else .error .misused

/-- Reads a plain argument: a value that is due, or the command. -/
def acceptPlain (arguments : Arguments) (text : String) : Except Ending Arguments :=
  match arguments.awaiting, arguments.command with
  | some option, _ => arguments.give option text
  | none, some _ => .error .misused
  | none, none =>
      match [CommandName.compile, .converse].find? fun command => command.text == text with
      | some command =>
          -- the options begin anew, so that the filter may be given again behind the command
          let outerFilter := arguments.value? .logFilter
          .ok { start with command := some command, outerFilter := outerFilter }
      | none => .error .misused

/-- Reads one argument. -/
def accept (arguments : Arguments) (text : String) : Except Ending Arguments :=
  if arguments.closed then .error .misused
  else
    match Argument.ofText text with
    | .plain text => arguments.acceptPlain text
    | other =>
        -- a value that is due cannot look like an option
        if arguments.awaiting.isSome then .error .misused
        else
          match other with
          | .long name value => arguments.acceptLong name value
          | .short letter => arguments.acceptShort letter
          | _ => .ok { arguments with closed := true }

/-- Where the payload comes from, which may be said only once. -/
def source? (arguments : Arguments) : Option PayloadSource :=
  match arguments.value? .payload, arguments.value? .file with
  | some _, some _ => none
  | some text, none => some (.given text)
  | none, some path => some (if path = "-" then .standardInput else .file path)
  | none, none => some .missing

/-- What all arguments together ask for, the log filter apart. -/
def invocation (arguments : Arguments) : Except Ending Invocation :=
  match arguments.awaiting, arguments.command with
  | none, some .converse => .ok .converse
  | none, some .compile =>
      match arguments.source? with
      | some source =>
          let format := (arguments.value? .format).bind OutputFormat.ofText?
          .ok (.compile source (format.getD .line))
      | none => .error .misused
  | _, _ => .error .misused

/-- The log filter that counts. -/
def filter? (arguments : Arguments) : Option String :=
  (arguments.value? .logFilter).or arguments.outerFilter

/-- What all arguments together ask for. -/
def finish (arguments : Arguments) : Except Ending Invocation := do
  let invocation ← arguments.invocation
  match arguments.filter? with
  | none => return invocation
  | some filter =>
      match LogFilter.check filter with
      | .ok () => return invocation
      | .error fault => .error (.badLogFilter filter fault)

/-- Whether the next plain argument is a command. -/
def isCommandDue (arguments : Arguments) : Bool :=
  arguments.command.isNone && arguments.awaiting.isNone && !arguments.closed

/-- The ending for a request for help, by what it is about. -/
def helpAbout (topic : List String) : Ending :=
  if topic ∈ [[], ["help"], [CommandName.compile.text], [CommandName.converse.text]] then
    .helpWanted
  else .misused

/-- Reads the rest of the arguments. -/
def readAll (arguments : Arguments) : List String → Except Ending Invocation
  | [] => arguments.finish
  | text :: rest =>
      if text = "help" ∧ arguments.isCommandDue then .error (helpAbout rest)
      else do (← arguments.accept text).readAll rest

end Arguments

/-- What the arguments of the program ask for. -/
def Invocation.ofArguments (arguments : List String) : Except Ending Invocation :=
  Arguments.start.readAll arguments

/-- What the program leaves behind. -/
structure Report where
  code : Nat
  output : String
  /-- What is said about a failure. -/
  complaint : Option String

/-- Why a payload cannot be read. -/
inductive ReadFault
  | notFound
  | forbidden
  | notDirectory
  | isDirectory
  | nameTooLong
  | notText
  deriving DecidableEq, Repr

def ReadFault.message : ReadFault → String
  | notFound => "No such file or directory (os error 2)"
  | forbidden => "Permission denied (os error 13)"
  | notDirectory => "Not a directory (os error 20)"
  | isDirectory => "Is a directory (os error 21)"
  | nameTooLong => "File name too long (os error 36)"
  | notText => "stream did not contain valid UTF-8"

namespace Report

def failure (complaint : String) : Report := ⟨1, "", some complaint⟩

/-- The report of a program that breaks off. -/
def broken : Report := ⟨brokenCode, "", none⟩

/-- The report about a log filter that is refused. -/
def badLogFilter (filter : String) (fault : LogFilter.Fault) : Report :=
  match fault.message? with
  | some message => failure ("invalid log filter `" ++ filter ++ "`: " ++ message)
  | none => broken

/-- The report when no payload was named. -/
def noPayload : Report := failure "either --payload or --file is required"

/-- The report about a file that cannot be read. -/
def unreadableFile (path : String) (fault : ReadFault) : Report :=
  failure ("failed to read payload file " ++ path ++ ": " ++ fault.message)

/-- The report about a standard input that cannot be read. -/
def unreadableInput (fault : ReadFault) : Report :=
  failure ("failed to read payload from stdin: " ++ fault.message)

end Report

def Ending.report : Ending → Report
  | helpWanted => ⟨0, "", none⟩
  | versionWanted => ⟨0, programName ++ " " ++ programVersion ++ "\n", none⟩
  | misused => ⟨2, "", none⟩
  | badLogFilter filter fault => .badLogFilter filter fault

/-- A compiled query as it is printed. -/
def OutputFormat.print (format : OutputFormat) (compiled : Compiled) : String :=
  match format with
  | line => compiled.toJson.compact ++ "\n"
  | pretty => compiled.toJson.pretty ++ "\n"

/-- Compiles the text of a payload and prints the result. -/
def OutputFormat.compile (format : OutputFormat) (text : String) : Report :=
  match (Query.empty soleAllocator).addText text with
  | .error error => .failure ("payload rejected: " ++ error.message)
  | .ok query =>
      match query.compiled with
      | .error error => .failure ("compilation failed: " ++ error.message)
      | .ok compiled => ⟨0, format.print compiled, none⟩

end Cypher
