import Cypher.CommandLine

/-!
# The program

Reads the arguments and the input, and prints what the library answers.
-/

namespace Cypher

/-- A time in seconds, as in `(0.0021s)`. -/
def elapsedText (nanoseconds : Nat) : String :=
  let ticks := (nanoseconds + 50000) / 100000
  String.ofList ('(' :: Decimal.numeral (ticks / 10000) ++ '.' ::
    Decimal.padded 4 (ticks % 10000) ++ ['s', ')'])

/-- The number of a system error, which may be given negated. -/
def errorNumber (code : UInt32) : Nat := min code.toNat (UInt32.size - code.toNat)

/-- What a failed reading means. -/
def readFault : IO.Error → ReadFault
  | .noFileOrDirectory .. => .notFound
  | .permissionDenied .. => .forbidden
  | .inappropriateType _ code _ => if errorNumber code = 21 then .isDirectory else .notDirectory
  | .invalidArgument .. => .nameTooLong
  | _ => .notText

/-- Compiles bytes that have to be text. -/
def compileBytes (format : OutputFormat) (unreadable : ReadFault → Report) (bytes : ByteArray) :
    Report :=
  match String.fromUTF8? bytes with
  | some text => format.compile text
  | none => unreadable .notText

/-- Reads the payload and compiles it. -/
def runCompile (source : PayloadSource) (format : OutputFormat) : IO Report :=
  match source with
  | .given text => return format.compile text
  | .missing => return .noPayload
  | .standardInput => do
      try
        return compileBytes format .unreadableInput (← (← IO.getStdin).readBinToEnd)
      catch fault => return .unreadableInput (readFault fault)
  | .file path => do
      try
        return compileBytes format (.unreadableFile path) (← IO.FS.readBinFile path)
      catch fault => return .unreadableFile path (readFault fault)

/-- Prints a reply, and the time since its line was read if it is wanted. -/
def printReply (reply : Reply) (start : Nat) : IO Unit := do
  reply.lines.forM IO.println
  if reply.timed then IO.println (elapsedText ((← IO.monoNanosNow) - start))
  (← IO.getStdout).flush

/-- Answers line after line and gives the code at the end. -/
partial def converse (input : IO.FS.Stream) (session : Session) : IO UInt32 := do
  let line ← input.getLine
  let start ← IO.monoNanosNow
  let (reply, after) :=
    if line.isEmpty then (Session.farewell, session) else session.hear line
  printReply reply start
  match reply.ending with
  | some code => return code.toUInt32
  | none => converse input after

/-- Prints a report and gives its code. -/
def finish (report : Report) : IO UInt32 := do
  IO.print report.output
  report.complaint.forM IO.eprintln
  return report.code.toUInt32

end Cypher

/-- Runs the program with its arguments. -/
def main (arguments : List String) : IO UInt32 := do
  match Cypher.Invocation.ofArguments arguments with
  | .error ending => Cypher.finish ending.report
  | .ok (.compile source format) => do Cypher.finish (← Cypher.runCompile source format)
  | .ok .converse => do
      Cypher.Session.banner.forM IO.println
      Cypher.converse (← IO.getStdin) .new
