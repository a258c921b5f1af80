/-
# The command line

Hands the program what it finds around it and brings its outputs home.  Input
from a pipe is read as a whole; at a terminal, which edits lines itself, each
line is answered before the next is read.
-/

import LineMachine.Program

namespace LineMachine
namespace Main

/-- The system's error number, which opening and reading give with different signs. -/
def isCode (n code : UInt32) : Bool := code = n || 0 - code = n

/-- The fault that the system's error stands for. -/
def faultOf : IO.Error → Fault
  | .noFileOrDirectory .. => .notFound
  | .inappropriateType _ code _ => if isCode 21 code then .isDirectory else .notDirectory
  | .invalidArgument _ code details =>
    if isCode 36 code then .nameTooLong else .device details.toList
  | e => .device e.toString.toList

/-- Opens a path and reads all there is. -/
def openSource (path : Text) : IO (Except Fault Source) := do
  if Char.ofNat 0 ∈ path then return .error .nulInName
  try
    return .ok { bytes := (← IO.FS.readBinFile (String.ofList path)).toList }
  catch e =>
    match faultOf e with
    | .isDirectory => return .ok { bytes := [], fault := some .isDirectory }
    | fault => return .error fault

/-- Reads a stream to its end. -/
partial def readAll (stream : IO.FS.Stream) (sofar : ByteArray) : IO ByteArray := do
  let more ← stream.read 4096
  if more.isEmpty then return sofar else readAll stream (sofar ++ more)

/-- Writes bytes to a stream. -/
def put (stream : IO.FS.Stream) (b : Bytes) : IO Unit := do
  stream.write ⟨b.toArray⟩
  stream.flush

/-- Writes the log and the errors, a text each. -/
def complain (log : List Text) (errors : Text) : IO Unit := do
  let stderr ← IO.getStderr
  put stderr (Utf8.encode (log.flatMap (· ++ ['\n']) ++ errors))

/-- Brings home what a run leaves. -/
def finish (o : Program.Outcome) : IO UInt32 := do
  put (← IO.getStdout) o.output
  complain o.log o.errors
  return UInt32.ofNat o.exit

/-- Answers lines until the input ends. -/
partial def converse (prompt : Bytes) (filter : Log.Filter) (m : Machine) : IO UInt32 := do
  let stdout ← IO.getStdout
  put stdout prompt
  let line := (← (← IO.getStdin).getLine).toList
  if line.isEmpty then return 0
  let t := Session.talk [] m ({ bytes := Utf8.encode line } : Source).read.1
  put stdout t.output
  complain (filter.log (t.replies.map Log.Event.ofReply)) []
  converse prompt filter t.machine

/-- Runs the program on a request that asks for a run. -/
def perform (args : List Text) (o : CommandLine.Options) : IO UInt32 := do
  let corpus ← o.corpus.mapM openSource
  let script ← o.script.mapM openSource
  let stdin ← IO.getStdin
  let atTerminal ← stdin.isTty
  let input ←
    if o.script.isSome || atTerminal then pure ByteArray.empty else readAll stdin .empty
  let w : Program.World := {
    corpusAt := fun _ => corpus.getD (.error .notFound)
    scriptAt := fun _ => script.getD (.error .notFound)
    input := { bytes := input.toList }
    terminal := ((← IO.getEnv "TERM").getD "").toList
    logSetting := (← IO.getEnv "JADA_LOG").map String.toList }
  if o.script.isNone && atTerminal then
    let before := Program.prepare o w
    let filter := Log.Filter.ofSetting w.logSetting o.verbose
    match before.result with
    | .error _ => finish (Program.outcome o w before)
    | .ok m =>
      put (← IO.getStdout) before.output
      complain (filter.log before.events) []
      converse (Utf8.encode o.promptText) filter m
  else finish (Program.run args w)

end Main
end LineMachine

open LineMachine in
/-- Runs the program on its arguments; the result is the exit code. -/
def main (args : List String) : IO UInt32 := do
  let args := args.map String.toList
  match CommandLine.parse args with
  | .error r => Main.finish (Program.refused r)
  | .ok .help => Main.finish Program.helped
  | .ok (.run o) => Main.perform args o
