/-
# Running many lines

`Batch.run` reads the lines of a source, skips the blank ones, runs each of the
others on a machine, and writes one line of output for it: the answer, or
`error: ` and why there is none.  It ends

* when a line cannot be read: the lines before it have been run;
* when the writer is full: the line whose output did not fit has been run, and
  as much of that output as fitted was written;
* after the last line, when the writer is told once to bring its bytes home.

A line is run before its output is written, so a machine can be one line ahead
of what was written, never behind.
-/

import LineMachine.Machine
import LineMachine.Source

namespace LineMachine

/-- The line of output for a reply. -/
def Reply.line : Reply → Text
  | .ok answer => answer ++ ['\n']
  | .error e => "error: ".toList ++ e.message ++ ['\n']

/-- The bytes of output for a reply. -/
def Reply.bytes (r : Reply) : Bytes := Utf8.encode r.line

/-- The line had no answer. -/
def Reply.failed : Reply → Bool
  | .ok _ => false
  | .error _ => true

/-- How many lines were run, and how many of them had no answer. -/
structure Tally where
  processed : Nat := 0
  failed : Nat := 0
deriving DecidableEq, Repr

/-- Counts replies. -/
def Tally.ofReplies (rs : List Reply) : Tally := ⟨rs.length, rs.countP Reply.failed⟩

/-- Where output goes: how many bytes it still takes, if there is a limit, and
what it says when it cannot bring its bytes home. -/
structure Writer where
  room : Option Nat := none
  flushFault : Option Text := none
deriving DecidableEq, Repr

namespace Batch

/-- What became of a list of lines: the replies to those that were run, the
machine after them, the bytes written, and whether the writer was full. -/
structure Trace where
  replies : List Reply := []
  machine : Machine
  written : Bytes := []
  full : Bool := false

/-- Runs lines one after another and writes their output, into as much room as
there is. -/
def trace : Option Nat → Machine → List Text → Trace
  | _, m, [] => { machine := m }
  | room, m, line :: lines =>
    let (reply, m') := m.process line
    match room with
    | none =>
      let rest := trace none m' lines
      { rest with replies := reply :: rest.replies, written := reply.bytes ++ rest.written }
    | some n =>
      if reply.bytes.length ≤ n then
        let rest := trace (some (n - reply.bytes.length)) m' lines
        { rest with replies := reply :: rest.replies, written := reply.bytes ++ rest.written }
      else
        { replies := [reply], machine := m', written := reply.bytes.take n, full := true }

/-- What a run leaves behind: the replies in order, the bytes written, how often
the writer was told to bring them home, how it ended, and the machine. -/
structure Report where
  replies : List Reply
  written : Bytes
  flushes : Nat
  outcome : Except Failure Tally
  machine : Machine

/-- The lines that are run: those that are not blank. -/
def work (lines : List Text) : List Text := lines.filter fun line => !line.blank

/-- Runs the lines of a source on a machine and writes their output. -/
def run (m : Machine) (s : Source) (w : Writer) : Report :=
  let (lines, fault) := s.read
  let t := trace w.room m (work lines)
  let ends (flushes : Nat) (outcome : Except Failure Tally) : Report :=
    ⟨t.replies, t.written, flushes, outcome, t.machine⟩
  if t.full then ends 0 (.error .writerFull)
  else
    match fault, w.flushFault with
    | some cause, _ => ends 0 (.error (.unreadableLine (lines.length + 1) cause))
    | none, some message => ends 1 (.error (.unflushed message))
    | none, none => ends 1 (.ok (.ofReplies t.replies))

/-- Without a limit every line is run and all output is written. -/
theorem trace_none_cons (m : Machine) (line : Text) (lines : List Text) :
    trace none m (line :: lines) =
      { trace none (m.process line).2 lines with
        replies := (m.process line).1 :: (trace none (m.process line).2 lines).replies
        written := (m.process line).1.bytes ++ (trace none (m.process line).2 lines).written } :=
  rfl

end Batch
end LineMachine
