/-
# Events

What a run tells the log: each reply, that the corpus is loaded, that the
script is done.  An event has a level and comes from a target, the part of the
program it is told by.
-/

import LineMachine.Batch

namespace LineMachine
namespace Log

/-- How much is told: each level also tells what the levels before it tell. -/
inductive Level where
  | off
  | error
  | warn
  | info
  | debug
  | trace
deriving DecidableEq, Repr

namespace Level

/-- The place of a level in their order. -/
def rank : Level → Nat
  | .off => 0
  | .error => 1
  | .warn => 2
  | .info => 3
  | .debug => 4
  | .trace => 5

/-- The name of a level, in small letters. -/
def name : Level → Text
  | .off => "off".toList
  | .error => "error".toList
  | .warn => "warn".toList
  | .info => "info".toList
  | .debug => "debug".toList
  | .trace => "trace".toList

/-- The levels in order. -/
def all : List Level := [.off, .error, .warn, .info, .debug, .trace]

theorem getElem?_rank (l : Level) : all[l.rank]? = some l := by cases l <;> rfl

end Level

/-- What happened. -/
inductive Event where
  /-- A line was answered. -/
  | learned (answer : Text)
  /-- A line had no answer. -/
  | lineFailed (message : Text)
  /-- The corpus was loaded, with so many lines. -/
  | corpusLoaded (path : Text) (lines : Nat)
  /-- All lines of the script were read. -/
  | scriptFinished (tally : Tally)
deriving DecidableEq, Repr

namespace Event

/-- The event of a reply. -/
def ofReply : Reply → Event
  | .ok answer => .learned answer
  | .error e => .lineFailed e.message

/-- Replies are told at debug level, what concerns whole files at info level. -/
def level : Event → Level
  | .learned _ | .lineFailed _ => .debug
  | .corpusLoaded .. | .scriptFinished _ => .info

/-- Who tells: replies come from the loop over lines, the rest from the program. -/
def target : Event → Text
  | .learned _ | .lineFailed _ => "jada_vm::repl".toList
  | .corpusLoaded .. | .scriptFinished _ => "jada".toList

/-- The names of the fields of an event.  The message is one of them. -/
def fields : Event → List Text
  | .learned _ => ["message".toList, "feedback".toList]
  | .lineFailed _ => ["message".toList, "error".toList]
  | .corpusLoaded .. => ["message".toList, "path".toList, "lines".toList]
  | .scriptFinished _ => ["message".toList, "processed".toList, "failed".toList]

/-- The message and the fields of an event. -/
def text : Event → Text
  | .learned answer => "learning from feedback feedback=".toList ++ answer
  | .lineFailed message => "line failed error=".toList ++ message
  | .corpusLoaded path lines =>
    "loaded corpus path=".toList ++ path ++ " lines=".toList ++ Text.ofNat lines
  | .scriptFinished tally =>
    "script finished processed=".toList ++ Text.ofNat tally.processed ++
      " failed=".toList ++ Text.ofNat tally.failed

/-- The line of the log for an event: level, target, message and fields. -/
def render (e : Event) : Text :=
  e.level.name.map Char.toUpper ++ " ".toList ++ e.target ++ ": ".toList ++ e.text

end Event
end Log
end LineMachine
