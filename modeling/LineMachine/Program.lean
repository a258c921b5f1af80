/-
# The program

A run of the program from its arguments and what it finds around it:

1. the arguments are read; a refusal or the usage text ends the run;
2. the corpus is loaded, if one is named;
3. the sample lines are run, if asked for;
4. the script is run if one is named, else a session is held.

Each part follows only if the one before did not fail.  A failure is reported
at the end and the exit code is 1; output that was written before it stays.
-/

import LineMachine.CommandLine.Usage
import LineMachine.Demo
import LineMachine.FileSystem
import LineMachine.Log.Filter
import LineMachine.Session.Keyboard
import LineMachine.Session.Piped

namespace LineMachine
namespace Program

open CommandLine

/-- What a run finds around it. -/
structure World where
  /-- What opening a path for the corpus comes to. -/
  corpusAt : Text → Except Fault Source
  /-- What opening a path for the script comes to, after the corpus. -/
  scriptAt : Text → Except Fault Source
  /-- What a session finds on the standard input. -/
  input : Source := { bytes := [] }
  /-- The kind of terminal. -/
  terminal : Text := "xterm".toList
  /-- What is set about the log. -/
  logSetting : Option Text := none

/-- The path of the corpus that the arguments name. -/
def corpusPath? (args : List Text) : Option Text :=
  match parse args with
  | .ok (.run o) => o.corpus
  | _ => none

/-- What a run with these arguments finds in a file system, with so much on the
standard input.  A corpus that is the standard input leaves nothing of it. -/
def World.ofFiles (fs : FileSystem) (input : Bytes) (args : List Text) : World :=
  let left := if (corpusPath? args).any fs.isInput then [] else input
  { corpusAt := fs.openPath { bytes := input }
    scriptAt := fs.openPath { bytes := left }
    input := { bytes := left } }

/-- What a run leaves: the exit code, the two outputs, and the log. -/
structure Outcome where
  exit : Nat
  output : Bytes
  errors : Text
  log : List Text
deriving DecidableEq, Repr

/-- Loads the corpus, if one is named, into a new machine. -/
def start (o : Options) (w : World) : Activity Machine :=
  match o.corpus with
  | none => .pure {}
  | some path =>
    match Corpus.load path (w.corpusAt path) with
    | .error f => .fail f
    | .ok corpus => .tell (.corpusLoaded path corpus.lineCount) { corpus }

/-- Runs the sample lines, if asked for. -/
def demonstrate (o : Options) (m : Machine) : Activity Machine :=
  if o.demo then (Batch.run m Demo.source {}).activity.andThen fun (m', _) => .pure m'
  else .pure m

/-- Runs a script. -/
def runScript (w : World) (path : Text) (m : Machine) : Activity Machine :=
  match w.scriptAt path with
  | .error cause => .fail (.unopenedScript path cause)
  | .ok source =>
    (Batch.run m source {}).activity.andThen fun (m', tally) => .tell (.scriptFinished tally) m'

/-- All that comes before a script or a session. -/
def prepare (o : Options) (w : World) : Activity Machine :=
  (start o w).andThen (demonstrate o)

/-- The whole run after the arguments are read. -/
def perform (o : Options) (w : World) : Activity Machine :=
  (prepare o w).andThen fun m =>
    match o.script with
    | some path => runScript w path m
    | none => Session.piped (Session.shownPrompt w.terminal o.promptText) m w.input

/-- What the run of an activity leaves. -/
def outcome (o : Options) (w : World) (a : Activity Machine) : Outcome where
  output := a.output
  log := (Log.Filter.ofSetting w.logSetting o.verbose).log a.events
  exit := if a.result.isOk then 0 else 1
  errors :=
    match a.result with
    | .ok _ => []
    | .error f => f.report

/-- What a run leaves whose arguments are refused. -/
def refused (r : Refusal) : Outcome := ⟨1, [], r.report, []⟩

/-- What a run leaves that only shows the usage text. -/
def helped : Outcome := ⟨0, Utf8.encode usage, [], []⟩

/-- Runs the program with its input on a pipe. -/
def run (args : List Text) (w : World) : Outcome :=
  match parse args with
  | .error r => refused r
  | .ok .help => helped
  | .ok (.run o) => outcome o w (perform o w)

/-- Runs the program with its input at a keyboard: what it writes before the
first prompt and in answer to each edit, and the exit code.  A run that holds no
session answers no edit.  The terminal is one that edits lines: on one that does
not (`Session.isPlain`) no key does what it does here. -/
def runAtKeyboard (args : List Text) (w : World) (edits : List (List Keyboard.Key)) :
    List Bytes × Nat :=
  match parse args with
  | .error _ => ([[]], 1)
  | .ok .help => ([helped.output], 0)
  | .ok (.run o) =>
    let before := prepare o w
    match before.result, o.script with
    | .ok m, none =>
      (before.output :: (Keyboard.run { machine := m } edits).1.map Utf8.encode, 0)
    | _, _ =>
      let all := outcome o w (perform o w)
      ([all.output], all.exit)

end Program
end LineMachine
