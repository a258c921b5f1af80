/-
# Sessions through a pipe

A session whose lines come through a pipe reads a line, carries out its
backspaces, runs it unless it is blank, and goes on until its input ends.  It
shows no prompt, unless the terminal is of a kind that does no editing: then the
prompt stands before every line, and once more before the end of the input.
-/

import LineMachine.Activity
import LineMachine.Session.Backspace

namespace LineMachine
namespace Session

/-- The kinds of terminals that do no editing. -/
def plainTerminals : List Text := ["dumb".toList, "cons25".toList, "emacs".toList]

/-- The terminal does no editing.  The case of letters does not matter. -/
def isPlain (terminal : Text) : Bool := plainTerminals.contains (terminal.map Char.toLower)

/-- What is shown of a prompt to a session through a pipe. -/
def shownPrompt (terminal prompt : Text) : Bytes :=
  if isPlain terminal then Utf8.encode prompt else []

/-- What a session says to its lines: the output, the replies and the machine. -/
structure Talk where
  output : Bytes := []
  replies : List Reply := []
  machine : Machine

/-- Runs lines one after another, with `prompt` shown before each. -/
def talk (prompt : Bytes) : Machine → List Text → Talk
  | m, [] => { machine := m }
  | m, raw :: lines =>
    let line := Backspace.apply raw
    if line.blank then
      let rest := talk prompt m lines
      { rest with output := prompt ++ rest.output }
    else
      let (reply, m') := m.process line
      let rest := talk prompt m' lines
      { rest with
        output := prompt ++ reply.bytes ++ rest.output
        replies := reply :: rest.replies }

/-- What is said to a blank line: the prompt alone. -/
theorem talk_cons_of_blank (prompt : Bytes) (m : Machine) {raw : Text} (lines : List Text)
    (h : (Backspace.apply raw).blank) :
    talk prompt m (raw :: lines) =
      { talk prompt m lines with output := prompt ++ (talk prompt m lines).output } := by
  simp [talk, h]

/-- What is said to a line that is run: the prompt and its reply. -/
theorem talk_cons_of_not_blank (prompt : Bytes) (m : Machine) {raw : Text} (lines : List Text)
    (h : ¬ (Backspace.apply raw).blank) :
    talk prompt m (raw :: lines) =
      let (reply, m') := m.process (Backspace.apply raw)
      { talk prompt m' lines with
        output := prompt ++ reply.bytes ++ (talk prompt m' lines).output
        replies := reply :: (talk prompt m' lines).replies } := by
  simp [talk, h]

/-- Runs a session on the lines of a source. -/
def piped (prompt : Bytes) (m : Machine) (s : Source) : Activity Machine :=
  let (lines, fault) := s.read
  let t := talk prompt m lines
  { output := t.output ++ prompt
    events := t.replies.map Log.Event.ofReply
    result :=
      match fault with
      | none => .ok t.machine
      | some cause => .error (.unreadableInput cause) }

end Session
end LineMachine
