/-
# The machine

A machine holds bindings, the feedback of its last answered line, and a corpus.
A line is read as a command (`Command.ofLine`), executed, and answered; an
answer becomes the feedback.  Only a definition changes the bindings, and only
a malformed definition gets no answer: it leaves the machine as it was
(`Machine.process_eq_self_of_error`).
-/

import LineMachine.Bindings.Basic
import LineMachine.Command
import LineMachine.Corpus

namespace LineMachine

/-- The definition of a line cannot be read. -/
structure Malformed where
  /-- The line as it was given. -/
  line : Text
deriving DecidableEq, Repr

/-- What the user is told about a malformed definition. -/
def Malformed.message (e : Malformed) : Text :=
  "malformed define, expected `name = value`: ".toList ++ e.line

/-- What a line is answered with, or why it is not. -/
abbrev Reply := Except Malformed Text

namespace Command

/-- The answer to every unknown command. -/
def unknownAnswer : Text := "Code execution logic for J-Ada goes here.".toList

/-- The answer to a definition. -/
def definedAnswer (name value : Text) : Text :=
  "Defined ".toList ++ name ++ " = ".toList ++ value

/-- Carries out a command: the reply, and the bindings afterwards. -/
def execute (b : Bindings) : Command → Reply × Bindings
  | .print payload => (.ok payload, b)
  | .define name value => (.ok (definedAnswer name value), b.set name value)
  | .malformed line => (.error ⟨line⟩, b)
  | .unknown _ => (.ok unknownAnswer, b)

/-- **The reply depends on the command alone.** -/
theorem execute_fst (b c : Bindings) (cmd : Command) :
    (cmd.execute b).1 = (cmd.execute c).1 := by
  cases cmd <;> rfl

end Command

/-- The last answer given, if any was. -/
structure Feedback where
  last : Option Text := none
deriving DecidableEq, Repr, Inhabited

namespace Feedback

/-- The feedback after `t` is recorded: the last record wins. -/
def record (_ : Feedback) (t : Text) : Feedback := ⟨some t⟩

/-- The feedback after a reply: an answer is recorded, a malformed definition is not. -/
def hear (f : Feedback) : Reply → Feedback
  | .ok t => f.record t
  | .error _ => f

end Feedback

/-- Runs one line on bindings and feedback: the reply, and both afterwards. -/
def learn (line : Text) (b : Bindings) (f : Feedback) : Reply × Bindings × Feedback :=
  let (reply, b') := (Command.ofLine line).execute b
  (reply, b', f.hear reply)

/-- A corpus, bindings and feedback. -/
structure Machine where
  corpus : Corpus := {}
  bindings : Bindings := ∅
  feedback : Feedback := {}
deriving DecidableEq, Repr, Inhabited

namespace Machine

/-- Runs one line on the machine: the reply, and the machine afterwards. -/
def process (m : Machine) (line : Text) : Reply × Machine :=
  let (reply, b, f) := learn line m.bindings m.feedback
  (reply, { m with bindings := b, feedback := f })

/-- The machine with feedback that no line of its own gave. -/
def record (m : Machine) (t : Text) : Machine := { m with feedback := m.feedback.record t }

/-- **A malformed definition changes nothing.** -/
theorem process_eq_self_of_error {m : Machine} {line : Text} {e : Malformed}
    (h : (m.process line).1 = .error e) : (m.process line).2 = m := by
  simp only [process, learn] at h ⊢
  cases hc : Command.ofLine line <;> simp_all [Command.execute, Feedback.hear]

end Machine
end LineMachine
