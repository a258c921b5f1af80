/-
# Sessions at a keyboard

At a terminal a line is edited before it is entered.  What is typed goes to its
end, backspace takes its last cluster, and up and down walk the history: the line
as typed so far waits below the newest entry and comes back when the walk
returns.  Enter runs the line; a blank one is neither run nor kept.  The session
ends with an interrupt, or when its input is closed on an empty line; on any
other line nothing comes of that.
-/

import LineMachine.Batch
import LineMachine.Session.History

namespace LineMachine
namespace Keyboard

/-- What can be done at a keyboard. -/
inductive Key where
  | type (line : Line)
  | up
  | down
  | backspace
  | enter
  | interrupt
  | close
deriving DecidableEq, Repr

/-- A line that is being edited: what it is now, how many entries back in the history
it came from, and the line that waits below the newest entry. -/
structure Editing where
  buffer : Line := .empty
  back : Nat := 0
  waiting : Line := .empty
deriving DecidableEq, Repr, Inhabited

namespace Editing

/-- One entry back, if there is one. -/
def up (h : History) (e : Editing) : Editing :=
  match h.lineAt? (e.back + 1) with
  | none => e
  | some line =>
    { buffer := line
      back := e.back + 1
      waiting := if e.back = 0 then e.buffer else e.waiting }

/-- One entry forward; from the newest back to the line that waits. -/
def down (h : History) (e : Editing) : Editing :=
  match e.back with
  | 0 => e
  | 1 => { e with buffer := e.waiting, back := 0 }
  | n + 2 => { e with buffer := (h.lineAt? (n + 1)).getD e.buffer, back := n + 1 }

/-- The line after a key that only edits it. -/
def press (h : History) (e : Editing) : Key → Editing
  | .type line => { e with buffer := e.buffer ++ line }
  | .backspace => { e with buffer := e.buffer.dropLast }
  | .up => e.up h
  | .down => e.down h
  | .enter | .interrupt | .close => e

end Editing

/-- A session: its machine, the lines entered, the line being edited, and
whether it goes on. -/
structure State where
  machine : Machine
  history : History := {}
  editing : Editing := {}
  ended : Bool := false
deriving DecidableEq, Repr, Inhabited

/-- What is said when a session is interrupted. -/
def interrupted : Text := "Interrupted\n".toList

/-- Enters a line: what is said, and the session afterwards, ready for the next. -/
def enter (s : State) (line : Line) : Text × State :=
  if line.text.blank then ([], { s with editing := {} })
  else
    let (reply, m) := s.machine.process line.text
    (reply.line, { s with machine := m, history := s.history.add line, editing := {} })

/-- Presses a key: what is said, and the session afterwards.  A session that has
ended takes no more keys. -/
def press (s : State) (k : Key) : Text × State :=
  if s.ended then ([], s)
  else
    match k with
    | .enter => enter s s.editing.buffer
    | .interrupt => (interrupted, { s with ended := true })
    | .close => ([], if s.editing.buffer = .empty then { s with ended := true } else s)
    | k => ([], { s with editing := s.editing.press s.history k })

/-- Presses keys one after another. -/
def pressAll (s : State) : List Key → Text × State
  | [] => ([], s)
  | k :: ks =>
    let (said, s') := press s k
    let (more, s'') := pressAll s' ks
    (said ++ more, s'')

/-- Makes several edits, each a list of keys: what is said to each. -/
def run (s : State) : List (List Key) → List Text × State
  | [] => ([], s)
  | edit :: edits =>
    let (said, s') := pressAll s edit
    let (more, s'') := run s' edits
    (said :: more, s'')

theorem pressAll_append (s : State) (as bs : List Key) :
    pressAll s (as ++ bs) =
      ((pressAll s as).1 ++ (pressAll (pressAll s as).2 bs).1,
        (pressAll (pressAll s as).2 bs).2) := by
  induction as generalizing s with
  | nil => simp [pressAll]
  | cons a as ih => simp [pressAll, ih, List.append_assoc]

end Keyboard
end LineMachine
