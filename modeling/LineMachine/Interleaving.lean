/-
# Several bindings and feedbacks

Lines can be run on bindings and feedback that are kept apart, each chosen by
its position.  A turn names both and the line.
-/

import LineMachine.Bindings.Pool
import LineMachine.Machine

namespace LineMachine

/-- Bindings and feedbacks, each named by its position. -/
structure Interleaving where
  bindings : Bindings.Pool
  feedbacks : List Feedback
deriving DecidableEq, Repr

namespace Interleaving

/-- A line for the bindings at one position and the feedback at another. -/
structure Turn where
  bindings : Nat
  feedback : Nat
  line : Text
deriving DecidableEq, Repr

/-- As many empty bindings and feedbacks as asked for. -/
def fresh (bindings feedbacks : Nat) : Interleaving :=
  ⟨List.replicate bindings ∅, List.replicate feedbacks {}⟩

/-- The feedback at a position; a position past the end has heard nothing. -/
def feedbackAt (s : Interleaving) (position : Nat) : Feedback := s.feedbacks.getD position {}

/-- Runs the line of a turn: the reply, and everything afterwards. -/
def step (s : Interleaving) (t : Turn) : Reply × Interleaving :=
  let (reply, b, f) := learn t.line (s.bindings.get t.bindings) (s.feedbackAt t.feedback)
  (reply, ⟨s.bindings.set t.bindings b, s.feedbacks.set t.feedback f⟩)

end Interleaving
end LineMachine
