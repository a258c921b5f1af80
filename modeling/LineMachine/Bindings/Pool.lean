/-
# A growing list of bindings

Several sets of bindings side by side, each named by its position.  A step sets
a name in one of them, appends a copy of one, or appends an empty one.
-/

import LineMachine.Bindings.Basic

namespace LineMachine
namespace Bindings

/-- Sets of bindings, named by their positions. -/
abbrev Pool := List Bindings

namespace Pool

/-- What can be done to a pool. -/
inductive Step where
  /-- Bind `name` to `value` in the set at a position. -/
  | set (position : Nat) (name value : Text)
  /-- Append a copy of the set at a position. -/
  | clone (position : Nat)
  /-- Append an empty set. -/
  | new
deriving DecidableEq, Repr

/-- The bindings at a position; a position past the end has none. -/
def get (p : Pool) (position : Nat) : Bindings := p.getD position ∅

/-- The pool after a step. -/
def apply (p : Pool) : Step → Pool
  | .set i name value => p.set i ((p.get i).set name value)
  | .clone i => p ++ [p.get i]
  | .new => p ++ [∅]

/-- The pool after a list of steps. -/
def run (p : Pool) (steps : List Step) : Pool := steps.foldl apply p

/-- **Setting a name in one set changes no other set.** -/
theorem get_apply_set_of_ne (p : Pool) {i j : Nat} (name value : Text) (h : i ≠ j) :
    get (apply p (.set i name value)) j = get p j := by
  simp [get, apply, List.getD_eq_getElem?_getD, List.getElem?_set_ne h]

end Pool
end Bindings
end LineMachine
