/-
# Filters

A filter chooses the events that reach the log.  It is written as directives
between commas.  Of the directives that concern an event the one with the
longest beginning of the target decides, of these one that asks for a field
before one that does not, and the last of equal ones; an event that no directive
concerns is dropped.
-/

import LineMachine.Log.Directive

namespace LineMachine
namespace Log

/-- The directives in the order they were given. -/
abbrev Filter := List Directive

namespace Filter

/-- Reads a filter.  Empty pieces between commas do not count; a filter without
directives hears errors only. -/
def parse? (t : Text) : Option Filter :=
  match (Lines.all ',' t).filter (· ≠ []) with
  | [] => some [{ target := [], level := .error }]
  | pieces => pieces.mapM Directive.parse?

/-- The filter where none is given: warnings, or everything worth debugging. -/
def standard (verbose : Bool) : Filter :=
  [{ target := [], level := if verbose then .debug else .warn }]

/-- The filter in force.  One that cannot be read counts as none. -/
def ofSetting (setting : Option Text) (verbose : Bool) : Filter :=
  (setting.bind parse?).getD (standard verbose)

/-- The directive that decides about an event, given the one found so far. -/
def choose (e : Event) (best : Option Directive) (d : Directive) : Option Directive :=
  if d.concerns e && best.all (·.yields d) then some d else best

/-- The level up to which an event is heard. -/
def levelFor (f : Filter) (e : Event) : Level :=
  ((f.foldl (choose e) none).map (·.level)).getD .off

/-- The event reaches the log. -/
def admits (f : Filter) (e : Event) : Bool := e.level.rank ≤ (levelFor f e).rank

/-- The log of a run: its events that the filter admits, in order. -/
def log (f : Filter) (es : List Event) : List Text := (es.filter f.admits).map Event.render

/-- The shorter beginning does not decide where a longer one does. -/
example :
    levelFor [{ target := [], level := .debug }, { target := "jada".toList, level := .warn }]
      (.learned []) = .warn := by
  decide

/-- A field is asked for before it is not. -/
example :
    (parse? "debug,[\x7bfeedback\x7d]=off,info".toList).map (·.admits (.learned [])) =
      some false := by
  decide +kernel

end Filter
end Log
end LineMachine
