/-
# Commands

A line is one of four commands.  The keywords are found anywhere in the line,
inside words too, and `print` is looked for first:

| the line contains | command |
| --- | --- |
| `print` | print the rest of the line |
| else `define`, and the rest an `=` | define the name before the first `=` as what follows it |
| else `define` | malformed |
| neither | unknown |

The *rest* is the line without the first occurrence of the keyword, trimmed, so
what stands before the keyword takes part: `x=define 7` defines `x`.
-/

import LineMachine.Text.Blank
import LineMachine.Text.Cut

namespace LineMachine

/-- What a line asks for. -/
inductive Command where
  /-- Answer with the payload. -/
  | print (payload : Text)
  /-- Bind `name` to `value`. -/
  | define (name value : Text)
  /-- A definition without `=`, the whole line kept. -/
  | malformed (line : Text)
  /-- A line without a keyword, kept as it is. -/
  | unknown (line : Text)
deriving DecidableEq, Repr

namespace Command

/-- The keyword of printing. -/
def printKey : Text := "print".toList

/-- The keyword of defining. -/
def defineKey : Text := "define".toList

/-- The command of a definition, from the rest of its line. -/
def ofDefinition (line rest : Text) : Command :=
  match Text.cut? ['='] rest with
  | some (name, value) => .define name.trim value.trim
  | none => .malformed line

/-- The command a line stands for.  Every line stands for one. -/
def ofLine (line : Text) : Command :=
  match Text.cut? printKey line with
  | some (before, after) => .print (Text.trim (before ++ after))
  | none =>
    match Text.cut? defineKey line with
    | some (before, after) => ofDefinition line (Text.trim (before ++ after))
    | none => .unknown line

/-- **A line without keywords is unknown, and only such a line.** -/
theorem ofLine_eq_unknown_iff {line : Text} :
    (∃ t, ofLine line = .unknown t) ↔ ¬ printKey <:+: line ∧ ¬ defineKey <:+: line := by
  rw [← Text.cut?_eq_none_iff, ← Text.cut?_eq_none_iff, ofLine]
  cases Text.cut? printKey line with
  | some p => simp
  | none =>
    cases Text.cut? defineKey line with
    | none => simp
    | some p =>
      simp only [ofDefinition]
      split <;> simp

end Command
end LineMachine
