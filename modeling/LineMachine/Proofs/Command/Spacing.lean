/-
# Blanks in a line

Blanks around a line do not change what it asks for; only where the line itself
is kept they show (`Command.ofLine_append_append`).  Inside a definition they
may also stand around the name and around the value
(`Command.Spacing.ofLine_define`): the first `define` and the first `=` are then
the ones that were written, whatever else the name and the value hold, unless
one of them holds `print`.
-/

import LineMachine.Proofs.Command.Definition
import LineMachine.Proofs.Machine.History
import LineMachine.Proofs.Source.OfText

namespace LineMachine

/-- The carriage return that goes with a newline is blank. -/
theorem Text.trim_dropReturn (line : Text) : trim line.dropReturn = trim line := by
  rw [dropReturn]
  split
  · rename_i h
    obtain ⟨l, rfl⟩ := List.getLast?_eq_some_iff.1 h
    rw [List.dropLast_concat, trim_append_right (by decide)]
  · rfl

namespace Command

open Text (cut?_append_append infix_append_append_iff)

theorem disjoint_of_blank {a key : Text} (ha : a.blank) (hkey : key.all fun c => !isBlank c) :
    a.Disjoint key := by
  intro c hc hk
  have hc' : ¬ isBlank c := by simpa using List.all_eq_true.1 hkey c hk
  exact Text.not_mem_of_blank ha hc' hc

/-- No blank is in a keyword. -/
theorem disjoint_printKey {a : Text} (ha : a.blank) : a.Disjoint printKey :=
  disjoint_of_blank ha (by decide)

theorem disjoint_defineKey {a : Text} (ha : a.blank) : a.Disjoint defineKey :=
  disjoint_of_blank ha (by decide)

/-! ### Around the line -/

/-- The command with `t` for the line, where it keeps that. -/
def keeping (t : Text) : Command → Command
  | .malformed _ => .malformed t
  | .unknown _ => .unknown t
  | .print payload => .print payload
  | .define name value => .define name value

@[simp] theorem definition?_keeping (t : Text) (c : Command) :
    (c.keeping t).definition? = c.definition? := by
  cases c <;> rfl

theorem ofDefinition_keeping (t line rest : Text) :
    ofDefinition t rest = (ofDefinition line rest).keeping t := by
  rw [ofDefinition, ofDefinition]
  cases Text.cut? ['='] rest <;> rfl

/-- **Blanks around a line** show only where the line is kept as it is. -/
theorem ofLine_append_append {a b : Text} (ha : a.blank) (hb : b.blank) (line : Text) :
    ofLine (a ++ line ++ b) = (ofLine line).keeping (a ++ line ++ b) := by
  have htrim : ∀ x y : Text, Text.trim ((a ++ x) ++ (y ++ b)) = Text.trim (x ++ y) := fun x y => by
    rw [← Text.trim_append_append ha hb (x ++ y)]
    simp only [List.append_assoc]
  rw [ofLine, ofLine, cut?_append_append (by decide) (disjoint_printKey ha) (disjoint_printKey hb),
    cut?_append_append (by decide) (disjoint_defineKey ha) (disjoint_defineKey hb)]
  cases Text.cut? printKey line with
  | some p => exact congrArg print (htrim p.1 p.2)
  | none =>
    cases Text.cut? defineKey line with
    | some p =>
      simp only [Option.map_none, Option.map_some, htrim]
      exact ofDefinition_keeping ..
    | none => rfl

/-- A line asks for what its trim asks for. -/
theorem ofLine_eq_keeping_trim (line : Text) : ofLine line = (ofLine line.trim).keeping line := by
  obtain ⟨a, b, ha, hb, h⟩ := Text.exists_append_trim_append line
  have hline := ofLine_append_append ha hb line.trim
  rwa [← h] at hline

/-- A carriage return at its end does not change what a line defines. -/
theorem definition?_ofLine_dropReturn (line : Text) :
    (ofLine line.dropReturn).definition? = (ofLine line).definition? := by
  rw [ofLine_eq_keeping_trim line.dropReturn, ofLine_eq_keeping_trim line, Text.trim_dropReturn,
    definition?_keeping, definition?_keeping]

/-! ### Inside a definition -/

/-- Blank text without newlines. -/
structure Blanks where
  text : Text := []
  blank : text.blank := by decide
  single : '\n' ∉ text := by decide

/-- Blanks around the parts of a definition. -/
structure Spacing where
  front : Blanks := {}
  beforeName : Blanks := {}
  afterName : Blanks := {}
  beforeValue : Blanks := {}
  back : Blanks := {}

namespace Spacing

variable {name value : Text} (s : Spacing)

/-- The name with its blanks. -/
def left (name : Text) : Text := s.beforeName.text ++ name ++ s.afterName.text

/-- The value with its blanks. -/
def right (value : Text) : Text := s.beforeValue.text ++ value ++ s.back.text

/-- The line that defines `name` to be `value`, with blanks around its parts. -/
def define (name value : Text) : Text :=
  s.front.text ++ defineKey ++ (s.left name ++ '=' :: s.right value)

theorem trim_left (name : Text) : (s.left name).trim = name.trim :=
  Text.trim_append_append s.beforeName.blank s.afterName.blank name

theorem trim_right (value : Text) : (s.right value).trim = value.trim :=
  Text.trim_append_append s.beforeValue.blank s.back.blank value

/-- What stands after the keyword holds `print` if the name or the value does. -/
theorem printKey_infix_iff :
    printKey <:+: s.left name ++ '=' :: s.right value ↔
      printKey <:+: name ∨ printKey <:+: value := by
  have hleft : printKey <:+: s.left name ↔ printKey <:+: name :=
    infix_append_append_iff (by decide) (disjoint_printKey s.beforeName.blank)
      (disjoint_printKey s.afterName.blank)
  have hright : printKey <:+: s.right value ↔ printKey <:+: value :=
    infix_append_append_iff (by decide) (disjoint_printKey s.beforeValue.blank)
      (disjoint_printKey s.back.blank)
  rw [Text.infix_append_cons_iff (by decide), hleft, hright]

/-- **A written definition is read back,** with any blanks around its parts. -/
theorem ofLine_define (hname : name.trim = name) (hvalue : value.trim = value) (heq : '=' ∉ name)
    (hp : ¬ printKey <:+: name) (hp' : ¬ printKey <:+: value) :
    ofLine (s.define name value) = .define name value := by
  have hfront : ∀ c, ¬ isBlank c → c ∉ s.front.text := fun c => Text.not_mem_of_blank s.front.blank
  have hprint : ¬ printKey <:+: s.front.text := fun h =>
    hfront 'p' (by decide) (h.subset (by decide))
  have hdefine : ¬ defineKey <:+: s.front.text := fun h =>
    hfront 'd' (by decide) (h.subset (by decide))
  have hrest : ¬ printKey <:+: s.left name ++ '=' :: s.right value := by
    rw [s.printKey_infix_iff, not_or]
    exact ⟨hp, hp'⟩
  refine ofLine_eq_define_iff.2 ⟨not_print_infix_insert hprint hrest, s.front.text, _,
    s.front.text ++ s.left name, s.right value, cut?_insert _ hdefine, by simp, ?_, ?_, ?_⟩
  · have hbefore := Text.not_mem_of_blank s.beforeName.blank (c := '=') (by decide)
    have hafter := Text.not_mem_of_blank s.afterName.blank (c := '=') (by decide)
    simp [left, hfront '=' (by decide), hbefore, hafter, heq]
  · rw [Text.trim_append_left s.front.blank, s.trim_left, hname]
  · rw [s.trim_right, hvalue]

/-- A definition with `print` in its name or its value is not one. -/
theorem exists_ofLine_define_eq_print (h : printKey <:+: name ∨ printKey <:+: value) :
    ∃ payload, ofLine (s.define name value) = .print payload := by
  have hline : printKey <:+: s.define name value :=
    (s.printKey_infix_iff.2 h).trans (List.suffix_append ..).isInfix
  obtain ⟨a, b, hcut⟩ := Text.exists_cut?_eq_some hline
  exact ⟨(a ++ b).trim, by rw [ofLine, hcut]⟩

theorem newline_not_mem_define (hname : '\n' ∉ name) (hvalue : '\n' ∉ value) :
    '\n' ∉ s.define name value := by
  have hkey : '\n' ∉ defineKey := by decide
  simp only [define, left, right, List.mem_append, List.mem_cons, s.front.single,
    s.beforeName.single, s.afterName.single, s.beforeValue.single, s.back.single, hkey, hname,
    hvalue, or_false, false_or]
  decide

end Spacing

end Command
end LineMachine
