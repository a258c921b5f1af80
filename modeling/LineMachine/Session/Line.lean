/-
# Lines at a keyboard

A line at a keyboard has no control characters.  Some of them are keys, enter and
backspace among them, and do something when they are struck; the others are
ignored (`Line.ofTyped?`).  Nothing that is done to a line brings one into it:
not typing on at its end, and not taking its last cluster away.
-/

import LineMachine.Text.Cluster.Basic

namespace LineMachine
namespace Keyboard

/-- A character that stands in a line when it is typed: any but the controls. -/
def isPrintable (c : Char) : Bool := !within [(0x00, 0x1F), (0x7F, 0x9F)] c.toNat

/-- A character that is a key of its own. -/
def isKey (c : Char) : Bool := within [(0x00, 0x1F), (0x7F, 0x7F)] c.toNat

/-- A text that can stand in a line. -/
structure Line where
  text : Text
  printable : text.all isPrintable := by decide
deriving DecidableEq, Repr

namespace Line

/-- The line before anything is typed. -/
def empty : Line where
  text := []
  printable := rfl

instance : Inhabited Line := ⟨empty⟩

theorem isPrintable_of_mem {line : Line} {c : Char} (h : c ∈ line.text) : isPrintable c :=
  List.all_eq_true.1 line.printable c h

/-- The line with another one typed at its end. -/
instance : Append Line where
  append line more :=
    { text := line.text ++ more.text
      printable := by rw [List.all_append, line.printable, more.printable, Bool.and_true] }

/-- The line without its last cluster. -/
def dropLast (line : Line) : Line where
  text := Cluster.dropLast line.text
  printable := List.all_eq_true.2 fun _ h => isPrintable_of_mem (Cluster.mem_of_mem_dropLast h)

/-- What comes into a line when a text is typed, unless the text strikes keys as
well. -/
def ofTyped? (t : Text) : Option Line :=
  if t.any isKey then none
  else some
    { text := t.filter isPrintable
      printable := List.all_eq_true.2 fun _ h => (List.mem_filter.1 h).2 }

/-- No character of a line is a key. -/
theorem any_isKey_text (line : Line) : line.text.any isKey = false := by
  refine List.any_eq_false.2 fun c hc => ?_
  have hprint := isPrintable_of_mem hc
  simp only [isPrintable, isKey, within, List.any_cons, List.any_nil] at hprint ⊢
  grind

/-- **Every line can be typed.** -/
theorem ofTyped?_text (line : Line) : ofTyped? line.text = some line := by
  have hall : line.text.filter isPrintable = line.text :=
    List.filter_eq_self.2 fun _ h => isPrintable_of_mem h
  simp only [ofTyped?, line.any_isKey_text, hall]
  rfl

end Line
end Keyboard
end LineMachine
