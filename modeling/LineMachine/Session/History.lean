/-
# The history of a session

The lines entered so far, the newest first.  A line equal to the newest is not
entered again, and the oldest make room once there are too many.
-/

import LineMachine.Session.Line

namespace LineMachine

open Keyboard (Line)

/-- Lines entered, the newest first. -/
structure History where
  entries : List Line := []
deriving DecidableEq, Repr, Inhabited

namespace History

/-- The most lines that are kept. -/
def limit : Nat := 100

/-- The history after a line is entered. -/
def add (h : History) (line : Line) : History :=
  if h.entries.head? = some line then h else ⟨(line :: h.entries).take limit⟩

/-- The line so many entries back; the newest is one back. -/
def lineAt? (h : History) (back : Nat) : Option Line :=
  match back with
  | 0 => none
  | n + 1 => h.entries[n]?

/-- **The line just entered is the newest.** -/
theorem lineAt?_add (h : History) (line : Line) : (h.add line).lineAt? 1 = some line := by
  simp only [add]
  split
  · rename_i he
    cases hs : h.entries <;> simp_all [lineAt?]
  · simp [lineAt?, limit]

/-- **Entering the newest line again changes nothing.** -/
theorem add_eq_self {h : History} {line : Line} (hl : h.lineAt? 1 = some line) :
    h.add line = h := by
  rw [add, if_pos (List.head?_eq_getElem?.trans hl)]

end History
end LineMachine
