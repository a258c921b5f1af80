/-
# The demonstration

Two sample lines, one of each keyword.
-/

import LineMachine.Batch

namespace LineMachine
namespace Demo

/-- The sample lines. -/
def lines : List Text := ["print Hello, World!".toList, "define x = 10".toList]

/-- The sample lines as a source, the last one unfinished. -/
def source : Source := .ofText (Text.joinWith ['\n'] lines)

/-- **The sample lines are read as they are listed.** -/
theorem read_source : source.read = (lines, none) := by decide +kernel

end Demo
end LineMachine
