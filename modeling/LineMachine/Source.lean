/-
# Sources of lines

A source delivers bytes and then ends, or fails.  Its lines are read one at a
time: a newline ends a line, one carriage return right before that newline goes
with it, and what stands after the last newline is a line of its own, kept as
it is, unless it is empty or the source fails instead of ending.

`Source.read` is the lines up to the first fault, and that fault.  A line is
checked when it is read, so the lines before an ill-formed one are there, and
the fault concerns the line after them (`Source.read_append_cons`).
-/

import LineMachine.Failure
import LineMachine.Text.Lines
import LineMachine.Text.Utf8

namespace LineMachine

/-- Bytes, and how they end: with `fault`, or as they should. -/
structure Source where
  bytes : Bytes
  fault : Option Fault := none
deriving DecidableEq, Repr

namespace Source

/-- The byte that ends a line. -/
def newline : UInt8 := 0x0A

/-- The byte that goes with a newline after it. -/
def carriageReturn : UInt8 := 0x0D

/-- The line without a carriage return at its end. -/
def dropReturn (line : Bytes) : Bytes :=
  if line.getLast? = some carriageReturn then line.dropLast else line

/-- The bytes of the lines that the source delivers. -/
def rawLines (s : Source) : List Bytes :=
  let (done, rest) := Lines.cut newline s.bytes
  done.map dropReturn ++ if rest = [] ∨ s.fault.isSome then [] else [rest]

/-- The texts of the lines before the first ill-formed one, and whether there is one. -/
def decodeLines : List Bytes → List Text × Bool
  | [] => ([], false)
  | l :: ls =>
    match Utf8.decode l with
    | none => ([], true)
    | some t =>
      let (ts, bad) := decodeLines ls
      (t :: ts, bad)

/-- The lines up to the first fault, and that fault. -/
def read (s : Source) : List Text × Option Fault :=
  let (lines, bad) := decodeLines s.rawLines
  (lines, if bad then some .illFormed else s.fault)

/-- The source of the bytes of a text. -/
def ofText (t : Text) : Source := { bytes := Utf8.encode t }

/-- The text of all bytes together.  A fault of the source comes first. -/
def readAll (s : Source) : Except Fault Text :=
  match s.fault, Utf8.decode s.bytes with
  | some fault, _ => .error fault
  | none, none => .error .illFormed
  | none, some t => .ok t

/-- **The first line comes off:** a well-formed line and its newline in front of
more bytes is read before anything in them. -/
theorem read_append_cons {l : Bytes} {t : Text} (hl : newline ∉ l)
    (ht : Utf8.decode (dropReturn l) = some t) (b : Bytes) (f : Option Fault) :
    read ⟨l ++ newline :: b, f⟩ = (t :: (read ⟨b, f⟩).1, (read ⟨b, f⟩).2) := by
  simp [read, rawLines, Lines.cut_append_cons hl, decodeLines, ht]

end Source
end LineMachine
