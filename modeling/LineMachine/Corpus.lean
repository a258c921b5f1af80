/-
# The corpus

The reference text a machine is started with.  It is carried along and never
executed; what can be asked is its text and how many lines it has.  Its file is
read as a whole, so ill-formed bytes anywhere in it are a fault.
-/

import LineMachine.Source

namespace LineMachine

/-- A reference text. -/
structure Corpus where
  text : Text := []
deriving DecidableEq, Repr, Inhabited

namespace Corpus

/-- How many lines the text has: a newline ends a line, and text after the last
newline is one more. -/
def lineCount (c : Corpus) : Nat := (Lines.all '\n' c.text).length

/-- The text is empty. -/
def isEmpty (c : Corpus) : Bool := c.text.isEmpty

/-- The corpus at a path, given what opening the path comes to. -/
def load (path : Text) (opened : Except Fault Source) : Except Failure Corpus :=
  match opened >>= Source.readAll with
  | .ok text => .ok ⟨text⟩
  | .error cause => .error (.unreadableCorpus path cause)

/-- **A file is a corpus exactly when its bytes are well-formed.** -/
theorem load_eq_ok_iff {path : Text} {b : Bytes} {c : Corpus} :
    load path (.ok { bytes := b }) = .ok c ↔ b = Utf8.encode c.text := by
  rw [← Utf8.decode_eq_some_iff]
  cases h : Utf8.decode b <;> cases c <;> simp [load, Source.readAll, bind, Except.bind, h]

end Corpus
end LineMachine
