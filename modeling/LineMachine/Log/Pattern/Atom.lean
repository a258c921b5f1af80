/-
# The smallest parts of patterns

A pattern describes the values of a field, as a regular expression does.  Its
smallest parts are characters, the point, edges, and classes of letters.  Which
of them may stand depends on the modes in force: a pattern of characters is
taken without tables of their classes and cases, and a pattern of bytes must not
match what is not UTF-8.

| part | characters | characters, of any case | bytes |
| --- | --- | --- | --- |
| a character | yes | no | not a byte above `7F` |
| the point | yes | yes | no |
| an edge of the text or of a line | yes | yes | yes |
| an edge of a word | no | no | yes |
| a class of letters | no | no | unless negated |
-/

import LineMachine.Text.Blank

namespace LineMachine
namespace Log
namespace Pattern

/-- How the text of a pattern is taken. -/
structure Modes where
  /-- The pattern is one of characters, otherwise of bytes. -/
  unicode : Bool := true
  /-- The case of letters does not count. -/
  anyCase : Bool := false
  /-- Blanks do not count, and `#` opens a comment up to the end of its line. -/
  spaced : Bool := false
deriving DecidableEq, Repr

namespace Modes

/-- The letters that stand for modes.  Those with no bearing on what is a
pattern are about lines, greed and line ends. -/
def letters : Text := "imsURux".toList

/-- The modes after one of them is switched. -/
def switch (m : Modes) (letter : Char) (on : Bool) : Modes :=
  if letter = 'u' then { m with unicode := on }
  else if letter = 'i' then { m with anyCase := on }
  else if letter = 'x' then { m with spaced := on }
  else m

end Modes

/-- The text from its first character that is neither blank nor in a comment. -/
def trimComments (inComment : Bool) : Text → Text
  | [] => []
  | c :: t =>
    if inComment then trimComments (c ≠ '\n') t
    else if isBlank c then trimComments false t
    else if c = '#' then trimComments true t
    else c :: t

/-- The text from its first character that counts. -/
def Modes.skip (m : Modes) (t : Text) : Text := if m.spaced then trimComments false t else t

/-- The first character behind blanks and one `#`, or else the first of all, by
which a hyphen in a set is judged. -/
def Modes.ahead (m : Modes) (t : Text) : Option Char :=
  if m.spaced then
    let u := t.trimStart
    let v := if u.head? = some '#' then Text.trimStart u.tail else u
    v.head?.or t.head?
  else t.head?

/-- A smallest part of a pattern. -/
inductive Atom where
  /-- A character, or a byte written with two digits. -/
  | literal (c : Char) (isByte : Bool)
  /-- The point. -/
  | anyChar
  /-- An edge of the text or of a line. -/
  | edge
  /-- An edge of a word, or none. -/
  | wordEdge
  /-- A class of letters. -/
  | letters (negated : Bool)
deriving DecidableEq, Repr

/-- The part may stand in a pattern. -/
def Modes.takes (m : Modes) : Atom → Bool
  | .literal c isByte => if m.unicode then !m.anyCase else !isByte || c.toNat < 0x80
  | .anyChar => m.unicode
  | .edge => true
  | .wordEdge => !m.unicode
  | .letters negated => !m.unicode && !negated

/-- The part may stand in a set of characters. -/
def Modes.collects (m : Modes) : Atom → Bool
  | .literal c _ => if m.unicode then !m.anyCase else c.toNat < 0x80
  | .letters negated => !m.unicode && !negated
  | .anyChar | .edge | .wordEdge => false

/-- The value of a hexadecimal digit. -/
def hexDigit? (c : Char) : Option Nat :=
  if c.isDigit then some (c.toNat - '0'.toNat)
  else if 'a' ≤ c ∧ c ≤ 'f' then some (c.toNat - 'a'.toNat + 10)
  else if 'A' ≤ c ∧ c ≤ 'F' then some (c.toNat - 'A'.toNat + 10)
  else none

/-- The number written in so many hexadecimal digits, after the digits of `n`,
and what follows them. -/
def hexNumber? (m : Modes) : Nat → Nat → Text → Option (Nat × Text)
  | 0, n, t => some (n, t)
  | _ + 1, _, [] => none
  | k + 1, n, c :: t => (hexDigit? c).bind fun d => hexNumber? m k (16 * n + d) (m.skip t)

/-- The character with a number of so many hexadecimal digits, and what follows. -/
def hexChar? (m : Modes) (digits : Nat) (t : Text) : Option (Atom × Text) :=
  (hexNumber? m digits 0 (m.skip t)).bind fun (n, rest) =>
    if n.isValidChar then some (.literal (Char.ofNat n) (digits = 2), rest) else none

/-- The characters that a letter behind a backslash stands for. -/
def controlLetters : List (Char × Nat) :=
  [('a', 0x07), ('t', 0x09), ('n', 0x0A), ('v', 0x0B), ('f', 0x0C), ('r', 0x0D)]

/-- Reads what stands behind a backslash, and what follows.  Signs of the ASCII
block stand for themselves, except the two that mean an edge of a word. -/
def escape? (m : Modes) : Text → Option (Atom × Text)
  | [] => none
  | c :: t =>
    if c = 'x' then hexChar? m 2 t
    else if c = 'u' then hexChar? m 4 t
    else if c = 'U' then hexChar? m 8 t
    else if c ∈ ['d', 's', 'w'] then some (.letters false, t)
    else if c ∈ ['D', 'S', 'W'] then some (.letters true, t)
    else if c ∈ ['A', 'z'] then some (.edge, t)
    else if c ∈ ['b', 'B', '<', '>'] then some (.wordEdge, t)
    else
      match controlLetters.lookup c with
      | some n => some (.literal (Char.ofNat n) false, t)
      | none => if c.toNat < 0x80 ∧ !c.isAlphanum then some (.literal c false, t) else none

/-- An edge of a word is refused among characters and may stand among bytes. -/
example : ({} : Modes).takes .wordEdge = false ∧ ({ unicode := false } : Modes).takes .wordEdge :=
  by decide

end Pattern
end Log
end LineMachine
