/-
# Patterns

A pattern is made of parts one after another (`Atom`, sets, groups), of
alternatives between bars, and of the operators `*`, `+` and `?` behind what
they repeat.  A group stands between parentheses; it can have a name, or switch
modes inside of it, and modes can be switched up to the end of the group around.
Counts of repetitions, written between braces, are no part of the notation.

Only whether a text is a pattern matters here (`Pattern.wellFormed`): nothing
that is logged has values to describe.  It is read from the left, with the
groups that are open kept apart (`Branching`), since the nesting of parts has a
limit.
-/

import LineMachine.Log.Pattern.Set
import LineMachine.Text.Alphanumeric

namespace LineMachine
namespace Log
namespace Pattern

/-- The deepest nesting of a pattern. -/
def nestingLimit : Nat := 250

/-- The parts of a group that is being read. -/
structure Branching where
  /-- How many parts the last alternative has. -/
  count : Nat := 0
  /-- How deep these parts are nested. -/
  depth : Nat := 0
  /-- How deep the last of them is nested, if an operator can repeat it. -/
  last : Option Nat := none
  /-- How deep the alternatives before are nested, if there are any. -/
  before : Option Nat := none
deriving DecidableEq, Repr

namespace Branching

/-- The group after one more part. -/
def add (b : Branching) (depth : Nat) : Branching :=
  { b with count := b.count + 1, depth := max b.depth depth, last := some depth }

/-- The group after modes are switched in it, which no operator can repeat. -/
def addModes (b : Branching) : Branching := { b with count := b.count + 1, last := none }

/-- The group after its last part is repeated. -/
def repeat? (b : Branching) : Option Branching :=
  b.last.map fun d => { b with depth := max b.depth (d + 1), last := some (d + 1) }

/-- How deep the last alternative is nested. -/
def nesting (b : Branching) : Nat := if b.count ≤ 1 then b.depth else b.depth + 1

/-- The group behind a bar. -/
def next (b : Branching) : Branching :=
  { before := some (max (b.before.getD 0) b.nesting) }

/-- How deep all alternatives are nested. -/
def total (b : Branching) : Nat :=
  match b.before with
  | none => b.nesting
  | some d => max d b.nesting + 1

end Branching

/-- Reads letters of modes up to a colon or a closing parenthesis: the modes,
whether a group follows, and the rest.  Behind a hyphen modes are switched off.
No letter comes twice, and no hyphen comes last. -/
def modes? (seen : Text) (on : Bool) (m : Modes) : Text → Option (Modes × Bool × Text)
  | [] => none
  | c :: t =>
    if c = ':' ∨ c = ')' then
      if seen.head? = some '-' ∨ (c = ')' ∧ seen = []) then none else some (m, c = ':', t)
    else if c ∈ seen then none
    else if c = '-' then modes? (c :: seen) false m t
    else if c ∈ Modes.letters then modes? (c :: seen) on (m.switch c on) t
    else none

/-- A character of the name of a group. -/
def isNameChar (c : Char) : Bool := isAlphanumeric c || c ∈ ['_', '.', '[', ']']

/-- Reads the name of a group up to the sign that closes it, and gives it and
the rest.  It begins with a letter or a low line, and no other group has it. -/
def name? (taken : List Text) (t : Text) : Option (Text × Text) :=
  let name := t.takeWhile (· ≠ '>')
  match t.drop name.length with
  | '>' :: rest =>
    if name.head?.any (fun c => isAlphabetic c || c = '_') && name.all isNameChar &&
        !taken.contains name then
      some (name, rest)
    else none
  | _ => none

/-- What stands behind an opening parenthesis. -/
inductive Opening where
  /-- A group, the modes in it, and the names of groups so far. -/
  | group (modes : Modes) (taken : List Text)
  /-- Modes that are switched. -/
  | switch (modes : Modes)
deriving DecidableEq, Repr

/-- Reads what stands behind an opening parenthesis, and gives the rest. -/
def opening? (m : Modes) (taken : List Text) (t : Text) : Option (Opening × Text) :=
  match m.skip t with
  | '?' :: 'P' :: '<' :: rest => named rest
  | '?' :: '<' :: rest => named rest
  | '?' :: rest =>
    (modes? [] true m rest).map fun (modes, isGroup, rest) =>
      (if isGroup then .group modes taken else .switch modes, rest)
  | rest => some (.group m taken, rest)
where
  /-- Reads the name of a group. -/
  named (rest : Text) : Option (Opening × Text) :=
    (name? taken rest).map fun (name, rest) => (.group m (name :: taken), rest)

/-- Reads a pattern to its end and gives how deep it is nested.  The groups in
`outer` are those around, with the modes in them. -/
def readAll : Nat → Modes → List Text → Branching → List (Branching × Modes) → Text → Option Nat
  | 0, _, _, _, _, _ => none
  | fuel + 1, m, taken, b, outer, t =>
    let part (a : Atom) (rest : Text) : Option Nat :=
      if m.takes a then readAll fuel m taken (b.add 0) outer rest else none
    match m.skip t with
    | [] => if outer = [] then some b.total else none
    | '(' :: rest =>
      match opening? m taken rest with
      | none => none
      | some (.switch m', rest) => readAll fuel m' taken b.addModes outer rest
      | some (.group m' taken, rest) => readAll fuel m' taken {} ((b, m) :: outer) rest
    | ')' :: rest =>
      match outer with
      | [] => none
      | (around, m') :: outer => readAll fuel m' taken (around.add (b.total + 1)) outer rest
    | '|' :: rest => readAll fuel m taken b.next outer rest
    | '[' :: rest =>
      (set? m rest).bind fun (depth, rest) => readAll fuel m taken (b.add depth) outer rest
    | '\\' :: rest => (escape? m rest).bind fun (a, rest) => part a rest
    | '.' :: rest => part .anyChar rest
    | '{' :: _ => none
    | c :: rest =>
      if c ∈ ['*', '+', '?'] then
        b.repeat?.bind fun b =>
          readAll fuel m taken b outer (if rest.head? = some '?' then rest.tail else rest)
      else if c ∈ ['^', '$'] then part .edge rest
      else part (.literal c false) rest

/-- The text is a pattern. -/
def wellFormed (t : Text) : Bool :=
  (readAll (t.length + 1) {} [] {} [] t).any (· ≤ nestingLimit)

/-- What is opened has to be closed, and an operator needs something to repeat. -/
example : ["(a|b)*".toList, "(?:a+?)?".toList, "(a".toList, "*a".toList, "a|*".toList].map
    wellFormed = [true, true, false, false, false] := by
  decide

end Pattern
end Log
end LineMachine
