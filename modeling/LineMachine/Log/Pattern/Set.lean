/-
# Sets of characters in patterns

A set stands between brackets: characters, ranges, classes with a name, and
other sets.  Two operands with `&&`, `--` or `~~` between them make a set as
well, and `^` behind the bracket negates it.  A hyphen right behind the bracket
stands for itself, and so does a closing bracket there.

What matters of a set is whether it is well formed and how deep it is nested.
`Operand` keeps that of what is read so far, one for each open bracket.
-/

import LineMachine.Log.Pattern.Atom

namespace LineMachine
namespace Log
namespace Pattern

/-- The names of classes between brackets and colons. -/
def classNames : List Text :=
  ["alnum", "alpha", "ascii", "blank", "cntrl", "digit", "graph", "lower", "print", "punct",
   "space", "upper", "word", "xdigit"].map String.toList

/-- Reads a class with a name behind its opening bracket: whether it is negated,
and what follows. -/
def namedClass? : Text → Option (Bool × Text)
  | ':' :: t =>
    let negated : Bool := t.head? = some '^'
    let t := if negated then t.tail else t
    match t.dropWhile (· ≠ ':') with
    | ':' :: ']' :: rest =>
      if t.takeWhile (· ≠ ':') ∈ classNames then some (negated, rest) else none
    | _ => none
  | _ => none

/-- A class with a name may stand in a set. -/
def Modes.collectsNamed (m : Modes) (negated : Bool) : Bool :=
  if m.unicode then !m.anyCase else !negated

/-- The operand of a set that is being read. -/
structure Operand where
  /-- Nothing but hyphens stands behind the bracket. -/
  fresh : Bool := true
  /-- How many items it has. -/
  count : Nat := 0
  /-- How deep the items are nested. -/
  depth : Nat := 0
  /-- How deep the operands before it are nested, if there are any. -/
  before : Option Nat := none
deriving DecidableEq, Repr

namespace Operand

/-- The operand after one more item. -/
def add (o : Operand) (depth : Nat) : Operand :=
  { o with fresh := false, count := o.count + 1, depth := max o.depth depth }

/-- How deep the operand and those before it are nested: several items are one
level more than one, and so is an operation. -/
def nesting (o : Operand) : Nat :=
  let depth := if o.count ≤ 1 then o.depth else o.depth + 1
  match o.before with
  | none => depth
  | some d => max d depth + 1

/-- The operand behind an operator. -/
def next (o : Operand) : Operand := { fresh := false, before := some o.nesting }

end Operand

/-- Reads what opens a set behind its bracket.  A negated set of bytes would
match what is not UTF-8. -/
def openSet? (m : Modes) (t : Text) : Option Text :=
  match m.skip t with
  | '^' :: rest => if m.unicode then some rest else none
  | rest => some rest

/-- Reads a character or an escape in a set. -/
def member? (m : Modes) : Text → Option (Atom × Text)
  | [] => none
  | c :: t => if c = '\\' then escape? m t else some (.literal c false, t)

/-- The two ends of a range. -/
def isRange : Atom → Atom → Bool
  | .literal low _, .literal high _ => low ≤ high
  | _, _ => false

/-- Reads an item of a set, a member or a range, and gives what follows. -/
def item? (m : Modes) (t : Text) : Option Text := do
  let (low, rest) ← member? m t
  match m.skip rest with
  | [] => none
  | c :: rest =>
    if c = '-' ∧ m.ahead rest ≠ some ']' ∧ m.ahead rest ≠ some '-' then
      let (high, rest) ← member? m (m.skip rest)
      if isRange low high && m.collects low && m.collects high then some rest else none
    else if m.collects low then some (c :: rest)
    else none

/-- Reads a set up to its closing bracket: how deep it is nested, and what
follows.  The operands in `outer` are those of the sets around it. -/
def readSet (m : Modes) : Nat → Operand → List Operand → Text → Option (Nat × Text)
  | 0, _, _, _ => none
  | fuel + 1, o, outer, t =>
    match m.skip t with
    | [] => none
    | c :: rest =>
      if o.fresh ∧ (c = '-' ∨ c = ']' ∧ o.count = 0) then
        if m.collects (.literal c false) then
          readSet m fuel { o.add 0 with fresh := c = '-' } outer rest
        else none
      else if c = ']' then
        match outer with
        | [] => some (o.nesting + 1, rest)
        | around :: outer => readSet m fuel (around.add (o.nesting + 1)) outer rest
      else if c = '[' then
        match namedClass? rest with
        | some (negated, rest) =>
          if m.collectsNamed negated then readSet m fuel (o.add 0) outer rest else none
        | none => (openSet? m rest).bind fun rest => readSet m fuel {} (o :: outer) rest
      else if c ∈ ['&', '-', '~'] ∧ rest.head? = some c then
        readSet m fuel o.next outer rest.tail
      else (item? m (c :: rest)).bind fun rest => readSet m fuel (o.add 0) outer rest

/-- Reads a set behind its opening bracket: how deep it is nested, and what
follows. -/
def set? (m : Modes) (t : Text) : Option (Nat × Text) :=
  (openSet? m t).bind fun rest => readSet m (rest.length + 1) {} [] rest

/-- A closing bracket that comes first stands for itself, and a range increases. -/
example : ["]a]".toList, "^a-z&&[^b]]".toList, "]".toList, "z-a]".toList].map
    (fun t => (set? {} t).isSome) = [true, true, false, false] := by
  decide

end Pattern
end Log
end LineMachine
