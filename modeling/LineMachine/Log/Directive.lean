/-
# Directives

A directive says up to which level some events are heard:

| directive | events |
| --- | --- |
| `info` | of every target, up to this level |
| `jada=info` | of the targets that begin with `jada`, up to this level |
| `jada`, `jada=` | of the targets that begin with `jada`, all of them |
| `[{path}]=info` | that have the field `path`, up to this level |
| `jada[{path}]=info` | that have it and are of such a target |
| `[run]=info`, `[{path=a}]=info` | none: spans alone have a name, or values to compare |

A level is a name, in any case of its letters, or a number from 0 (none) to 5
(all).
-/

import LineMachine.Log.Event
import LineMachine.Log.Pattern.Basic
import LineMachine.Text.Alphanumeric

namespace LineMachine
namespace Log

/-- What an event must have besides its target. -/
inductive Condition where
  /-- Nothing. -/
  | any
  /-- A field of this name. -/
  | field (name : Text)
  /-- Something that only spans have. -/
  | span
deriving DecidableEq, Repr

/-- Up to which level the events of some targets are heard. -/
structure Directive where
  /-- The beginning of the targets; every target begins with nothing. -/
  target : Text
  condition : Condition := .any
  level : Level
deriving DecidableEq, Repr

/-- The number written in decimal digits, a plus sign before them allowed. -/
def number? (t : Text) : Option Nat :=
  let digits := if t.head? = some '+' then t.tail else t
  if digits ≠ [] ∧ digits.all Char.isDigit then
    some (digits.foldl (fun n c => 10 * n + (c.toNat - '0'.toNat)) 0)
  else none

/-- The level with the number or the name. -/
def Level.ofText? (t : Text) : Option Level :=
  match number? t with
  | some n => Level.all[n]?
  | none => Level.all.find? fun l => l.name = t.map Char.toLower

/-- Every level is read back from its name. -/
theorem Level.ofText?_name (l : Level) : Level.ofText? l.name = some l := by
  cases l <;> decide

namespace Condition

/-- The event meets the condition. -/
def meets (e : Event) : Condition → Bool
  | any => true
  | field name => e.fields.contains name
  | span => false

/-- The name of the field that is asked for. -/
def fieldName : Condition → Text
  | field name => name
  | any | span => []

/-- Digits, a point among them or not, and an exponent or not. -/
def isDecimal (t : Text) : Bool :=
  let isExponent (c : Char) : Bool := c = 'e' || c = 'E'
  let mantissa := t.takeWhile (!isExponent ·)
  let digits := mantissa.filter (· ≠ '.')
  let exponent :=
    match t.dropWhile (!isExponent ·) with
    | [] => ['0']
    | [_] => []
    | _ :: c :: r => if c = '+' ∨ c = '-' then r else c :: r
  mantissa.count '.' ≤ 1 && digits ≠ [] && digits.all Char.isDigit &&
    exponent ≠ [] && exponent.all Char.isDigit

/-- What the value of a field can be compared with: a pattern, or a number with
a plus sign, which no pattern begins with. -/
def isComparable (t : Text) : Bool :=
  Pattern.wellFormed t ||
    (t.head? = some '+' &&
      (isDecimal t.tail ||
        ["inf".toList, "infinity".toList, "nan".toList].contains (t.tail.map Char.toLower)))

/-- Reads what stands between braces: the name of a field, and behind an equals
sign what its value is compared with, up to another such sign. -/
def ofField? (t : Text) : Option Condition :=
  match t.dropWhile (· ≠ '=') with
  | [] => if t = [] then none else some (field t)
  | _ :: value => if isComparable (value.takeWhile (· ≠ '=')) then some span else none

/-- Reads a condition behind its opening bracket: the condition, and what
follows the closing bracket.  A name of spans comes first, a field after it; the
text of the field is what `shown` gives for it. -/
def read? (shown : Text → Text) (t : Text) : Option (Condition × Text) :=
  let name := t.takeWhile fun c => c ≠ ']' && c ≠ '{'
  match t.drop name.length with
  | ']' :: rest => some (span, rest)
  | '{' :: inner =>
    let field := inner.takeWhile (· ≠ '}')
    match inner.drop field.length with
    | '}' :: ']' :: rest =>
      (ofField? (Text.takeBytes (Text.size field) (shown inner))).map fun c =>
        (if name = [] then c else span, rest)
    | _ => none
  | _ => none

end Condition

namespace Directive

/-- A target begins with a letter, a digit, or one of three signs. -/
def begins (c : Char) : Bool := isAlphanumeric c || c = '-' || c = ':' || c = '_'

/-- The parts of a directive: the beginning of the targets, the condition, and
what stands behind the equals sign. -/
structure Parts where
  target : Text
  condition : Condition := .any
  level : Option Text := none
deriving DecidableEq, Repr

/-- Reads the parts of a directive.  The signs between the parts are looked for
without the blanks around the piece, and the parts are as far from its beginning,
blanks included, as those signs are from the first character that is not blank:
a blank in front displaces them, and one at the end belongs to the last part. -/
def Parts.ofText? (piece : Text) : Option Parts :=
  let t := piece.trim
  let shown (rest : Text) : Text := piece.dropBytes (t.size - rest.size)
  let length := (t.takeWhile fun c => c ≠ '=' && c ≠ '[').length
  let target := piece.takeBytes (Text.size (t.take length))
  if !(t.head?.any fun c => c = '[' || begins c) then none
  else
    match t.drop length with
    | [] => some ⟨piece, .any, none⟩
    | '[' :: rest =>
      (Condition.read? shown rest).bind fun (condition, after) =>
        match after with
        | [] => some ⟨target, condition, none⟩
        | '=' :: level => some ⟨target, condition, some (shown level)⟩
        | _ => none
    | _ :: level => some ⟨target, .any, some (shown level)⟩

/-- The level for every target that a lone word is. -/
def Parts.lone? (p : Parts) : Option Level :=
  if p.condition = .any then Level.ofText? p.target else none

/-- The directive with these parts.  Without a level, or with an empty one, all
is heard. -/
def Parts.directive? (p : Parts) : Option Directive :=
  match p.level, p.lone? with
  | some [], _ => some ⟨p.target, p.condition, .trace⟩
  | some level, _ => (Level.ofText? level).map fun l => ⟨p.target, p.condition, l⟩
  | none, some level => some ⟨[], .any, level⟩
  | none, none => some ⟨p.target, p.condition, .trace⟩

/-- Reads one directive. -/
def parse? (piece : Text) : Option Directive := (Parts.ofText? piece).bind Parts.directive?

/-- The directive concerns an event. -/
def concerns (d : Directive) (e : Event) : Bool :=
  d.target.isPrefixOf e.target && d.condition.meets e

/-- Of two directives that concern an event, the other one decides: the longer
beginning does, then a field, then the greater name of a field. -/
def yields (d other : Directive) : Bool :=
  d.target.length < other.target.length ||
    (d.target.length = other.target.length &&
      !decide (other.condition.fieldName < d.condition.fieldName))

/-- A lone name of a level is a directive for every target. -/
theorem parse?_name (l : Level) : parse? l.name = some ⟨[], .any, l⟩ := by
  cases l <;> decide +kernel

end Directive
end Log
end LineMachine
