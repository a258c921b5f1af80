/-
# Clusters

A cluster is what a user takes for one character: a letter with its marks, a
Hangul syllable, a flag, a picture joined from others, a conjunct of
consonants, a carriage return with its line feed.  The cut before a character
depends on it and on a little of what stands before (`Context`), so a text is
cut in one pass from the left.  Nothing is lost (`Cluster.flatten_cut`), and no
cluster is empty (`Cluster.ne_nil_of_mem_cut`).
-/

import LineMachine.Text.Cluster.Class

namespace LineMachine
namespace Cluster

/-- How far a picture or a conjunct has come that another one may continue. -/
inductive Chain where
  /-- There is none. -/
  | none
  /-- A picture, or a consonant, and marks on it. -/
  | base
  /-- A joiner, or a linker, follows the base. -/
  | linked
deriving DecidableEq, Repr

/-- What stands before the next character, as far as it matters. -/
structure Context where
  /-- The class of the character before. -/
  previous : Class
  /-- An odd number of regional indicators stands right before. -/
  oddRegional : Bool
  /-- The picture right before. -/
  picture : Chain
  /-- The conjunct right before. -/
  conjunct : Chain
deriving DecidableEq, Repr

/-- Before a text stands nothing that a character could join. -/
def Context.start : Context := ⟨.control, false, .none, .none⟩

/-- The context after one more character. -/
def Context.after (x : Context) (c : Char) : Context where
  previous := Class.of c
  oddRegional := Class.of c = .regional && !x.oddRegional
  picture :=
    if isPictographic c then .base
    else if x.picture = .base ∧ Class.of c = .extend then .base
    else if x.picture = .base ∧ Class.of c = .joiner then .linked
    else .none
  conjunct :=
    if isConsonant c then .base
    else if x.conjunct = .none then .none
    else if isLinker c then .linked
    else if isConjunctMark c then x.conjunct
    else .none

/-- The class pairs between which there is never a cut, controls apart. -/
def pairJoins : Class → Class → Bool
  | .leading, .leading | .leading, .vowel | .leading, .openSyllable
  | .leading, .closedSyllable => true
  | .openSyllable, .vowel | .openSyllable, .trailing | .vowel, .vowel
  | .vowel, .trailing => true
  | .closedSyllable, .trailing | .trailing, .trailing => true
  | _, .extend | _, .joiner | _, .spacing => true
  | .prepend, _ => true
  | _, _ => false

/-- The character belongs to the cluster before it. -/
def Context.joins (x : Context) (c : Char) : Bool :=
  if x.previous = .carriageReturn ∧ Class.of c = .lineFeed then true
  else if x.previous.isControl || (Class.of c).isControl then false
  else
    pairJoins x.previous (Class.of c) ||
    (x.conjunct = .linked && isConsonant c) ||
    (x.picture = .linked && isPictographic c) ||
    (x.oddRegional && Class.of c = .regional)

/-- The rest of the cluster that stands before, and the clusters after it. -/
def grow : Context → Text → Text × List Text
  | _, [] => ([], [])
  | x, c :: t =>
    let (rest, more) := grow (x.after c) t
    if x.joins c then (c :: rest, more) else ([], (c :: rest) :: more)

/-- The clusters of a text, in order. -/
def cut : Text → List Text
  | [] => []
  | c :: t =>
    let (rest, more) := grow (Context.start.after c) t
    (c :: rest) :: more

/-- The text without its last cluster. -/
def dropLast (t : Text) : Text := (cut t).dropLast.flatten

theorem append_flatten_grow (x : Context) (t : Text) :
    (grow x t).1 ++ (grow x t).2.flatten = t := by
  induction t generalizing x with
  | nil => rfl
  | cons c t ih =>
    simp only [grow]
    split <;> simp [ih]

/-- **Cutting loses nothing:** the clusters make up the text. -/
theorem flatten_cut (t : Text) : (cut t).flatten = t := by
  cases t with
  | nil => rfl
  | cons c t => simp [cut, append_flatten_grow]

theorem ne_nil_of_mem_grow {x : Context} {t k : Text} (h : k ∈ (grow x t).2) :
    k ≠ [] := by
  induction t generalizing x with
  | nil => simp [grow] at h
  | cons c t ih =>
    simp only [grow] at h
    split at h
    · exact ih h
    · rcases List.mem_cons.1 h with rfl | h
      · simp
      · exact ih h

/-- **No cluster is empty.** -/
theorem ne_nil_of_mem_cut {t k : Text} (h : k ∈ cut t) : k ≠ [] := by
  cases t with
  | nil => simp [cut] at h
  | cons c t =>
    rcases List.mem_cons.1 h with rfl | h
    · simp
    · exact ne_nil_of_mem_grow h

/-- What is left when the last cluster is dropped was there before. -/
theorem mem_of_mem_dropLast {t : Text} {c : Char} (h : c ∈ dropLast t) : c ∈ t := by
  obtain ⟨k, hk, hc⟩ := List.mem_flatten.1 h
  rw [← flatten_cut t]
  exact List.mem_flatten.2 ⟨k, List.dropLast_subset _ hk, hc⟩

/-- A text is emptied by dropping its clusters one by one. -/
theorem length_dropLast_lt {t : Text} (h : t ≠ []) : (dropLast t).length < t.length := by
  cases t with
  | nil => exact absurd rfl h
  | cons c t =>
    have hne : cut (c :: t) ≠ [] := by simp [cut]
    have hcut := List.dropLast_concat_getLast hne
    have hlast := ne_nil_of_mem_cut (List.getLast_mem hne)
    have hlen := congrArg (fun l => (List.flatten l).length) hcut
    simp only [List.flatten_append, List.flatten_cons, List.flatten_nil, List.append_nil,
      List.length_append, flatten_cut] at hlen
    have := List.length_pos_iff.2 hlast
    rw [dropLast]
    omega

end Cluster
end LineMachine
