/-
# Sets of bindings and their copies

A pool grows by new sets and by copies of sets.  A copy holds what its source
held when it was made; afterwards each goes its own way.  So the value of a name
in a set is found by looking back over the steps, the newest first
(`Pool.lastWrite`): before the step that appended a copy the search goes on in
the source, and before the one that appended a new set there is nothing.

Nothing else can be told of a set.  In which order its names were set, and which
values were overwritten, leaves no trace (`Pool.run_extensional`).
-/

import LineMachine.Bindings.Pool
import LineMachine.Proofs.Bindings.Lookup
import Mathlib.Data.Set.Card

namespace LineMachine
namespace Bindings

/-- **The size counts the names that have a value,** and these are finitely many. -/
theorem size_eq_encard (b : Bindings) : (b.size : ℕ∞) = {n | (b.get? n).isSome}.encard := by
  have hs : {n | (b.get? n).isSome} = ((b.toList.map Prod.fst).toFinset : Set Text) := by
    ext n
    rw [Set.mem_ofPred_eq, isSome_get?_iff, Finset.mem_coe, List.mem_toFinset]
  rw [hs, Set.encard_coe_eq_coe_finsetCard, List.toFinset_card_of_nodup b.nodup_map_fst,
    List.length_map, size]

theorem isEmpty_iff {b : Bindings} : b.isEmpty ↔ b.size = 0 := by
  rw [isEmpty, size, List.isEmpty_iff, List.length_eq_zero_iff]

namespace Pool

/-! ### What one step does -/

theorem get_append_singleton (p : Pool) (b : Bindings) (j : Nat) :
    get (p ++ [b]) j = if j = p.length then b else p.get j := by
  rw [get, get, List.getD_eq_getElem?_getD, List.getD_eq_getElem?_getD]
  rcases Nat.lt_trichotomy j p.length with h | h | h
  · rw [List.getElem?_append_left h, if_neg (Nat.ne_of_lt h)]
  · rw [if_pos h, h, List.getElem?_concat_length, Option.getD_some]
  · rw [if_neg (Nat.ne_of_gt h), List.getElem?_eq_none (by simpa using h),
      List.getElem?_eq_none (Nat.le_of_lt h)]

/-- Setting a name changes the set at its position, if there is one. -/
theorem get_apply_set (p : Pool) (i : Nat) (name value : Text) (j : Nat) :
    get (apply p (.set i name value)) j =
      if i = j ∧ i < p.length then (p.get j).set name value else p.get j := by
  by_cases hij : i = j
  · subst hij
    rw [apply, get, List.getD_eq_getElem?_getD, List.getElem?_set_self']
    by_cases hi : i < p.length
    · rw [if_pos ⟨rfl, hi⟩, List.getElem?_eq_getElem hi]
      rfl
    · rw [if_neg fun h => hi h.2, List.getElem?_eq_none (Nat.le_of_not_lt hi), get,
        List.getD_eq_getElem?_getD, List.getElem?_eq_none (Nat.le_of_not_lt hi)]
      rfl
  · rw [if_neg fun h => hij h.1, get_apply_set_of_ne p name value hij]

theorem run_append_singleton (p : Pool) (steps : List Step) (step : Step) :
    run p (steps ++ [step]) = apply (run p steps) step := by
  rw [run, List.foldl_append]
  rfl

/-! ### What a run leads to -/

/-- How many sets there are after steps, the newest of them first. -/
def count (start : Nat) : List Step → Nat
  | [] => start
  | .set .. :: earlier => count start earlier
  | .clone _ :: earlier => count start earlier + 1
  | .new :: earlier => count start earlier + 1

/-- The last value that steps, the newest of them first, gave to a name in the set
at a position.  A copy has the position next after the sets before it; its values
from before are those of its source.  Positions without a set cannot be written. -/
def lastWrite (start : Nat) (name : Text) : List Step → Nat → Option Text
  | [], _ => none
  | .set i n value :: earlier, j =>
    if (i = j ∧ i < count start earlier) ∧ n = name then some value
    else lastWrite start name earlier j
  | .clone i :: earlier, j =>
    lastWrite start name earlier (if j = count start earlier then i else j)
  | .new :: earlier, j =>
    if j = count start earlier then none else lastWrite start name earlier j

theorem length_run (start : Nat) (steps : List Step) :
    (run (List.replicate start ∅) steps).length = count start steps.reverse := by
  induction steps using List.reverseRecOn with
  | nil => exact List.length_replicate
  | append_singleton steps step ih =>
    rw [run_append_singleton, List.reverse_append, List.reverse_singleton, List.singleton_append]
    cases step with
    | set i name value => rw [apply, List.length_set, ih, count]
    | clone i => rw [apply, List.length_append, ih, List.length_singleton, count]
    | new => rw [apply, List.length_append, ih, List.length_singleton, count]

/-- **Each name has the value that was written last,** also in a copy. -/
theorem get?_run (start : Nat) (steps : List Step) (name : Text) (j : Nat) :
    (get (run (List.replicate start ∅) steps) j).get? name =
      lastWrite start name steps.reverse j := by
  induction steps using List.reverseRecOn generalizing j with
  | nil =>
    rw [List.reverse_nil, lastWrite, run, List.foldl_nil, get, List.getD_eq_getElem?_getD,
      List.getElem?_replicate]
    split <;> rfl
  | append_singleton steps step ih =>
    rw [run_append_singleton, List.reverse_append, List.reverse_singleton, List.singleton_append]
    cases step with
    | set i n value =>
      rw [get_apply_set, length_run, lastWrite]
      by_cases h : i = j ∧ i < count start steps.reverse
      · rw [if_pos h, get?_set, ih]
        by_cases hn : n = name
        · rw [if_pos hn.symm, if_pos ⟨h, hn⟩]
        · rw [if_neg (Ne.symm hn), if_neg fun h' => hn h'.2]
      · rw [if_neg h, ih, if_neg fun h' => h h'.1]
    | clone i =>
      rw [apply, get_append_singleton, length_run, lastWrite]
      split
      · exact ih i
      · exact ih j
    | new =>
      rw [apply, get_append_singleton, length_run, lastWrite]
      split
      · rfl
      · exact ih j

/-- **A pool of finite maps.**  Any steps on sets without bindings lead to one set
more for each copy and each new set, and what is in a set is found by looking back
over the steps: a name has the last value it got there or, from before the set was
copied, in its source; the bound names are listed once each, with these values; the
size counts them, and is zero exactly for the empty set.  Two sets are equal exactly
if all names have the same values in both.  Setting a name in one set changes no
other and appends none. -/
theorem run_extensional (start : Nat) (steps : List Step) :
    let p := run (List.replicate start ∅) steps
    let last (j : Nat) (name : Text) := lastWrite start name steps.reverse j
    p.length = count start steps.reverse ∧
    (∀ j, (∀ name, (p.get j).get? name = last j name) ∧
      ((p.get j).toList.map Prod.fst).Nodup ∧
      (∀ name value, (name, value) ∈ (p.get j).toList ↔ last j name = some value) ∧
      ((p.get j).size : ℕ∞) = {name | (last j name).isSome}.encard ∧
      ((p.get j).isEmpty ↔ (p.get j).size = 0)) ∧
    (∀ i j, p.get i = p.get j ↔ ∀ name, (p.get i).get? name = (p.get j).get? name) ∧
    ∀ i name value, (run p [.set i name value]).length = p.length ∧
      ∀ j, j ≠ i → get (run p [.set i name value]) j = p.get j := by
  intro p last
  have hlast : ∀ j name, (p.get j).get? name = last j name := fun j name =>
    get?_run start steps name j
  refine ⟨length_run start steps, fun j => ⟨hlast j, nodup_map_fst _, fun name value => ?_, ?_,
    isEmpty_iff⟩, fun i j => ⟨fun h name => by rw [h], ext⟩, fun i name value => ⟨?_, fun j hj => ?_⟩⟩
  · rw [← get?_eq_some_iff, hlast]
  · rw [size_eq_encard]
    simp only [hlast]
  · exact List.length_set
  · exact get_apply_set_of_ne p name value hj.symm

/-- The copy keeps its value when the source gets another, and forgets nothing when
it is copied in turn. -/
example :
    let p := run [∅] [.set 0 ['x'] ['1'], .clone 0, .set 0 ['x'] ['2'], .clone 1, .new]
    p.map (·.get? ['x']) = [some ['2'], some ['1'], some ['1'], none] ∧ p.get 1 = p.get 2 := by
  decide

end Pool
end Bindings
end LineMachine
