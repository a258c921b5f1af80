/-
# Lists in another order

The same elements can come in another order, told by a permutation of their
positions.  Whatever is picked out of the list by a test is then picked out in
its old order, as long as the new order keeps the elements that pass the test in
theirs (`filter_permuted`).
-/

import Mathlib.Data.List.FinRange
import Mathlib.Data.Fintype.Perm

namespace LineMachine

variable {α : Type}

/-- The list in another order: what is at position `σ i` comes at `i`. -/
def permuted (l : List α) (σ : Equiv.Perm (Fin l.length)) : List α :=
  (List.finRange l.length).map fun i => l.get (σ i)

theorem getElem?_permuted (l : List α) (σ : Equiv.Perm (Fin l.length)) (i : Fin l.length) :
    (permuted l σ)[i.val]? = l[(σ i).val]? := by
  rw [permuted, List.getElem?_map, List.getElem?_eq_getElem (by simp), List.getElem_finRange,
    Option.map_some, List.getElem?_eq_getElem (σ i).isLt]
  rfl

/-- **What passes a test comes in its old order,** if the new order keeps any two
such elements in theirs. -/
theorem filter_permuted {l : List α} {σ : Equiv.Perm (Fin l.length)} {p : α → Bool}
    (h : ∀ i j, i < j → p (l.get (σ i)) → p (l.get (σ j)) → σ i < σ j) :
    (permuted l σ).filter p = l.filter p := by
  let q (i : Fin l.length) : Bool := p (l.get i)
  have hold : l.filter p = ((List.finRange l.length).filter q).map l.get := by
    conv => lhs; rw [← List.map_get_finRange l, List.filter_map]
    rfl
  have hnew : (permuted l σ).filter p =
      (((List.finRange l.length).map σ).filter q).map l.get := by
    rw [permuted, List.filter_map, List.filter_map, List.map_map]
    rfl
  -- both are the positions of the elements that pass, in increasing order
  have hpos : ((List.finRange l.length).map σ).filter q = (List.finRange l.length).filter q := by
    have hasymm (i j : Fin l.length) (hij : i < j) (hji : j < i) : i = j :=
      absurd hji (lt_asymm hij)
    refine List.Perm.eq_of_pairwise (fun i j _ _ => hasymm i j) ?_ ?_ (σ.map_finRange_perm.filter q)
    · rw [List.pairwise_filter, List.pairwise_map]
      exact (List.pairwise_lt_finRange _).imp fun {i j} hij hi hj => h i j hij hi hj
    · exact (List.pairwise_lt_finRange _).filter q
  rw [hold, hnew, hpos]

end LineMachine
