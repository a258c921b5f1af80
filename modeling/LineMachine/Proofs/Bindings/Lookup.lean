/-
# Bindings and their names

A set of bindings is a finite map: a name has a value exactly when the pair of
both is listed (`Bindings.get?_eq_some_iff`), and its size is the number of
names that have one (`Bindings.size_eq_card`).  After many writes a name has the
value of the last write to it, and the value from before if there is none
(`Bindings.get?_setAll`), so the same writes again change nothing
(`Bindings.setAll_setAll`), and writes to names that differ come to the same in
any order (`Bindings.setAll_eq_of_perm`).
-/

import LineMachine.Bindings.Basic
import Mathlib.Data.Finset.Card

namespace LineMachine
namespace Bindings

theorem find?_eq_some_iff {n v : Text} {ps : List (Text × Text)}
    (hps : ps.Pairwise (fun p q => p.1 < q.1)) : find? n ps = some v ↔ (n, v) ∈ ps := by
  induction ps with
  | nil => simp [find?]
  | cons p ps ih =>
    obtain ⟨m, w⟩ := p
    obtain ⟨hlt, hps⟩ := List.pairwise_cons.1 hps
    rw [find?, List.mem_cons, Prod.mk.injEq]
    by_cases hn : n = m
    · -- no later pair has the same name
      have hnot : (n, v) ∉ ps := fun h => List.lt_irrefl n (by simpa [hn] using hlt _ h)
      simp [hn, hn ▸ hnot, eq_comm]
    · simp [hn, ih hps]

/-- **A name has the value it is listed with.** -/
theorem get?_eq_some_iff {b : Bindings} {n v : Text} : b.get? n = some v ↔ (n, v) ∈ b.toList :=
  find?_eq_some_iff b.ordered

theorem isSome_get?_iff {b : Bindings} {n : Text} :
    (b.get? n).isSome ↔ n ∈ b.toList.map Prod.fst := by
  simp [Option.isSome_iff_exists, get?_eq_some_iff]

/-- No name is listed twice. -/
theorem nodup_map_fst (b : Bindings) : (b.toList.map Prod.fst).Nodup := by
  refine List.pairwise_map.2 (b.ordered.imp fun h he => ?_)
  rw [he] at h
  exact List.lt_irrefl _ h

/-- **The size counts the names that have a value.** -/
theorem size_eq_card {b : Bindings} {s : Finset Text} (h : ∀ n, n ∈ s ↔ (b.get? n).isSome) :
    b.size = s.card := by
  have hs : s = (b.toList.map Prod.fst).toFinset := by
    ext n
    rw [h, isSome_get?_iff, List.mem_toFinset]
  rw [hs, List.toFinset_card_of_nodup b.nodup_map_fst, List.length_map, size]

/-- The bindings after names are set one after another. -/
def setAll (b : Bindings) (writes : List (Text × Text)) : Bindings :=
  writes.foldl (fun b write => b.set write.1 write.2) b

@[simp] theorem setAll_cons (b : Bindings) (write : Text × Text) (writes : List (Text × Text)) :
    b.setAll (write :: writes) = (b.set write.1 write.2).setAll writes := rfl

/-- **The last write to a name wins,** over other writes and over what was there. -/
theorem get?_setAll (b : Bindings) (writes : List (Text × Text)) (n : Text) :
    (b.setAll writes).get? n =
      ((writes.filter fun write => write.1 = n).getLast?.map Prod.snd).or (b.get? n) := by
  induction writes generalizing b with
  | nil => rfl
  | cons write writes ih =>
    rw [setAll, List.foldl_cons, ← setAll, ih, get?_set]
    by_cases hn : write.1 = n
    · rw [List.filter_cons_of_pos (by simpa using hn), List.getLast?_cons, if_pos hn.symm]
      cases (writes.filter fun write => write.1 = n).getLast? <;> rfl
    · rw [List.filter_cons_of_neg (by simpa using hn), if_neg (Ne.symm hn)]

/-- A name that is written has its last value, whatever was there before. -/
theorem exists_get?_setAll_of_mem {writes : List (Text × Text)} {n : Text}
    (h : n ∈ writes.map Prod.fst) : ∃ v, ∀ b : Bindings, (b.setAll writes).get? n = some v := by
  have hlast : ((writes.filter fun write => write.1 = n).getLast?.map Prod.snd).isSome := by
    rw [Option.isSome_map, List.getLast?_isSome]
    simpa using h
  obtain ⟨v, hv⟩ := Option.isSome_iff_exists.1 hlast
  exact ⟨v, fun b => by rw [get?_setAll, hv, Option.some_or]⟩

/-- A name that is not written keeps what it has. -/
theorem get?_setAll_of_not_mem {writes : List (Text × Text)} {n : Text}
    (h : n ∉ writes.map Prod.fst) (b : Bindings) : (b.setAll writes).get? n = b.get? n := by
  have hnone : (writes.filter fun write => write.1 = n) = [] := by
    rw [List.filter_eq_nil_iff]
    intro write hmem he
    exact h (List.mem_map.2 ⟨write, hmem, by simpa using he⟩)
  rw [get?_setAll, hnone, List.getLast?_nil, Option.map_none, Option.none_or]

/-- **Writing the same again changes nothing** in the end. -/
theorem setAll_setAll (b : Bindings) (writes : List (Text × Text)) :
    (b.setAll writes).setAll writes = b.setAll writes := by
  refine ext fun n => ?_
  rw [get?_setAll, get?_setAll, ← Option.or_assoc, Option.or_self]

/-- **Writes that agree name by name** leave the same. -/
theorem setAll_congr {writes writes' : List (Text × Text)}
    (h : ∀ n, (writes.filter fun write => write.1 = n) = writes'.filter fun write => write.1 = n)
    (b : Bindings) : b.setAll writes = b.setAll writes' := by
  refine ext fun n => ?_
  rw [get?_setAll, get?_setAll, h]

/-- A write does not count if the name is written again. -/
theorem setAll_set_of_mem {writes : List (Text × Text)} {n : Text} (h : n ∈ writes.map Prod.fst)
    (b : Bindings) (v : Text) : (b.set n v).setAll writes = b.setAll writes := by
  refine ext fun k => ?_
  by_cases hk : k ∈ writes.map Prod.fst
  · obtain ⟨w, hw⟩ := exists_get?_setAll_of_mem hk
    rw [hw, hw]
  · have hne : k ≠ n := fun he => hk (he ▸ h)
    rw [get?_setAll_of_not_mem hk, get?_setAll_of_not_mem hk, get?_set, if_neg hne]

/-- Different names can be set in either order. -/
theorem set_comm (b : Bindings) {n n' : Text} (h : n ≠ n') (v v' : Text) :
    (b.set n v).set n' v' = (b.set n' v').set n v := by
  refine ext fun k => ?_
  simp only [get?_set]
  by_cases hk : k = n
  · subst hk
    rw [if_neg h, if_pos rfl, if_pos rfl]
  · rw [if_neg hk, if_neg hk]

/-- **Writes to different names can be made in any order.** -/
theorem setAll_eq_of_perm {writes writes' : List (Text × Text)} (h : writes.Perm writes')
    (hn : (writes.map Prod.fst).Nodup) (b : Bindings) : b.setAll writes = b.setAll writes' := by
  refine h.foldl_eq' (fun p hp q hq c => ?_) b
  by_cases he : p.1 = q.1
  · rw [List.inj_on_of_nodup_map hn hp hq he]
  · exact set_comm c he p.2 q.2

theorem get?_setAll_of_ordered {ps : List (Text × Text)}
    (hps : ps.Pairwise (fun p q => p.1 < q.1)) (b : Bindings) (n : Text) :
    (b.setAll ps).get? n = (find? n ps).or (b.get? n) := by
  induction ps generalizing b with
  | nil => rfl
  | cons p ps ih =>
    obtain ⟨m, v⟩ := p
    obtain ⟨hlt, hps⟩ := List.pairwise_cons.1 hps
    rw [setAll_cons, ih hps, get?_set, find?]
    by_cases hn : n = m
    · subst hn
      rw [find?_eq_none_of_lt hlt, if_pos rfl, if_pos rfl]
      rfl
    · rw [if_neg hn, if_neg hn]

/-- **What is listed gives the bindings back** when it is written. -/
theorem setAll_toList (b : Bindings) : setAll ∅ b.toList = b := by
  refine ext fun n => ?_
  rw [get?_setAll_of_ordered b.ordered, get?_empty, Option.or_none]
  rfl

/-- **Each name that is written counts once.** -/
theorem size_setAll_empty (writes : List (Text × Text)) :
    (setAll ∅ writes).size = (writes.map Prod.fst).toFinset.card := by
  refine size_eq_card fun n => ?_
  rw [get?_setAll, get?_empty, Option.or_none, Option.isSome_map, List.getLast?_isSome]
  simp

end Bindings
end LineMachine
