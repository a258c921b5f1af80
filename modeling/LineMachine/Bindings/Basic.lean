/-
# Bindings

A set of bindings gives each name at most one value.  It is kept as a list of
pairs in strictly increasing order of names, so it lists itself in that order,
and two sets with the same values are the same set (`Bindings.ext`).

Setting a name replaces its value and touches no other name
(`Bindings.get?_set`).
-/

import LineMachine.Text.Basic

namespace LineMachine

/-- Values of names, in order of the names. -/
structure Bindings where
  /-- The pairs of a name and its value. -/
  toList : List (Text × Text) := []
  /-- The names increase strictly, so none occurs twice. -/
  ordered : toList.Pairwise (fun p q => p.1 < q.1) := by exact List.Pairwise.nil
deriving DecidableEq, Repr

namespace Bindings

/-- No bindings. -/
def empty : Bindings := {}

instance : EmptyCollection Bindings := ⟨empty⟩

instance : Inhabited Bindings := ⟨empty⟩

/-- How many names are bound. -/
def size (b : Bindings) : Nat := b.toList.length

/-- No name is bound. -/
def isEmpty (b : Bindings) : Bool := b.toList.isEmpty

/-- The value paired with `name`. -/
def find? (name : Text) : List (Text × Text) → Option Text
  | [] => none
  | (n, v) :: rest => if name = n then some v else find? name rest

/-- The pairs with `name` paired with `value`: in place of its old value, or
in front of the first greater name. -/
def put (name value : Text) : List (Text × Text) → List (Text × Text)
  | [] => [(name, value)]
  | (n, v) :: rest =>
    if name < n then (name, value) :: (n, v) :: rest
    else if name = n then (name, value) :: rest
    else (n, v) :: put name value rest

/-- The value bound to `name`, if any. -/
def get? (b : Bindings) (name : Text) : Option Text := find? name b.toList

theorem lt_of_not_lt_of_ne {a b : Text} (h : ¬ a < b) (hne : a ≠ b) : b < a :=
  (List.le_iff_lt_or_eq.1 (List.not_lt.1 h)).resolve_right fun e => hne e.symm

theorem mem_put {name value : Text} {ps : List (Text × Text)} {p : Text × Text}
    (h : p ∈ put name value ps) : p = (name, value) ∨ p ∈ ps := by
  induction ps with
  | nil => simpa [put] using h
  | cons q rest ih =>
    obtain ⟨n, v⟩ := q
    simp only [put] at h
    split at h
    · simpa using h
    · split at h
      · rcases List.mem_cons.1 h with h | h
        · exact .inl h
        · exact .inr (List.mem_cons_of_mem _ h)
      · rcases List.mem_cons.1 h with h | h
        · exact .inr (by simp [h])
        · exact (ih h).imp id (List.mem_cons_of_mem _)

theorem pairwise_put (name value : Text) {ps : List (Text × Text)}
    (h : ps.Pairwise (fun p q => p.1 < q.1)) :
    (put name value ps).Pairwise (fun p q => p.1 < q.1) := by
  induction ps with
  | nil => simp [put]
  | cons q rest ih =>
    obtain ⟨n, v⟩ := q
    obtain ⟨hq, hr⟩ := List.pairwise_cons.1 h
    simp only [put]
    split
    · rename_i hlt
      refine List.pairwise_cons.2 ⟨fun p hp => ?_, h⟩
      rcases List.mem_cons.1 hp with rfl | hp
      · exact hlt
      · exact List.lt_trans hlt (hq p hp)
    · rename_i hlt
      split
      · rename_i he
        exact List.pairwise_cons.2 ⟨fun p hp => he ▸ hq p hp, hr⟩
      · rename_i hne
        refine List.pairwise_cons.2 ⟨fun p hp => ?_, ih hr⟩
        rcases mem_put hp with rfl | hp
        · exact lt_of_not_lt_of_ne hlt hne
        · exact hq p hp

/-- The bindings with `name` bound to `value`, whatever it was bound to before. -/
def set (b : Bindings) (name value : Text) : Bindings :=
  ⟨put name value b.toList, pairwise_put name value b.ordered⟩

theorem find?_put (name value n : Text) (ps : List (Text × Text)) :
    find? n (put name value ps) = if n = name then some value else find? n ps := by
  induction ps with
  | nil => simp [put, find?]
  | cons q rest ih =>
    obtain ⟨m, v⟩ := q
    simp only [put]
    split
    · simp [find?]
    · split
      · rename_i he
        subst he
        by_cases hn : n = name <;> simp [find?, hn]
      · rename_i hne
        by_cases hn : n = name
        · subst hn
          simp [find?, ih, hne]
        · simp [find?, ih, hn]

/-- **Setting a name changes its value and no other:** the last write wins. -/
theorem get?_set (b : Bindings) (name value n : Text) :
    (b.set name value).get? n = if n = name then some value else b.get? n :=
  find?_put name value n b.toList

@[simp] theorem get?_empty (n : Text) : (∅ : Bindings).get? n = none := rfl

theorem find?_eq_none_of_lt {n : Text} {ps : List (Text × Text)}
    (h : ∀ p ∈ ps, n < p.1) : find? n ps = none := by
  induction ps with
  | nil => rfl
  | cons p rest ih =>
    have hne : n ≠ p.1 := fun e => List.lt_irrefl _ (e ▸ h p (by simp))
    simp only [find?, hne, if_false]
    exact ih fun q hq => h q (List.mem_cons_of_mem _ hq)

/-- Ordered lists of pairs with the same values are the same list. -/
theorem eq_of_find?_eq {ps qs : List (Text × Text)}
    (hp : ps.Pairwise (fun p q => p.1 < q.1)) (hq : qs.Pairwise (fun p q => p.1 < q.1))
    (h : ∀ n, find? n ps = find? n qs) : ps = qs := by
  induction ps generalizing qs with
  | nil =>
    cases qs with
    | nil => rfl
    | cons q qs => simpa [find?] using h q.1
  | cons p ps ih =>
    obtain ⟨n, v⟩ := p
    cases qs with
    | nil => simpa [find?] using h n
    | cons q qs =>
      obtain ⟨m, w⟩ := q
      obtain ⟨hp₁, hp₂⟩ := List.pairwise_cons.1 hp
      obtain ⟨hq₁, hq₂⟩ := List.pairwise_cons.1 hq
      have hnm : n = m := by
        by_cases hlt : n < m
        · have hn := h n
          rw [@find?_eq_none_of_lt n ((m, w) :: qs) fun p hp => by
            rcases List.mem_cons.1 hp with rfl | hp
            · exact hlt
            · exact List.lt_trans hlt (hq₁ p hp)] at hn
          simp [find?] at hn
        · by_cases he : n = m
          · exact he
          · have hgt := lt_of_not_lt_of_ne hlt he
            have hm := h m
            rw [@find?_eq_none_of_lt m ((n, v) :: ps) fun p hp => by
              rcases List.mem_cons.1 hp with rfl | hp
              · exact hgt
              · exact List.lt_trans hgt (hp₁ p hp)] at hm
            simp [find?] at hm
      subst hnm
      have hv : v = w := by simpa [find?] using h n
      subst hv
      congr 1
      refine ih hp₂ hq₂ fun k => ?_
      by_cases hk : k = n
      · subst hk
        rw [find?_eq_none_of_lt hp₁, find?_eq_none_of_lt hq₁]
      · simpa [find?, hk] using h k

/-- **Bindings with the same values are equal,** in whatever order they were set. -/
theorem ext {b c : Bindings} (h : ∀ n, b.get? n = c.get? n) : b = c := by
  obtain ⟨ps, hp⟩ := b
  obtain ⟨qs, hq⟩ := c
  simp only [mk.injEq]
  exact eq_of_find?_eq hp hq h

end Bindings
end LineMachine
