/-
# Lines

`Lines.cut nl t` is the list of the stretches of `t` that `nl` ends, without
that `nl`, and the stretch after the last one.  It is the same rule for
characters and for bytes.  Nothing is lost (`Lines.join_cut`), no line holds an
`nl` (`Lines.not_mem_of_mem_cut`), and a text that ends with `nl` cuts into its
own lines followed by those of what comes next (`Lines.cut_append_cons`).
-/

import LineMachine.Text.Basic

namespace LineMachine
namespace Lines

variable {α : Type} [DecidableEq α]

/-- The stretches ended by `nl`, and the unfinished one after the last `nl`. -/
def cut (nl : α) : List α → List (List α) × List α
  | [] => ([], [])
  | c :: t =>
    let (done, rest) := cut nl t
    if c = nl then ([] :: done, rest)
    else
      match done with
      | [] => ([], c :: rest)
      | l :: ls => ((c :: l) :: ls, rest)

/-- All lines: the unfinished one counts unless it is empty. -/
def all (nl : α) (t : List α) : List (List α) :=
  let (done, rest) := cut nl t
  if rest = [] then done else done ++ [rest]

/-- **Cutting loses nothing:** the lines, each with its `nl`, and the rest make
up the text. -/
theorem join_cut (nl : α) (t : List α) :
    (cut nl t).1.flatMap (· ++ [nl]) ++ (cut nl t).2 = t := by
  induction t with
  | nil => rfl
  | cons c t ih =>
    simp only [cut]
    split
    · rename_i h
      simp [h, ih]
    · split
      · rename_i h
        rw [h] at ih
        simpa using ih
      · rename_i h
        rw [h] at ih
        simpa using ih

/-- A text without `nl` is one unfinished line. -/
theorem cut_of_not_mem {nl : α} {t : List α} (h : nl ∉ t) : cut nl t = ([], t) := by
  induction t with
  | nil => rfl
  | cons c t ih =>
    simp only [List.mem_cons, not_or] at h
    simp [cut, ih h.2, Ne.symm h.1]

/-- **A line, its `nl` and more text:** the first line comes off. -/
theorem cut_append_cons {nl : α} {l : List α} (h : nl ∉ l) (t : List α) :
    cut nl (l ++ nl :: t) = (l :: (cut nl t).1, (cut nl t).2) := by
  induction l with
  | nil => simp [cut]
  | cons c l ih =>
    simp only [List.mem_cons, not_or] at h
    simp [cut, ih h.2, Ne.symm h.1]

/-- **No line holds an `nl`.** -/
theorem not_mem_of_mem_cut {nl : α} {t : List α} :
    (∀ l ∈ (cut nl t).1, nl ∉ l) ∧ nl ∉ (cut nl t).2 := by
  induction t with
  | nil => simp [cut]
  | cons c t ih =>
    simp only [cut]
    split
    · simpa using ih
    · rename_i hc
      split
      · rename_i h
        rw [h] at ih
        simpa [Ne.symm hc] using ih
      · rename_i h
        rw [h] at ih
        simp only [List.mem_cons, forall_eq_or_imp] at ih ⊢
        exact ⟨⟨by simp [ih.1.1, Ne.symm hc], ih.1.2⟩, ih.2⟩

/-- The lines of a text are as many as the `nl`s in it. -/
theorem length_cut (nl : α) (t : List α) : (cut nl t).1.length = t.count nl := by
  induction t with
  | nil => rfl
  | cons c t ih =>
    simp only [cut]
    split
    · rename_i h
      simp [h, ih]
    · rename_i h
      rw [List.count_cons_of_ne h, ← ih]
      split <;> simp_all

end Lines
end LineMachine
