/-
# Cutting a text at a key

`Text.cut? key t` is the text before and after the **first** occurrence of
`key` in `t`.  The two parts and the key make up the text
(`Text.eq_append_of_cut?`), and there is no cut exactly when the key does not
occur (`Text.cut?_eq_none_iff`).
-/

import LineMachine.Text.Basic

namespace LineMachine
namespace Text

/-- The text before and after the first occurrence of `key`, if there is one. -/
def cut? (key : Text) : Text → Option (Text × Text)
  | [] => if key = [] then some ([], []) else none
  | c :: t =>
    if key <+: c :: t then some ([], (c :: t).drop key.length)
    else (cut? key t).map fun (a, b) => (c :: a, b)

/-- **A cut loses nothing:** the parts around the key make up the text. -/
theorem eq_append_of_cut? {key t a b : Text} (h : cut? key t = some (a, b)) :
    t = a ++ key ++ b := by
  induction t generalizing a with
  | nil =>
    by_cases hk : key = []
    · simp_all [cut?]
    · simp [cut?, hk] at h
  | cons c t ih =>
    by_cases hk : key <+: c :: t
    · obtain ⟨r, hr⟩ := hk
      rw [cut?, if_pos ⟨r, hr⟩, ← hr, List.drop_left] at h
      simp only [Option.some.injEq, Prod.mk.injEq] at h
      rw [← h.1, ← h.2, List.nil_append, hr]
    · rw [cut?, if_neg hk] at h
      obtain ⟨⟨a', b'⟩, h', he⟩ := Option.map_eq_some_iff.1 h
      simp only [Prod.mk.injEq] at he
      obtain ⟨rfl, rfl⟩ := he
      rw [ih h']
      rfl

/-- **There is no cut exactly when the key does not occur.** -/
theorem cut?_eq_none_iff {key t : Text} : cut? key t = none ↔ ¬ key <:+: t := by
  induction t with
  | nil => simp [cut?]
  | cons c t ih =>
    by_cases hk : key <+: c :: t
    · simp [cut?, hk, hk.isInfix]
    · simp [cut?, hk, ih, List.infix_cons_iff]

end Text
end LineMachine
