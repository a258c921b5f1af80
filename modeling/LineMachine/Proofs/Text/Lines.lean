/-
# Texts line by line

A text is a line, its `nl` and a shorter text, until no `nl` is left: what holds
of every text without `nl`, and of a line in front of any text it holds of,
holds of all texts (`Lines.induction`).  A text of whole lines has nothing after
its last `nl` (`Lines.Whole`).  `Lines.upTo nl k t` is what `t` begins with up to
its `k`th `nl`; as many `nl`s as there are lead to the last one
(`Lines.whole_upTo_count`).

A text has a line for each `nl`, and one more exactly if it is not made of whole
lines (`Lines.length_all`).  Whole lines in front of a text are lines of their
own (`Lines.all_append_of_whole`).
-/

import LineMachine.Text.Lines

namespace LineMachine
namespace Lines

variable {α : Type}

/-- The text is made of whole lines: it is empty, or ends with an `nl`. -/
def Whole (nl : α) (t : List α) : Prop := t = [] ∨ t.getLast? = some nl

theorem whole_nil (nl : α) : Whole nl [] := .inl rfl

theorem whole_append_cons_iff {nl : α} {l t : List α} : Whole nl (l ++ nl :: t) ↔ Whole nl t := by
  cases t <;> simp [Whole, List.getLast?_append]

theorem Whole.eq_nil {nl : α} {t : List α} (h : Whole nl t) (ht : nl ∉ t) : t = [] := by
  rcases h with h | h
  · exact h
  · exact absurd (List.mem_of_getLast? h) ht

variable [DecidableEq α]

instance (nl : α) (t : List α) : Decidable (Whole nl t) :=
  inferInstanceAs (Decidable (t = [] ∨ t.getLast? = some nl))

/-- **Induction on the lines of a text.** -/
@[elab_as_elim]
theorem induction (nl : α) {motive : List α → Prop} (last : ∀ t, nl ∉ t → motive t)
    (line : ∀ l t, nl ∉ l → motive t → motive (l ++ nl :: t)) (t : List α) : motive t := by
  obtain ⟨hls, hr⟩ : (∀ l ∈ (cut nl t).1, nl ∉ l) ∧ nl ∉ (cut nl t).2 := not_mem_of_mem_cut
  rw [← join_cut nl t]
  generalize (cut nl t).1 = ls at hls
  induction ls with
  | nil => exact last _ hr
  | cons l ls ih =>
    rw [List.flatMap_cons, List.append_assoc, List.append_assoc, List.singleton_append]
    exact line l _ (hls l List.mem_cons_self) (ih fun l' hl' => hls l' (List.mem_cons_of_mem _ hl'))

/-- **Induction on whole lines.** -/
@[elab_as_elim]
theorem Whole.induction {nl : α} {motive : (t : List α) → Whole nl t → Prop}
    (nil : motive [] (whole_nil nl))
    (line : ∀ l t, nl ∉ l → ∀ ht : Whole nl t, motive t ht →
      motive (l ++ nl :: t) (whole_append_cons_iff.2 ht))
    (t : List α) (h : Whole nl t) : motive t h := by
  induction t using Lines.induction nl with
  | last t ht =>
    obtain rfl := h.eq_nil ht
    exact nil
  | line l t hl ih => exact line l t hl (whole_append_cons_iff.1 h) (ih _)

/-- **Lines that are joined are cut apart again.** -/
theorem cut_flatMap {nl : α} {ls : List (List α)} (h : ∀ l ∈ ls, nl ∉ l) :
    cut nl (ls.flatMap (· ++ [nl])) = (ls, []) := by
  induction ls with
  | nil => rfl
  | cons l ls ih =>
    have hl : nl ∉ l := h l List.mem_cons_self
    have hls : ∀ l' ∈ ls, nl ∉ l' := fun l' hl' => h l' (List.mem_cons_of_mem l hl')
    rw [List.flatMap_cons, List.append_assoc, List.singleton_append, cut_append_cons hl, ih hls]

/-- **Nothing is left behind the last `nl`** exactly of whole lines. -/
theorem snd_cut_eq_nil_iff {nl : α} {t : List α} : (cut nl t).2 = [] ↔ Whole nl t := by
  induction t using Lines.induction nl with
  | last t ht =>
    rw [cut_of_not_mem ht]
    exact ⟨.inl, fun h => h.eq_nil ht⟩
  | line l t hl ih => rw [cut_append_cons hl, whole_append_cons_iff, ih]

/-- **A text has a line for each `nl`,** and one more if it is not made of whole lines. -/
theorem length_all (nl : α) (t : List α) :
    (all nl t).length = t.count nl + if Whole nl t then 0 else 1 := by
  simp only [all, snd_cut_eq_nil_iff]
  split
  · rw [length_cut, Nat.add_zero]
  · rw [List.length_append, length_cut, List.length_singleton]

/-- Only the empty text has no line. -/
theorem all_eq_nil_iff {nl : α} {t : List α} : all nl t = [] ↔ t = [] := by
  constructor
  · intro h
    have hlength := length_all nl t
    rw [h, List.length_nil] at hlength
    split at hlength
    · rename_i hwhole
      exact hwhole.eq_nil (List.count_eq_zero.1 (by omega))
    · omega
  · rintro rfl
    rfl

theorem all_append_cons {nl : α} {l : List α} (h : nl ∉ l) (t : List α) :
    all nl (l ++ nl :: t) = l :: all nl t := by
  simp only [all, cut_append_cons h]
  split <;> rfl

/-- **Whole lines in front** are lines of their own, and what follows them is cut as
if it stood alone. -/
theorem all_append_of_whole {nl : α} {a : List α} (ha : Whole nl a) (b : List α) :
    all nl (a ++ b) = all nl a ++ all nl b := by
  induction a, ha using Whole.induction with
  | nil => rfl
  | line l a hl ha ih =>
    rw [List.append_assoc, List.cons_append, all_append_cons hl, all_append_cons hl, ih,
      List.cons_append]

/-- The text up to its `k`th `nl`, and that `nl`. -/
def upTo (nl : α) : Nat → List α → List α
  | 0, _ => []
  | _ + 1, [] => []
  | k + 1, c :: t => c :: upTo nl (if c = nl then k else k + 1) t

variable {nl : α}

@[simp] theorem upTo_zero (t : List α) : upTo nl 0 t = [] := by
  cases t <;> rfl

theorem upTo_append_cons {l : List α} (h : nl ∉ l) (k : Nat) (t : List α) :
    upTo nl (k + 1) (l ++ nl :: t) = l ++ nl :: upTo nl k t := by
  induction l with
  | nil => simp [upTo]
  | cons c l ih =>
    rw [List.mem_cons, not_or] at h
    rw [List.cons_append, upTo, if_neg (Ne.symm h.1), ih h.2, List.cons_append]

theorem upTo_prefix (k : Nat) (t : List α) : upTo nl k t <+: t := by
  induction t generalizing k with
  | nil => cases k <;> exact List.nil_prefix
  | cons c t ih =>
    cases k with
    | zero => exact List.nil_prefix
    | succ k => exact List.cons_prefix_cons.2 ⟨rfl, ih _⟩

/-- **A text up to its last `nl`** is made of whole lines, and no `nl` is behind it. -/
theorem whole_upTo_count (nl : α) (t : List α) :
    Whole nl (upTo nl (t.count nl) t) ∧ ∃ tail, t = upTo nl (t.count nl) t ++ tail ∧ nl ∉ tail := by
  induction t using Lines.induction nl with
  | last t ht =>
    rw [List.count_eq_zero.2 ht, upTo_zero]
    exact ⟨whole_nil nl, t, rfl, ht⟩
  | line l t hl ih =>
    obtain ⟨hwhole, tail, htail, hnl⟩ := ih
    have hcount : (l ++ nl :: t).count nl = t.count nl + 1 := by
      rw [List.count_append, List.count_cons_self, List.count_eq_zero.2 hl, Nat.zero_add]
    rw [hcount, upTo_append_cons hl]
    refine ⟨whole_append_cons_iff.2 hwhole, tail, ?_, hnl⟩
    rw [List.append_assoc, List.cons_append, ← htail]

end Lines
end LineMachine
