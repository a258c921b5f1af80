/-
# What trimming keeps

Blank text at the ends of a text does not show once the text is trimmed
(`Text.trim_append_append`), and a text is its own trim exactly when it neither
begins nor ends with a blank character (`Text.trim_eq_self_iff`).  So there is one
text without blank ends that blank text can be put around to get a given one, and
this is what trimming leaves (`Text.isTrim_iff`).
-/

import LineMachine.Text.Blank

namespace LineMachine
namespace Text

theorem blank_append {a b : Text} : blank (a ++ b) ↔ blank a ∧ blank b := by
  rw [blank, List.all_append, Bool.and_eq_true]
  rfl

/-- A character that is not blank is in no blank text. -/
theorem not_mem_of_blank {a : Text} {c : Char} (ha : blank a) (hc : ¬ isBlank c) : c ∉ a :=
  fun h => hc (List.all_eq_true.1 ha c h)

theorem trim_append_left {a : Text} (ha : blank a) (t : Text) : trim (a ++ t) = trim t := by
  rw [trim, trim, trimStart, List.dropWhile_append_of_pos (List.all_eq_true.1 ha), trimStart]

theorem trimEnd_append {b : Text} (hb : blank b) (t : Text) : trimEnd (t ++ b) = trimEnd t := by
  rw [trimEnd, trimEnd, List.reverse_append, List.dropWhile_append_of_pos]
  intro c hc
  exact List.all_eq_true.1 hb c (List.mem_reverse.1 hc)

theorem trim_append_right {b : Text} (hb : blank b) (t : Text) : trim (t ++ b) = trim t := by
  by_cases ht : blank t
  · rw [trim_eq_nil_iff.2 ht, trim_eq_nil_iff, blank_append]
    exact ⟨ht, hb⟩
  · have hne : (trimStart t).isEmpty = false := by
      rwa [List.isEmpty_eq_false_iff, ne_eq, trimStart_eq_nil_iff]
    have hs : trimStart (t ++ b) = trimStart t ++ b := by
      rw [trimStart] at hne ⊢
      rw [List.dropWhile_append, hne]
      rfl
    rw [trim, trim, hs, trimEnd_append hb]

/-- **Blank ends do not show** in what is trimmed. -/
theorem trim_append_append {a b : Text} (ha : blank a) (hb : blank b) (t : Text) :
    trim (a ++ t ++ b) = trim t := by
  rw [trim_append_right hb, trim_append_left ha]

@[simp] theorem trim_trim (t : Text) : trim (trim t) = trim t := by
  obtain ⟨a, b, ha, hb, h⟩ := exists_append_trim_append t
  rw [← trim_append_append ha hb (trim t), ← h]

theorem length_trim_le (t : Text) : (trim t).length ≤ t.length := by
  obtain ⟨a, b, -, -, h⟩ := exists_append_trim_append t
  have := congrArg List.length h
  simp only [List.length_append] at this
  omega

/-- Nothing is added by trimming. -/
theorem mem_of_mem_trim {t : Text} {c : Char} (h : c ∈ trim t) : c ∈ t := by
  obtain ⟨a, b, -, -, ht⟩ := exists_append_trim_append t
  rw [ht]
  exact List.mem_append_left b (List.mem_append_right a h)

/-- What is trimmed away is blank. -/
theorem mem_trim {t : Text} {c : Char} (hc : ¬ isBlank c) : c ∈ trim t ↔ c ∈ t := by
  obtain ⟨a, b, ha, hb, h⟩ := exists_append_trim_append t
  have hca := not_mem_of_blank ha hc
  have hcb := not_mem_of_blank hb hc
  constructor
  · intro hm
    rw [h]
    simp [hm]
  · intro hm
    rw [h] at hm
    simpa [hca, hcb] using hm

/-- What is not blank stays as often as it was. -/
theorem count_trim {c : Char} (hc : ¬ isBlank c) (t : Text) : (trim t).count c = t.count c := by
  obtain ⟨a, b, ha, hb, h⟩ := exists_append_trim_append t
  have hca := List.count_eq_zero.2 (not_mem_of_blank ha hc)
  have hcb := List.count_eq_zero.2 (not_mem_of_blank hb hc)
  have hcount := congrArg (List.count c) h
  rw [List.count_append, List.count_append, hca, hcb] at hcount
  omega

/-- **A text is its own trim** exactly when no end of it is blank. -/
theorem trim_eq_self_iff {t : Text} :
    trim t = t ↔ (∀ c ∈ t.head?, ¬ isBlank c) ∧ ∀ c ∈ t.getLast?, ¬ isBlank c := by
  constructor
  · intro h
    constructor
    · intro c hc hb
      obtain ⟨u, rfl⟩ := List.head?_eq_some_iff.1 hc
      have hu := trim_append_left (a := [c]) (by simpa [blank] using hb) u
      have hlen := length_trim_le u
      rw [List.singleton_append, h] at hu
      rw [← hu, List.length_cons] at hlen
      omega
    · intro c hc hb
      obtain ⟨u, rfl⟩ := List.getLast?_eq_some_iff.1 hc
      have hu := trim_append_right (b := [c]) (by simpa [blank] using hb) u
      have hlen := length_trim_le u
      rw [h] at hu
      rw [← hu, List.length_append, List.length_singleton] at hlen
      omega
  · rintro ⟨hhead, hlast⟩
    obtain ⟨a, b, ha, hb, h⟩ := exists_append_trim_append t
    have ha' : a = [] := by
      cases a with
      | nil => rfl
      | cons c a => exact absurd (List.all_eq_true.1 ha c (by simp)) (hhead c (by rw [h]; simp))
    have hb' : b = [] := by
      rcases List.eq_nil_or_concat b with hb' | ⟨b', c, rfl⟩
      · exact hb'
      · exact absurd (List.all_eq_true.1 hb c (by simp)) (hlast c (by rw [h]; simp))
    rw [ha', hb', List.nil_append, List.append_nil] at h
    exact h.symm

/-- `m` has no blank end, and `t` is `m` with blank text around it. -/
structure IsTrim (t m : Text) : Prop where
  eq_append : ∃ a b, blank a ∧ blank b ∧ t = a ++ m ++ b
  head : ∀ c ∈ m.head?, ¬ isBlank c
  last : ∀ c ∈ m.getLast?, ¬ isBlank c

/-- **Only the trim is left** when blank text is taken from both ends. -/
theorem isTrim_iff {t m : Text} : IsTrim t m ↔ m = trim t := by
  constructor
  · rintro ⟨⟨a, b, ha, hb, rfl⟩, hhead, hlast⟩
    rw [trim_append_append ha hb, trim_eq_self_iff.2 ⟨hhead, hlast⟩]
  · rintro rfl
    obtain ⟨hhead, hlast⟩ := trim_eq_self_iff.1 (trim_trim t)
    exact ⟨exists_append_trim_append t, hhead, hlast⟩

end Text
end LineMachine
