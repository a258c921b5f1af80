/-
# Blank characters and trimming

The blank characters are those with the `White_Space` property: the controls
from tab to carriage return, the space, next line, the no-break space and the
spaces of the general punctuation and ideographic blocks.  `Text.trim` removes
them at both ends (`Text.exists_append_trim_append`) and leaves nothing exactly
of the blank texts (`Text.trim_eq_nil_iff`).
-/

import LineMachine.Text.Basic

namespace LineMachine

/-- The ranges of the `White_Space` property, both ends included. -/
def blankRanges : List (Nat × Nat) :=
  [(0x09, 0x0D), (0x20, 0x20), (0x85, 0x85), (0xA0, 0xA0), (0x1680, 0x1680),
   (0x2000, 0x200A), (0x2028, 0x2029), (0x202F, 0x202F), (0x205F, 0x205F), (0x3000, 0x3000)]

/-- A character with the `White_Space` property. -/
def isBlank (c : Char) : Bool := within blankRanges c.toNat

namespace Text

/-- A text that is empty or made of blank characters only. -/
def blank (t : Text) : Bool := t.all isBlank

/-- The text from its first character that is not blank. -/
def trimStart (t : Text) : Text := t.dropWhile isBlank

/-- The text up to its last character that is not blank. -/
def trimEnd (t : Text) : Text := (t.reverse.dropWhile isBlank).reverse

/-- The text without the blank characters at its two ends. -/
def trim (t : Text) : Text := trimEnd (trimStart t)

theorem trimStart_eq_nil_iff {t : Text} : trimStart t = [] ↔ blank t := by
  induction t with
  | nil => simp [trimStart, blank]
  | cons c t ih =>
    simp only [trimStart, blank] at ih
    by_cases h : isBlank c <;> simp [trimStart, blank, h, ih]

/-- What trimming at the front removes is blank. -/
theorem exists_append_trimStart (t : Text) : ∃ a, blank a ∧ t = a ++ trimStart t :=
  ⟨t.takeWhile isBlank, List.all_takeWhile, (List.takeWhile_append_dropWhile ..).symm⟩

/-- What trimming at the end removes is blank. -/
theorem exists_trimEnd_append (t : Text) : ∃ b, blank b ∧ t = trimEnd t ++ b := by
  obtain ⟨a, ha, h⟩ := exists_append_trimStart t.reverse
  refine ⟨a.reverse, by simpa [blank] using ha, ?_⟩
  rw [← List.reverse_inj, h]
  simp [trimEnd, trimStart]

/-- **Trimming removes a blank stretch at each end, and nothing else.** -/
theorem exists_append_trim_append (t : Text) :
    ∃ a b, blank a ∧ blank b ∧ t = a ++ trim t ++ b := by
  obtain ⟨a, ha, h⟩ := exists_append_trimStart t
  obtain ⟨b, hb, h'⟩ := exists_trimEnd_append (trimStart t)
  exact ⟨a, b, ha, hb, by rw [trim, List.append_assoc, ← h', ← h]⟩

/-- **Nothing is left exactly of blank texts.** -/
theorem trim_eq_nil_iff {t : Text} : trim t = [] ↔ blank t := by
  constructor
  · intro h
    obtain ⟨a, b, ha, hb, ht⟩ := exists_append_trim_append t
    rw [h, List.append_nil] at ht
    rw [ht]
    simp only [blank, List.all_append, Bool.and_eq_true] at ha hb ⊢
    exact ⟨ha, hb⟩
  · intro h
    simp [trim, trimEnd, trimStart_eq_nil_iff.2 h]

end Text
end LineMachine
