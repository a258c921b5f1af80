/-
# Reading line by line

A line is checked alone when it is read, and yet a source that does not fail is
read to its end exactly when all its bytes together are well-formed
(`Source.snd_read_eq_none_iff`): lines are cut at newlines, and no newline is
part of a longer character.  Else the lines before the first ill-formed position
are read, and no other (`Source.length_read_of_not_wellFormed`).

What comes after a newline has no part in the lines before it: a source that is
cut there has the same first lines (`Source.read_upTo`), and whole lines can be
put in front of any source (`Source.read_append_of_whole`).  Of a source that fails
only whole lines are read (`Source.read_torn`).
-/

import LineMachine.Source
import LineMachine.Proofs.Text.Lines
import LineMachine.Proofs.Text.WellFormed

namespace LineMachine
namespace Source

open Utf8 (WellFormed validLength)

theorem newline_lt : newline.toNat < 0x80 := by decide

/-- A carriage return is a character by itself. -/
theorem wellFormed_dropReturn_iff {l : Bytes} : WellFormed (dropReturn l) ↔ WellFormed l := by
  rw [dropReturn]
  split
  · rename_i h
    obtain ⟨l', rfl⟩ := List.getLast?_eq_some_iff.1 h
    rw [List.dropLast_concat, Utf8.wellFormed_append_cons_iff (by decide)]
    exact ⟨fun h => ⟨h, Utf8.wellFormed_nil⟩, fun h => h.1⟩
  · rfl

/-- An ill-formed line ends the reading. -/
theorem read_append_cons_of_not_wellFormed {l : Bytes} (hl : newline ∉ l) (h : ¬ WellFormed l)
    (b : Bytes) (f : Option Fault) : read ⟨l ++ newline :: b, f⟩ = ([], some .illFormed) := by
  have hd : Utf8.decode (dropReturn l) = none := by
    rwa [Utf8.decode_eq_none_iff, wellFormed_dropReturn_iff]
  simp [read, rawLines, Lines.cut_append_cons hl, decodeLines, hd]

/-- A well-formed line is read, and after it what follows. -/
theorem exists_read_append_cons {l : Bytes} (hl : newline ∉ l) (h : WellFormed l) :
    ∃ t, ∀ b f, read ⟨l ++ newline :: b, f⟩ = (t :: (read ⟨b, f⟩).1, (read ⟨b, f⟩).2) := by
  obtain ⟨t, ht⟩ := wellFormed_dropReturn_iff.2 h
  exact ⟨t, read_append_cons hl (Utf8.decode_eq_some_iff.2 ht)⟩

/-- A last line that no newline ends. -/
theorem read_of_not_mem {l : Bytes} (hl : newline ∉ l) :
    (WellFormed l → (read { bytes := l }).2 = none) ∧
      (¬ WellFormed l → read { bytes := l } = ([], some .illFormed)) := by
  rw [read, rawLines, Lines.cut_of_not_mem hl]
  by_cases h0 : l = []
  · subst h0
    exact ⟨fun _ => rfl, fun h => absurd Utf8.wellFormed_nil h⟩
  · simp only [h0, Option.isSome_none, or_self, List.map_nil, List.nil_append, decodeLines,
      Bool.false_eq_true, if_false]
    constructor
    · rintro ⟨t, rfl⟩
      simp [Utf8.decode_encode]
    · intro h
      simp [Utf8.decode_eq_none_iff.2 h]

/-- What stands after the last newline is lost when the source fails. -/
theorem read_fault_of_not_mem {l : Bytes} (hl : newline ∉ l) (f : Fault) :
    read ⟨l, some f⟩ = ([], some f) := by
  simp [read, rawLines, Lines.cut_of_not_mem hl, decodeLines]

/-- Without a newline there is no line before the one that cannot be read. -/
theorem fst_read_eq_nil_of_not_mem {l : Bytes} (hl : newline ∉ l) {f : Option Fault}
    (h : (read ⟨l, f⟩).2 ≠ none) : (read ⟨l, f⟩).1 = [] := by
  cases f with
  | some f => rw [read_fault_of_not_mem hl]
  | none =>
    obtain ⟨hread, hfail⟩ := read_of_not_mem hl
    rw [hfail fun hw => h (hread hw)]

/-- **Bytes are read to their end exactly when they are well-formed.** -/
theorem snd_read_eq_none_iff {b : Bytes} : (read { bytes := b }).2 = none ↔ WellFormed b := by
  induction b using Lines.induction newline with
  | last l hl =>
    by_cases h : WellFormed l
    · exact ⟨fun _ => h, fun _ => (read_of_not_mem hl).1 h⟩
    · simp [(read_of_not_mem hl).2 h, h]
  | line l b hl ih =>
    rw [Utf8.wellFormed_append_cons_iff newline_lt]
    by_cases h : WellFormed l
    · obtain ⟨t, ht⟩ := exists_read_append_cons hl h
      rw [ht, ih]
      simp [h]
    · simp [read_append_cons_of_not_wellFormed hl h, h]

/-- **Of ill-formed bytes the lines before the first ill-formed position are
read.** -/
theorem length_read_of_not_wellFormed {b : Bytes} (hb : ¬ WellFormed b) :
    (read { bytes := b }).2 = some .illFormed ∧
      (read { bytes := b }).1.length = (b.take (validLength b)).count newline := by
  induction b using Lines.induction newline with
  | last l hl =>
    rw [(read_of_not_mem hl).2 hb]
    exact ⟨rfl, (List.count_eq_zero.2 fun h => hl (List.mem_of_mem_take h)).symm⟩
  | line l b hl ih =>
    by_cases h : WellFormed l
    · rw [Utf8.wellFormed_append_cons_iff newline_lt] at hb
      obtain ⟨hf, hlen⟩ := ih fun hb' => hb ⟨h, hb'⟩
      obtain ⟨t, ht⟩ := exists_read_append_cons hl h
      have hline : WellFormed (l ++ [newline]) :=
        (Utf8.wellFormed_append_cons_iff newline_lt).2 ⟨h, Utf8.wellFormed_nil⟩
      have hv : (l ++ newline :: b).take (validLength (l ++ newline :: b)) =
          l ++ newline :: b.take (validLength b) := by
        rw [List.append_cons, Utf8.validLength_append hline, List.take_length_add_append,
          ← List.append_cons]
      rw [ht, hv, List.count_append, List.count_cons_self, List.count_eq_zero.2 hl]
      exact ⟨hf, by simpa using hlen⟩
    · rw [read_append_cons_of_not_wellFormed hl h]
      exact ⟨rfl, (List.count_eq_zero.2 (Utf8.not_mem_take_validLength newline_lt hl h)).symm⟩

/-- **What comes after a newline has no part in the lines before it.** -/
theorem read_upTo {b : Bytes} {f : Option Fault} {k : Nat} (hk : k ≤ (read ⟨b, f⟩).1.length)
    (hc : k ≤ b.count newline) :
    read { bytes := Lines.upTo newline k b } = ((read ⟨b, f⟩).1.take k, none) := by
  induction b using Lines.induction newline generalizing k with
  | last l hl =>
    obtain rfl : k = 0 := by simpa [List.count_eq_zero.2 hl] using hc
    rw [Lines.upTo_zero]
    rfl
  | line l b hl ih =>
    cases k with
    | zero =>
      rw [Lines.upTo_zero]
      rfl
    | succ k =>
      by_cases h : WellFormed l
      · obtain ⟨t, ht⟩ := exists_read_append_cons hl h
        rw [ht, List.length_cons] at hk
        rw [List.count_append, List.count_cons_self] at hc
        have hrest := ih (k := k) (by omega) (by rw [List.count_eq_zero.2 hl] at hc; omega)
        rw [Lines.upTo_append_cons hl, ht, ht, hrest, List.take_succ_cons]
      · rw [read_append_cons_of_not_wellFormed hl h] at hk
        simp at hk

/-- **Whole lines in front** are read first, and what follows them is read as if
it stood alone. -/
theorem read_append_of_whole {a : Bytes} (ha : Lines.Whole newline a)
    (h : (read { bytes := a }).2 = none) (b : Bytes) (f : Option Fault) :
    read ⟨a ++ b, f⟩ = ((read { bytes := a }).1 ++ (read ⟨b, f⟩).1, (read ⟨b, f⟩).2) := by
  induction a, ha using Lines.Whole.induction with
  | nil => rfl
  | line l a hl ha ih =>
    by_cases hw : WellFormed l
    · obtain ⟨t, ht⟩ := exists_read_append_cons hl hw
      rw [ht] at h
      rw [List.append_assoc, List.cons_append, ht, ht, ih h]
      rfl
    · rw [read_append_cons_of_not_wellFormed hl hw] at h
      cases h

/-- Whole lines are as many as their newlines. -/
theorem length_read_of_whole {a : Bytes} (ha : Lines.Whole newline a)
    (h : (read { bytes := a }).2 = none) : (read { bytes := a }).1.length = a.count newline := by
  induction a, ha using Lines.Whole.induction with
  | nil => rfl
  | line l a hl ha ih =>
    by_cases hw : WellFormed l
    · obtain ⟨t, ht⟩ := exists_read_append_cons hl hw
      rw [ht] at h
      rw [ht, List.length_cons, ih h, List.count_append, List.count_cons_self,
        List.count_eq_zero.2 hl, Nat.zero_add]
    · rw [read_append_cons_of_not_wellFormed hl hw] at h
      cases h

/-- What follows lines that cannot all be read is never reached. -/
theorem read_append_of_fault {a : Bytes} (ha : Lines.Whole newline a)
    (h : (read { bytes := a }).2 ≠ none) (b : Bytes) (f : Option Fault) :
    read ⟨a ++ b, f⟩ = read { bytes := a } := by
  induction a, ha using Lines.Whole.induction with
  | nil => exact absurd rfl h
  | line l a hl ha ih =>
    rw [List.append_assoc, List.cons_append]
    by_cases hw : WellFormed l
    · obtain ⟨t, ht⟩ := exists_read_append_cons hl hw
      rw [ht] at h
      rw [ht, ht, ih h]
    · rw [read_append_cons_of_not_wellFormed hl hw, read_append_cons_of_not_wellFormed hl hw]

/-- **A source that fails** gives the whole lines before, unless one of them cannot
be read; what it has begun of another line is not there. -/
theorem read_torn {a tail : Bytes} (ha : Lines.Whole newline a) (ht : newline ∉ tail) (f : Fault) :
    read ⟨a ++ tail, some f⟩ =
      ((read { bytes := a }).1, some ((read { bytes := a }).2.getD f)) := by
  cases h : (read { bytes := a }).2 with
  | none =>
    rw [read_append_of_whole ha h, read_fault_of_not_mem ht, List.append_nil]
    rfl
  | some cause =>
    rw [read_append_of_fault ha (by simp [h])]
    exact Prod.ext rfl h

end Source
end LineMachine
