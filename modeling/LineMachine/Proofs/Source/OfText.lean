/-
# Reading a text line by line

The lines of a text are its stretches up to a newline, each without a carriage
return at its end, and what follows the last newline, unless that is empty
(`Text.lines`).  A source cuts bytes, not characters, and decodes each line by
itself; over the bytes of a text this comes to the lines of the text, all of
them (`Source.read_ofText`), and over any other bytes to those of the text that
comes before the first ill-formed line (`Source.exists_read_eq`).
-/

import LineMachine.Proofs.Source.Reading

namespace LineMachine
namespace Text

/-- The line without a carriage return at its end. -/
def dropReturn (line : Text) : Text := if line.getLast? = some '\r' then line.dropLast else line

/-- The lines of the text, without what ends them. -/
def lines (t : Text) : List Text :=
  let (done, rest) := Lines.cut '\n' t
  done.map dropReturn ++ if rest = [] then [] else [rest]

theorem lines_of_not_mem {t : Text} (h : '\n' ∉ t) : t.lines = if t = [] then [] else [t] := by
  rw [lines, Lines.cut_of_not_mem h]
  rfl

theorem lines_append_cons {l : Text} (h : '\n' ∉ l) (t : Text) :
    lines (l ++ '\n' :: t) = l.dropReturn :: t.lines := by
  rw [lines, Lines.cut_append_cons h]
  rfl

/-- Dropping carriage returns drops no line. -/
theorem length_lines (t : Text) : t.lines.length = (Lines.all '\n' t).length := by
  simp only [lines, Lines.all]
  split
  · rw [List.append_nil, List.length_map]
  · rw [List.length_append, List.length_map, List.length_append]

theorem mem_of_mem_dropReturn {l : Text} {c : Char} (h : c ∈ l.dropReturn) : c ∈ l := by
  rw [dropReturn] at h
  split at h
  · exact List.dropLast_subset l h
  · exact h

/-- No line holds a newline. -/
theorem not_mem_of_mem_lines {t l : Text} (h : l ∈ t.lines) : '\n' ∉ l := by
  induction t using Lines.induction '\n' with
  | last t ht =>
    rw [lines_of_not_mem ht] at h
    split at h
    · cases h
    · rwa [List.mem_singleton.1 h]
  | line l' t hl' ih =>
    rw [lines_append_cons hl'] at h
    rcases List.mem_cons.1 h with rfl | h
    · exact fun hm => hl' (mem_of_mem_dropReturn hm)
    · exact ih h

/-- Lines are made of characters of the text. -/
theorem mem_of_mem_lines {t l : Text} (h : l ∈ t.lines) {c : Char} (hc : c ∈ l) : c ∈ t := by
  induction t using Lines.induction '\n' with
  | last t ht =>
    rw [lines_of_not_mem ht] at h
    split at h
    · cases h
    · rwa [← List.mem_singleton.1 h]
  | line l' t hl' ih =>
    rw [lines_append_cons hl'] at h
    rcases List.mem_cons.1 h with rfl | h
    · exact List.mem_append_left _ (mem_of_mem_dropReturn hc)
    · exact List.mem_append_right l' (List.mem_cons_of_mem '\n' (ih h))

section

variable {β : Type} {f : Text → β} (hf : ∀ l : Text, f l.dropReturn = f l)
include hf

/-- What `f` makes of a line that `\n` or `\r\n` ends, if no carriage return at the
end of a line counts for `f`. -/
theorem map_lines_append_append {sep : Text} (hsep : sep = ['\n'] ∨ sep = ['\r', '\n']) {l : Text}
    (hl : '\n' ∉ l) (t : Text) : (lines (l ++ sep ++ t)).map f = f l :: t.lines.map f := by
  rcases hsep with rfl | rfl
  · rw [List.append_assoc, List.singleton_append, lines_append_cons hl, List.map_cons, hf]
  · have hlr : '\n' ∉ l ++ ['\r'] := by simp [hl]
    have hdrop : dropReturn (l ++ ['\r']) = l := by simp [dropReturn]
    have hsplit : l ++ ['\r', '\n'] ++ t = (l ++ ['\r']) ++ '\n' :: t := by simp
    rw [hsplit, lines_append_cons hlr, List.map_cons, hdrop]

/-- **Lines that are joined are read back,** as far as it counts for `f`. -/
theorem map_lines_joinWith {sep : Text} (hsep : sep = ['\n'] ∨ sep = ['\r', '\n'])
    {ls : List Text} (h : ∀ l ∈ ls, l ≠ [] ∧ '\n' ∉ l) :
    (lines (joinWith sep ls)).map f = ls.map f := by
  induction ls using joinWith.induct with
  | case1 => rfl
  | case2 l =>
    obtain ⟨hne, hl⟩ := h l List.mem_cons_self
    rw [joinWith_singleton, lines_of_not_mem hl, if_neg hne]
  | case3 l ls hls ih =>
    obtain ⟨-, hl⟩ := h l List.mem_cons_self
    obtain ⟨l', ls, rfl⟩ := List.exists_cons_of_ne_nil hls
    rw [joinWith_cons_cons, map_lines_append_append hf hsep hl,
      ih fun l hl => h l (List.mem_cons_of_mem _ hl)]
    rfl

end

end Text

namespace Source

open Utf8 (WellFormed validLength)

theorem newline_mem_encode_iff {t : Text} : newline ∈ Utf8.encode t ↔ '\n' ∈ t :=
  Utf8.mem_encode_iff newline_lt

/-- The carriage return of a text is that of its bytes. -/
theorem dropReturn_encode (l : Text) : dropReturn (Utf8.encode l) = Utf8.encode l.dropReturn := by
  have hiff : (Utf8.encode l).getLast? = some carriageReturn ↔ l.getLast? = some '\r' :=
    Utf8.getLast?_encode_eq_some_iff (by decide)
  rw [dropReturn, Text.dropReturn]
  by_cases h : l.getLast? = some '\r'
  · rw [if_pos (hiff.2 h), if_pos h]
    obtain ⟨u, rfl⟩ := List.getLast?_eq_some_iff.1 h
    have hr : Utf8.encode ['\r'] = [carriageReturn] := by decide
    rw [Utf8.encode_append, hr, List.dropLast_concat, List.dropLast_concat]
  · rw [if_neg (mt hiff.1 h), if_neg h]

/-- **The bytes of a text are read as the lines of the text.** -/
theorem read_ofText (t : Text) : (ofText t).read = (t.lines, none) := by
  induction t using Lines.induction '\n' with
  | last t ht =>
    have hnl : newline ∉ Utf8.encode t := mt newline_mem_encode_iff.1 ht
    rw [Text.lines_of_not_mem ht, ofText, read, rawLines, Lines.cut_of_not_mem hnl]
    by_cases h : t = []
    · subst h
      rfl
    · have hne : Utf8.encode t ≠ [] := fun he => h (Utf8.encode_injective he)
      simp [h, hne, decodeLines, Utf8.decode_encode]
  | line l t hl ih =>
    have hnl : newline ∉ Utf8.encode l := mt newline_mem_encode_iff.1 hl
    have hcut : Utf8.encode (l ++ '\n' :: t) = Utf8.encode l ++ newline :: Utf8.encode t := by
      rw [Utf8.encode_append, Utf8.encode_cons]
      rfl
    have hdecode : Utf8.decode (dropReturn (Utf8.encode l)) = some (Text.dropReturn l) := by
      rw [dropReturn_encode, Utf8.decode_encode]
    rw [Text.lines_append_cons hl, ofText, hcut, read_append_cons hnl hdecode]
    rw [ofText] at ih
    rw [ih]

/-- The bytes of the lines before the first ill-formed one: all of them, if they
are well-formed. -/
def readable (b : Bytes) : Bytes :=
  if WellFormed b then b
  else Lines.upTo newline ((b.take (validLength b)).count newline) b

theorem readable_prefix (b : Bytes) : readable b <+: b := by
  rw [readable]
  split
  · exact List.prefix_refl b
  · exact Lines.upTo_prefix _ b

/-- **Any bytes are read as the lines of a text,** up to the first ill-formed line. -/
theorem exists_read_eq (b : Bytes) :
    ∃ t, readable b = Utf8.encode t ∧
      read { bytes := b } = (t.lines, if WellFormed b then none else some .illFormed) := by
  rw [readable]
  by_cases hb : WellFormed b
  · obtain ⟨t, rfl⟩ := hb
    rw [if_pos (Utf8.wellFormed_encode t), if_pos (Utf8.wellFormed_encode t)]
    exact ⟨t, rfl, read_ofText t⟩
  · obtain ⟨hfault, hlen⟩ := length_read_of_not_wellFormed hb
    have hcount := (List.take_sublist (validLength b) b).count_le newline
    have hread := read_upTo (Nat.le_of_eq hlen.symm) hcount
    rw [List.take_of_length_le (Nat.le_of_eq hlen)] at hread
    obtain ⟨t, ht⟩ := snd_read_eq_none_iff.1 (congrArg Prod.snd hread)
    rw [ht] at hread
    rw [if_neg hb, if_neg hb]
    have hlines := congrArg Prod.fst (hread.symm.trans (read_ofText t))
    exact ⟨t, ht, Prod.ext hlines hfault⟩

/-- One carriage return goes with a newline, and none with the end. -/
example : Text.lines "a\r\r\n\nb\r".toList = ["a\r".toList, [], "b\r".toList] := by decide

end Source
end LineMachine
