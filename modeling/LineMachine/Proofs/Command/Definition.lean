/-
# Which definitions lines make

The line is trimmed before it is cut at `=`, and so are both sides of the cut;
the first trim can be left out (`Command.ofDefinition_trim`).  So a line without
`print` makes a definition exactly when it has `define` and an `=`, anywhere
(`Command.ofLine_eq_define_iff`).

A line that makes a definition has no `print` in it, and still what it defines
can: taking `define` out of `pridefinent = 1` leaves `print = 1`.  What stands
on both sides of the keyword then comes together at one place only, and nothing
before that place is a `define` (`Command.Definable`).  This is all that can be
said: every name and value of this kind is defined by some line
(`Command.exists_ofLine_eq_define_iff`).
-/

import LineMachine.Command
import LineMachine.Proofs.Text.Occurrence
import LineMachine.Proofs.Text.Trim

namespace LineMachine
namespace Text

/-- **Trimming before a cut does not show** in what is trimmed after it, if the
cut is at a character that is not blank. -/
theorem map_cut?_trim {c : Char} (hc : ¬ isBlank c) (t : Text) :
    (cut? [c] (trim t)).map (fun p => (trim p.1, trim p.2)) =
      (cut? [c] t).map (fun p => (trim p.1, trim p.2)) := by
  obtain ⟨a, b, ha, hb, ht⟩ := exists_append_trim_append t
  cases h : cut? [c] (trim t) with
  | none =>
    have hn : cut? [c] t = none := by
      rw [cut?_eq_none_iff, List.singleton_infix_iff, mem_trim hc] at h
      rwa [cut?_eq_none_iff, List.singleton_infix_iff]
    rw [hn]
  | some p =>
    obtain ⟨x, y⟩ := p
    obtain ⟨hxy, hcx⟩ := cut?_singleton_eq_some_iff.1 h
    have hs : cut? [c] t = some (a ++ x, y ++ b) := by
      rw [cut?_singleton_eq_some_iff]
      refine ⟨?_, fun hm => ?_⟩
      · rw [ht, hxy]
        simp
      · exact (List.mem_append.1 hm).elim (not_mem_of_blank ha hc) hcx
    rw [hs, Option.map_some, Option.map_some, trim_append_left ha, trim_append_right hb]

/-- Trimming the sides of a character does not move the keys in them past each
other. -/
theorem OccursAt.exists_strictMono_trim (x y : Text) (c : Char) :
    ∃ f : Nat → Nat, StrictMono f ∧ ∀ key i, key ≠ [] → c ∉ key →
      OccursAt key (x.trim ++ c :: y.trim) i → OccursAt key (x ++ c :: y) (f i) := by
  obtain ⟨u, v, -, -, hx⟩ := exists_append_trim_append x
  obtain ⟨u', v', -, -, hy⟩ := exists_append_trim_append y
  have hsides : u ++ x.trim ++ (v ++ c :: u') ++ y.trim ++ v' = x ++ c :: y := by
    conv => rhs; rw [hx, hy]
    simp
  rw [← hsides]
  exact exists_strictMono u v' (by simp) c

end Text

namespace Command

open Text (OccursAt)

theorem ofDefinition_eq (line rest : Text) :
    ofDefinition line rest =
      ((Text.cut? ['='] rest).map fun p => (p.1.trim, p.2.trim)).elim (.malformed line)
        fun d => .define d.1 d.2 := by
  rw [ofDefinition]
  cases Text.cut? ['='] rest <;> rfl

/-- The rest of a line need not be trimmed before it is cut. -/
theorem ofDefinition_trim (line rest : Text) :
    ofDefinition line rest.trim = ofDefinition line rest := by
  rw [ofDefinition_eq, ofDefinition_eq, Text.map_cut?_trim (c := '=') (by decide)]

/-- **When a line makes a definition,** and which. -/
theorem ofLine_eq_define_iff {line name value : Text} :
    ofLine line = .define name value ↔
      ¬ printKey <:+: line ∧ ∃ (a b x y : Text), Text.cut? defineKey line = some (a, b) ∧
        a ++ b = x ++ '=' :: y ∧ '=' ∉ x ∧ name = x.trim ∧ value = y.trim := by
  rw [← Text.cut?_eq_none_iff, ofLine]
  cases hp : Text.cut? printKey line with
  | some p => simp
  | none =>
    cases hd : Text.cut? defineKey line with
    | none => simp
    | some q =>
      obtain ⟨a, b⟩ := q
      simp only [ofDefinition_trim, true_and, Option.some.injEq, Prod.mk.injEq]
      rw [ofDefinition]
      constructor
      · intro h
        split at h
        · rename_i x y hxy
          obtain ⟨hab, hx⟩ := Text.cut?_singleton_eq_some_iff.1 hxy
          obtain ⟨rfl, rfl⟩ := define.inj h
          exact ⟨a, b, x, y, ⟨rfl, rfl⟩, hab, hx, rfl, rfl⟩
        · cases h
      · rintro ⟨_, _, x, y, ⟨rfl, rfl⟩, hab, hx, rfl, rfl⟩
        rw [Text.cut?_singleton_eq_some_iff.2 ⟨hab, hx⟩]

/-! ### What the keywords share -/

variable {t a b : Text} {i j : Nat}

/-- The first characters of the keywords are `p` and `d`, and neither is in the
other keyword, nor a second time in its own. -/
theorem print_add_length_le (h : OccursAt printKey t i) (h' : OccursAt printKey t j)
    (hij : i < j) : i + printKey.length ≤ j :=
  h.add_length_le_of_not_mem_tail h' (c := 'p') (by decide) (by decide) hij

theorem define_add_length_le (h : OccursAt defineKey t i) (h' : OccursAt defineKey t j)
    (hij : i < j) : i + defineKey.length ≤ j :=
  h.add_length_le_of_not_mem_tail h' (c := 'd') (by decide) (by decide) hij

theorem print_add_length_le_define (h : OccursAt printKey t i) (h' : OccursAt defineKey t j)
    (hij : i ≤ j) : i + printKey.length ≤ j :=
  h.add_length_le_of_not_mem h' (c := 'd') (by decide) (by decide) hij

theorem define_add_length_le_print (h : OccursAt defineKey t i) (h' : OccursAt printKey t j)
    (hij : i ≤ j) : i + defineKey.length ≤ j :=
  h.add_length_le_of_not_mem h' (c := 'p') (by decide) (by decide) hij

/-- Putting `define` into a text makes no `print`. -/
theorem not_print_infix_insert (ha : ¬ printKey <:+: a) (hb : ¬ printKey <:+: b) :
    ¬ printKey <:+: a ++ defineKey ++ b := by
  intro h
  obtain ⟨i, hi⟩ := Text.infix_iff_exists_occursAt.1 h
  have hd := Text.occursAt_length a defineKey b
  rcases Nat.le_total i a.length with hle | hle
  · have hend := print_add_length_le_define hi hd hle
    rw [List.append_assoc, Text.occursAt_append_left_iff hend] at hi
    exact ha hi.isInfix
  · obtain ⟨k, rfl⟩ := Nat.exists_eq_add_of_le (define_add_length_le_print hd hi hle)
    rw [← List.length_append, Text.occursAt_append_right_iff] at hi
    exact hb hi.isInfix

/-- The first `define` of a text is one that nothing like it stands before. -/
theorem cut?_insert (b : Text) (ha : ¬ defineKey <:+: a) :
    Text.cut? defineKey (a ++ defineKey ++ b) = some (a, b) := by
  refine Text.cut?_eq_some_iff.2 ⟨rfl, fun i hi hocc => ?_⟩
  have hend := define_add_length_le hocc (Text.occursAt_length a defineKey b) hi
  rw [List.append_assoc, Text.occursAt_append_left_iff hend] at hocc
  exact ha hocc.isInfix

/-! ### What can be defined -/

/-- The names and values that lines define: both are trimmed, the name has no
`=`, and if there is a `print` in `name=value`, there is no other, and no
`define` that begins before it. -/
def Definable (name value : Text) : Prop :=
  name.trim = name ∧ value.trim = value ∧ '=' ∉ name ∧
    (¬ printKey <:+: name ++ '=' :: value ∨
      ∃ p, (∀ i, OccursAt printKey (name ++ '=' :: value) i ↔ i = p) ∧
        ∀ i < p, ¬ OccursAt defineKey (name ++ '=' :: value) i)

/-- **What a line defines is definable.**  A `print` in it stands on the seam that
is left where `define` was, so there is one only, and a `define` before it would
be a `define` in the line before the one that was taken out. -/
theorem definable_of_ofLine {line name value : Text} (h : ofLine line = .define name value) :
    Definable name value := by
  obtain ⟨hprint, a, b, x, y, hcut, hab, hx, rfl, rfl⟩ := ofLine_eq_define_iff.1 h
  obtain ⟨rfl, hfirst⟩ := Text.cut?_eq_some_iff.1 hcut
  have ha : ¬ printKey <:+: a := fun h => hprint (h.trans ⟨[], defineKey ++ b, by simp⟩)
  have hb : ¬ printKey <:+: b := fun h => hprint (h.trans (List.suffix_append ..).isInfix)
  refine ⟨Text.trim_trim x, Text.trim_trim y, ?_, ?_⟩
  · rwa [Text.mem_trim (by decide)]
  by_cases hp : printKey <:+: x.trim ++ '=' :: y.trim
  case neg => exact .inl hp
  obtain ⟨p, hp⟩ := Text.infix_iff_exists_occursAt.1 hp
  -- keys keep their order from the trimmed sides back to the line without `define`
  obtain ⟨f, hf, hocc⟩ := Text.OccursAt.exists_strictMono_trim x y '='
  rw [← hab] at hocc
  have hseam : ∀ i, OccursAt printKey (x.trim ++ '=' :: y.trim) i →
      f i < a.length ∧ a.length < f i + printKey.length := fun i hi =>
    (hocc printKey i (by decide) (by decide) hi).straddles ha hb
  refine .inr ⟨p, fun i => ⟨fun hi => ?_, fun hi => hi ▸ hp⟩, fun i hi hd => ?_⟩
  · have hfi := hocc printKey i (by decide) (by decide) hi
    have hfp := hocc printKey p (by decide) (by decide) hp
    obtain ⟨hi₁, hi₂⟩ := hseam i hi
    obtain ⟨hp₁, hp₂⟩ := hseam p hp
    refine hf.injective ?_
    rcases Nat.lt_trichotomy (f i) (f p) with hlt | heq | hlt
    · have := print_add_length_le hfi hfp hlt
      omega
    · exact heq
    · have := print_add_length_le hfp hfi hlt
      omega
  · have hfi := hocc defineKey i (by decide) (by decide) hd
    have hfp := hocc printKey p (by decide) (by decide) hp
    have hend := define_add_length_le_print hfi hfp (Nat.le_of_lt (hf hi))
    obtain ⟨hp₁, -⟩ := hseam p hp
    have hlen : f i + defineKey.length ≤ a.length := by omega
    rw [Text.occursAt_append_left_iff hlen] at hfi
    refine hfirst (f i) (Nat.lt_of_lt_of_le (hf hi) (by omega)) ?_
    rw [List.append_assoc]
    exact (Text.occursAt_append_left_iff hlen).2 hfi

/-- A definition is made by the line with `define` put in at a place that no
keyword stands on one side of, nor `print` on the other. -/
theorem ofLine_insert {a b name value : Text} (hab : a ++ b = name ++ '=' :: value)
    (hname : name.trim = name) (hvalue : value.trim = value) (heq : '=' ∉ name)
    (ha : ¬ printKey <:+: a) (hb : ¬ printKey <:+: b) (hd : ¬ defineKey <:+: a) :
    ofLine (a ++ defineKey ++ b) = .define name value :=
  ofLine_eq_define_iff.2 ⟨not_print_infix_insert ha hb, a, b, name, value, cut?_insert b hd, hab,
    heq, hname.symm, hvalue.symm⟩

/-- **Whatever is definable is defined by a line:** `define` goes in front, or
into the one `print`. -/
theorem exists_ofLine_of_definable {name value : Text} (h : Definable name value) :
    ∃ line, ofLine line = .define name value := by
  obtain ⟨hname, hvalue, heq, hp | ⟨p, hp, hd⟩⟩ := h
  · exact ⟨_, ofLine_insert (a := []) rfl hname hvalue heq (by decide) hp (by decide)⟩
  · generalize hs : name ++ '=' :: value = s at hp hd
    have hocc := (hp p).2 rfl
    have hlen := hocc.add_length_le (by decide)
    have hplen : printKey.length = 5 := rfl
    have hdlen : defineKey.length = 6 := rfl
    have hsplit : s.take (p + 2) ++ s.drop (p + 2) = s := List.take_append_drop ..
    have htake : (s.take (p + 2)).length = p + 2 := by
      rw [List.length_take]
      omega
    refine ⟨_, ofLine_insert (a := s.take (p + 2)) (b := s.drop (p + 2)) (hsplit.trans hs.symm)
      hname hvalue heq ?_ ?_ ?_⟩
    · intro h
      obtain ⟨i, hi⟩ := Text.infix_iff_exists_occursAt.1 h
      have hle := hi.add_length_le (by decide)
      have := (hp i).1 (hsplit ▸ (Text.occursAt_append_left_iff hle).2 hi)
      omega
    · intro h
      obtain ⟨i, hi⟩ := Text.infix_iff_exists_occursAt.1 h
      have := (hp _).1 (hsplit ▸ Text.occursAt_append_right_iff.2 hi)
      omega
    · intro h
      obtain ⟨i, hi⟩ := Text.infix_iff_exists_occursAt.1 h
      have hle := hi.add_length_le (by decide)
      exact hd i (by omega) (hsplit ▸ (Text.occursAt_append_left_iff hle).2 hi)

/-- **The definitions that lines make** are those of definable names and values. -/
theorem exists_ofLine_eq_define_iff {name value : Text} :
    (∃ line, ofLine line = .define name value) ↔ Definable name value :=
  ⟨fun ⟨_, h⟩ => definable_of_ofLine h, exists_ofLine_of_definable⟩

/-- The `print` that is bound here is not in the line. -/
example : ofLine "pridefinent = 1".toList = .define "print".toList "1".toList := by decide

end Command
end LineMachine
