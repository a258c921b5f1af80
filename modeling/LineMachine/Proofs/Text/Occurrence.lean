/-
# Where a key occurs

`Text.OccursAt key t i` says that `key` stands in `t` from index `i` on.  Two
occurrences do not overlap if the first character of the later key is not one
that the earlier key holds there (`Text.OccursAt.getElem?_eq`); nothing else has
to be known about keywords.

`Text.cut?` cuts at the first occurrence, and there is one cut only with that
property (`Text.cut?_eq_some_iff`).
-/

import LineMachine.Text.Cut
import Mathlib.Data.List.Infix
import Mathlib.Order.Monotone.Basic

namespace LineMachine
namespace Text

/-- The key stands in the text from an index on. -/
def OccursAt (key t : Text) (i : Nat) : Prop := key <+: t.drop i

instance (key t : Text) (i : Nat) : Decidable (OccursAt key t i) :=
  inferInstanceAs (Decidable (key <+: t.drop i))

theorem occursAt_length (a key b : Text) : OccursAt key (a ++ key ++ b) a.length := by
  rw [OccursAt, List.append_assoc, List.drop_left]
  exact List.prefix_append ..

theorem infix_iff_exists_occursAt {key t : Text} : key <:+: t ↔ ∃ i, OccursAt key t i := by
  constructor
  · rintro ⟨a, b, rfl⟩
    exact ⟨a.length, occursAt_length a key b⟩
  · rintro ⟨i, h⟩
    exact h.isInfix.trans (List.drop_suffix i t).isInfix

theorem occursAt_append_right_iff {key a b : Text} {i : Nat} :
    OccursAt key (a ++ b) (a.length + i) ↔ OccursAt key b i := by
  rw [OccursAt, OccursAt, List.drop_length_add_append]

/-- An occurrence that does not reach behind `a` is one in `a`. -/
theorem occursAt_append_left_iff {key a b : Text} {i : Nat} (h : i + key.length ≤ a.length) :
    OccursAt key (a ++ b) i ↔ OccursAt key a i := by
  rw [OccursAt, OccursAt, List.drop_append_of_le_length (by omega)]
  refine ⟨fun hk => ?_, fun hk => List.prefix_append_of_prefix hk⟩
  exact List.prefix_of_prefix_length_le hk (List.prefix_append ..) (by rw [List.length_drop]; omega)

namespace OccursAt

variable {key other t a b : Text} {i j : Nat} {c : Char}

theorem isInfix (h : OccursAt key t i) : key <:+: t := infix_iff_exists_occursAt.2 ⟨i, h⟩

theorem getElem? (h : OccursAt key t i) (hj : j < key.length) : t[i + j]? = key[j]? := by
  obtain ⟨r, hr⟩ := h
  rw [← List.getElem?_drop, ← hr, List.getElem?_append_left hj]

theorem add_length_le (h : OccursAt key t i) (hk : key ≠ []) : i + key.length ≤ t.length := by
  have hpos := List.length_pos_iff.2 hk
  have hle := h.length_le
  rw [List.length_drop] at hle
  omega

/-- **Occurrences that overlap:** the earlier key holds the first character of
the later one. -/
theorem getElem?_eq (h : OccursAt key t i) (h' : OccursAt other t j) (hc : other.head? = some c)
    (hij : i ≤ j) (hlt : j < i + key.length) : key[j - i]? = some c := by
  have hpos : 0 < other.length := List.length_pos_iff.2 fun e => by simp [e] at hc
  have hc' := h'.getElem? hpos
  rw [← List.head?_eq_getElem?, hc, Nat.add_zero] at hc'
  rw [← h.getElem? (by omega), Nat.add_sub_cancel' hij, hc']

/-- A key whose first character is not in an earlier key occurs behind it. -/
theorem add_length_le_of_not_mem (h : OccursAt key t i) (h' : OccursAt other t j)
    (hc : other.head? = some c) (hck : c ∉ key) (hij : i ≤ j) : i + key.length ≤ j := by
  by_contra hlt
  exact hck (List.mem_of_getElem? (h.getElem?_eq h' hc hij (by omega)))

/-- A key whose first character it holds nowhere else does not overlap itself. -/
theorem add_length_le_of_not_mem_tail (h : OccursAt key t i) (h' : OccursAt key t j)
    (hc : key.head? = some c) (hck : c ∉ key.tail) (hij : i < j) : i + key.length ≤ j := by
  by_contra hlt
  have hget := h.getElem?_eq h' hc (by omega) (by omega)
  have htail : key.tail[j - i - 1]? = some c := by
    rw [List.getElem?_tail, ← hget]
    congr 1
    omega
  exact hck (List.mem_of_getElem? htail)

/-- An occurrence in neither of two texts stands on the seam between them. -/
theorem straddles (h : OccursAt key (a ++ b) i) (ha : ¬ key <:+: a) (hb : ¬ key <:+: b) :
    i < a.length ∧ a.length < i + key.length := by
  constructor
  · by_contra hn
    obtain ⟨k, rfl⟩ := Nat.exists_eq_add_of_le (Nat.not_lt.1 hn)
    exact hb (occursAt_append_right_iff.1 h).isInfix
  · by_contra hn
    exact ha ((occursAt_append_left_iff (Nat.not_lt.1 hn)).1 h).isInfix

/-- **A key stands on one side of a character it does not hold.** -/
theorem left_or_right (h : OccursAt key (a ++ c :: b) i) (hc : c ∉ key) :
    (i + key.length ≤ a.length ∧ OccursAt key a i) ∨
      ∃ k, i = a.length + 1 + k ∧ OccursAt key b k := by
  by_cases hleft : i + key.length ≤ a.length
  · exact .inl ⟨hleft, (occursAt_append_left_iff hleft).1 h⟩
  by_cases hright : a.length < i
  · obtain ⟨k, rfl⟩ := Nat.exists_eq_add_of_le hright
    have hlen : a.length.succ = (a ++ [c]).length := by simp
    rw [List.append_cons, hlen, occursAt_append_right_iff] at h
    exact .inr ⟨k, rfl, h⟩
  · have hget := h.getElem? (j := a.length - i) (by omega)
    rw [Nat.add_sub_cancel' (by omega), List.getElem?_append_right (Nat.le_refl _), Nat.sub_self,
      List.getElem?_cons_zero] at hget
    exact absurd (List.mem_of_getElem? hget.symm) hc

/-- **What surrounds two texts does not move the keys in them past each other:**
those on either side of one character are in the same order when more is between
the sides, and when there is text around them. -/
theorem exists_strictMono (a b : Text) {m l r : Text} (hm : m ≠ []) (c : Char) :
    ∃ f : Nat → Nat, StrictMono f ∧ ∀ key i, key ≠ [] → c ∉ key →
      OccursAt key (l ++ c :: r) i → OccursAt key (a ++ l ++ m ++ r ++ b) (f i) := by
  have hpos := List.length_pos_iff.2 hm
  refine ⟨fun i => if i < l.length then a.length + i else a.length + (m.length - 1) + i,
    fun i j hij => ?_, fun key i hk hc h => ?_⟩
  · dsimp only
    split <;> split <;> omega
  · dsimp only
    have hkpos := List.length_pos_iff.2 hk
    rcases h.left_or_right hc with ⟨hlen, hl⟩ | ⟨k, rfl, hr⟩
    · rw [if_pos (by omega)]
      simp only [List.append_assoc]
      exact occursAt_append_right_iff.2 ((occursAt_append_left_iff hlen).2 hl)
    · have hat : a.length + (m.length - 1) + (l.length + 1 + k) = (a ++ l ++ m).length + k := by
        simp only [List.length_append]
        omega
      rw [if_neg (by omega), hat, List.append_assoc _ r b, occursAt_append_right_iff]
      exact (occursAt_append_left_iff (hr.add_length_le hk)).2 hr

end OccursAt

/-- The key does not occur before the place of the cut. -/
theorem not_occursAt_of_cut? {key t a b : Text} (h : cut? key t = some (a, b)) :
    ∀ i < a.length, ¬ OccursAt key t i := by
  induction t generalizing a with
  | nil =>
    rw [cut?] at h
    split at h
    · obtain ⟨rfl, rfl⟩ := Prod.mk.inj (Option.some.inj h)
      simp
    · cases h
  | cons c t ih =>
    rw [cut?] at h
    split at h
    · obtain ⟨rfl, rfl⟩ := Prod.mk.inj (Option.some.inj h)
      simp
    · rename_i hk
      obtain ⟨⟨a', b'⟩, h', he⟩ := Option.map_eq_some_iff.1 h
      obtain ⟨rfl, rfl⟩ := Prod.mk.inj he
      intro i hi
      cases i with
      | zero => exact hk
      | succ i => exact ih h' i (by simpa using hi)

/-- **A cut is at the first occurrence,** and this says which cut it is. -/
theorem cut?_eq_some_iff {key t a b : Text} :
    cut? key t = some (a, b) ↔ t = a ++ key ++ b ∧ ∀ i < a.length, ¬ OccursAt key t i := by
  constructor
  · exact fun h => ⟨eq_append_of_cut? h, not_occursAt_of_cut? h⟩
  · rintro ⟨ht, hfirst⟩
    have hocc : OccursAt key t a.length := ht ▸ occursAt_length a key b
    cases h : cut? key t with
    | none => exact absurd hocc.isInfix (cut?_eq_none_iff.1 h)
    | some p =>
      obtain ⟨a', b'⟩ := p
      have ht' := eq_append_of_cut? h
      have hocc' : OccursAt key t a'.length := ht' ▸ occursAt_length a' key b'
      have hlen : a'.length = a.length :=
        Nat.le_antisymm (Nat.not_lt.1 fun hlt => not_occursAt_of_cut? h _ hlt hocc)
          (Nat.not_lt.1 fun hlt => hfirst _ hlt hocc')
      rw [ht, List.append_assoc, List.append_assoc] at ht'
      obtain ⟨rfl, hb⟩ := List.append_inj ht' hlen.symm
      rw [List.append_cancel_left hb]

/-- `t` is `a`, the key and `b`, with the shortest `a` there is. -/
structure FirstCut (key t a b : Text) : Prop where
  eq_append : t = a ++ key ++ b
  length_le : ∀ a' b', t = a' ++ key ++ b' → a.length ≤ a'.length

theorem cut?_eq_some_iff_firstCut {key t a b : Text} :
    cut? key t = some (a, b) ↔ FirstCut key t a b := by
  rw [cut?_eq_some_iff]
  constructor
  · rintro ⟨ht, hfirst⟩
    exact ⟨ht, fun a' b' ht' =>
      Nat.not_lt.1 fun hlt => hfirst _ hlt (ht' ▸ occursAt_length a' key b')⟩
  · rintro ⟨ht, hshort⟩
    refine ⟨ht, fun i hi ⟨r, hr⟩ => ?_⟩
    have hle := hshort (t.take i) r (by rw [List.append_assoc, hr, List.take_append_drop])
    rw [List.length_take] at hle
    omega

/-- A key that occurs is cut at. -/
theorem exists_cut?_eq_some {key t : Text} (h : key <:+: t) : ∃ a b, cut? key t = some (a, b) := by
  cases hcut : cut? key t with
  | none => exact absurd h (cut?_eq_none_iff.1 hcut)
  | some p => exact ⟨p.1, p.2, rfl⟩

/-- A cut at a single character. -/
theorem cut?_singleton_eq_some_iff {c : Char} {t a b : Text} :
    cut? [c] t = some (a, b) ↔ t = a ++ c :: b ∧ c ∉ a := by
  rw [cut?_eq_some_iff, List.append_assoc, List.singleton_append, and_congr_right_iff]
  rintro rfl
  constructor
  · intro h hc
    obtain ⟨i, hi⟩ := infix_iff_exists_occursAt.1 ((List.singleton_infix_iff c a).2 hc)
    have hlen := hi.add_length_le (by simp)
    exact h i hlen ((occursAt_append_left_iff hlen).2 hi)
  · intro h i hi hocc
    exact h ((List.singleton_infix_iff c a).1 ((occursAt_append_left_iff hi).1 hocc).isInfix)

/-! ### Text that shares no character with the key -/

section

variable {key a b t : Text}

theorem prefix_append_iff_of_disjoint (hb : b.Disjoint key) : key <+: t ++ b ↔ key <+: t := by
  refine ⟨fun h => ?_, fun h => h.trans (List.prefix_append t b)⟩
  rcases List.prefix_or_prefix_of_prefix h (List.prefix_append t b) with hk | ⟨r, rfl⟩
  · exact hk
  · -- what the key has behind `t` would be in `b`
    rw [List.prefix_append_right_inj] at h
    cases r with
    | nil => rw [List.append_nil]
    | cons c r => exact absurd (List.mem_append_right t List.mem_cons_self) (hb (h.subset (by simp)))

theorem cut?_append_left (hk : key ≠ []) (ha : a.Disjoint key) (t : Text) :
    cut? key (a ++ t) = (cut? key t).map fun p => (a ++ p.1, p.2) := by
  induction a with
  | nil => simp
  | cons c a ih =>
    obtain ⟨hc, ha⟩ := List.disjoint_cons_left.1 ha
    have hnot : ¬ key <+: c :: (a ++ t) := by
      obtain ⟨d, key, rfl⟩ := List.exists_cons_of_ne_nil hk
      rintro h
      exact hc ((List.cons_prefix_cons.1 h).1 ▸ List.mem_cons_self)
    rw [List.cons_append, cut?, if_neg hnot, ih ha, Option.map_map]
    rfl

theorem cut?_append_right (hk : key ≠ []) (hb : b.Disjoint key) (t : Text) :
    cut? key (t ++ b) = (cut? key t).map fun p => (p.1, p.2 ++ b) := by
  induction t with
  | nil =>
    have hnot : ¬ key <:+: b := fun h => by
      obtain ⟨c, hc⟩ := List.exists_mem_of_ne_nil key hk
      exact hb (h.subset hc) hc
    rw [List.nil_append, cut?_eq_none_iff.2 hnot, cut?, if_neg hk, Option.map_none]
  | cons c t ih =>
    have hiff : key <+: c :: (t ++ b) ↔ key <+: c :: t :=
      prefix_append_iff_of_disjoint (t := c :: t) hb
    rw [List.cons_append, cut?, cut?]
    by_cases h : key <+: c :: t
    · rw [if_pos h, if_pos (hiff.2 h), Option.map_some, ← List.cons_append,
        List.drop_append_of_le_length h.length_le]
    · rw [if_neg h, if_neg (mt hiff.1 h), ih, Option.map_map, Option.map_map]
      rfl

/-- **Text around does not move the cut,** if it shares no character with the key. -/
theorem cut?_append_append (hk : key ≠ []) (ha : a.Disjoint key) (hb : b.Disjoint key) (t : Text) :
    cut? key (a ++ t ++ b) = (cut? key t).map fun p => (a ++ p.1, p.2 ++ b) := by
  rw [cut?_append_right hk hb, cut?_append_left hk ha, Option.map_map]
  rfl

theorem infix_append_append_iff (hk : key ≠ []) (ha : a.Disjoint key) (hb : b.Disjoint key) :
    key <:+: a ++ t ++ b ↔ key <:+: t := by
  rw [← not_iff_not, ← cut?_eq_none_iff, ← cut?_eq_none_iff, cut?_append_append hk ha hb,
    Option.map_eq_none_iff]

/-- A key is on one side of a character that it does not hold. -/
theorem infix_append_cons_iff {c : Char} (hc : c ∉ key) :
    key <:+: a ++ c :: b ↔ key <:+: a ∨ key <:+: b := by
  constructor
  · intro h
    obtain ⟨i, hi⟩ := infix_iff_exists_occursAt.1 h
    rcases hi.left_or_right hc with ⟨-, ha⟩ | ⟨k, -, hb⟩
    · exact .inl ha.isInfix
    · exact .inr hb.isInfix
  · rintro (h | h)
    · exact h.trans (List.prefix_append ..).isInfix
    · exact h.trans ((List.suffix_cons c b).trans (List.suffix_append ..)).isInfix

end

end Text
end LineMachine
