/-
# Well-formed bytes

Bytes are well-formed if a text has them for its own.  A byte below `0x80` is a
character by itself and no part of a longer one, so bytes can be cut at it
without cutting a character: the whole is well-formed exactly when both sides
are (`Utf8.wellFormed_append_cons_iff`), also when one of them ends in an
unfinished character or begins with a stray byte.

A byte below `0x80` in the bytes of a text stands for its character
(`Utf8.mem_encode_iff`).

`Utf8.validLength b` is the first ill-formed position of `b`, the length of the
longest well-formed stretch that `b` begins with.
-/

import LineMachine.Text.Utf8
import Mathlib.Data.Nat.Find

namespace LineMachine
namespace Utf8

/-- The bytes are those of a text. -/
def WellFormed (b : Bytes) : Prop := ∃ t, b = encode t

theorem wellFormed_iff_isSome {b : Bytes} : WellFormed b ↔ (decode b).isSome := by
  simp only [WellFormed, Option.isSome_iff_exists, decode_eq_some_iff]

instance : DecidablePred WellFormed := fun _ => decidable_of_iff _ wellFormed_iff_isSome.symm

theorem wellFormed_nil : WellFormed [] := ⟨[], rfl⟩

theorem wellFormed_encode (t : Text) : WellFormed (encode t) := ⟨t, rfl⟩

theorem decode_eq_none_iff {b : Bytes} : decode b = none ↔ ¬ WellFormed b := by
  rw [wellFormed_iff_isSome, Option.not_isSome_iff_eq_none]

/-- What follows well-formed bytes decides whether the whole is well-formed. -/
theorem wellFormed_append_iff {a b : Bytes} (ha : WellFormed a) :
    WellFormed (a ++ b) ↔ WellFormed b := by
  obtain ⟨t, rfl⟩ := ha
  rw [wellFormed_iff_isSome, wellFormed_iff_isSome, decode_encode_append, Option.isSome_map]

theorem le_toNat_ofNat {n : Nat} (h : 0x80 ≤ n) (hn : n < 0x100) :
    0x80 ≤ (UInt8.ofNat n).toNat := by
  rw [UInt8.toNat_ofNat']
  omega

/-- Every byte of a longer character is from `0x80` on. -/
theorem le_toNat_of_mem_encodeChar {c : Char} (hc : ¬ c.toNat < 0x80) :
    ∀ x ∈ encodeChar c, 0x80 ≤ x.toNat := by
  have hlt := toNat_lt c
  have htail : ∀ n, 0x80 ≤ (UInt8.ofNat (0x80 + n % 0x40)).toNat := fun n =>
    le_toNat_ofNat (by omega) (by omega)
  simp only [encodeChar, if_neg hc]
  split
  · rw [List.forall_mem_cons, List.forall_mem_singleton]
    exact ⟨le_toNat_ofNat (by omega) (by omega), htail _⟩
  split
  · rw [List.forall_mem_cons, List.forall_mem_cons, List.forall_mem_singleton]
    exact ⟨le_toNat_ofNat (by omega) (by omega), htail _, htail _⟩
  · rw [List.forall_mem_cons, List.forall_mem_cons, List.forall_mem_cons, List.forall_mem_singleton]
    exact ⟨le_toNat_ofNat (by omega) (by omega), htail _, htail _, htail _⟩

/-- **A byte below `0x80` is no part of a longer character.** -/
theorem encodeChar_eq_singleton {c : Char} {x : UInt8} (hx : x ∈ encodeChar c)
    (h : x.toNat < 0x80) : encodeChar c = [x] := by
  by_cases hc : c.toNat < 0x80
  · rw [encodeChar, if_pos hc, List.mem_singleton] at hx
    rw [encodeChar, if_pos hc, hx]
  · have hle := le_toNat_of_mem_encodeChar hc x hx
    omega

/-- Both sides of a byte below `0x80` in the bytes of a text are well-formed. -/
theorem wellFormed_of_encode_eq {t : Text} {a b : Bytes} {x : UInt8} (hx : x.toNat < 0x80)
    (h : encode t = a ++ x :: b) : WellFormed a ∧ WellFormed b := by
  induction t generalizing a with
  | nil => simp at h
  | cons c t ih =>
    rw [encode_cons] at h
    have hc : WellFormed (encodeChar c) := ⟨[c], by simp⟩
    -- the byte stands after the first character, or is part of it
    rcases List.append_eq_append_iff.1 h with ⟨a', rfl, ht⟩ | ⟨r, hr, hb⟩
    · obtain ⟨ha, hb⟩ := ih ht
      exact ⟨(wellFormed_append_iff hc).2 ha, hb⟩
    · cases r with
      | nil =>
        rw [List.append_nil] at hr
        exact ⟨hr ▸ hc, (ih (a := []) hb.symm).2⟩
      | cons y r =>
        obtain ⟨rfl, rfl⟩ := List.cons.inj hb
        have hs := encodeChar_eq_singleton (c := c) (by rw [hr]; simp) hx
        rw [hr] at hs
        obtain ⟨rfl, rfl⟩ : a = [] ∧ r = [] := by simpa [List.append_eq_singleton_iff] using hs
        exact ⟨wellFormed_nil, wellFormed_encode t⟩

theorem encode_injective {s t : Text} (h : encode s = encode t) : s = t := by
  have hs := decode_encode s
  rw [h, decode_encode] at hs
  exact (Option.some.inj hs).symm

/-- The character of a byte below `0x80` is the only one with that byte. -/
theorem eq_ofNat_of_mem_encodeChar {c : Char} {x : UInt8} (hx : x.toNat < 0x80)
    (h : x ∈ encodeChar c) : c = Char.ofNat x.toNat := by
  have hc : encode [c] = encode [Char.ofNat x.toNat] := by
    simp [encodeChar_eq_singleton h hx, encodeChar_ofNat hx]
  exact List.singleton_inj.1 (encode_injective hc)

/-- **A byte below `0x80` stands for its character** wherever it is. -/
theorem mem_encode_iff {t : Text} {x : UInt8} (hx : x.toNat < 0x80) :
    x ∈ encode t ↔ Char.ofNat x.toNat ∈ t := by
  rw [encode, List.mem_flatMap]
  constructor
  · rintro ⟨c, hc, h⟩
    rwa [← eq_ofNat_of_mem_encodeChar hx h]
  · intro h
    exact ⟨_, h, by rw [encodeChar_ofNat hx]; exact List.mem_singleton_self x⟩

theorem encodeChar_ne_nil (c : Char) : encodeChar c ≠ [] := by
  simp only [encodeChar]
  split_ifs <;> simp

/-- It stands for its character at the end, too. -/
theorem getLast?_encode_eq_some_iff {t : Text} {x : UInt8} (hx : x.toNat < 0x80) :
    (encode t).getLast? = some x ↔ t.getLast? = some (Char.ofNat x.toNat) := by
  rcases List.eq_nil_or_concat t with rfl | ⟨u, c, rfl⟩
  · simp
  · rw [List.concat_eq_append]
    have hlast : (encode (u ++ [c])).getLast? = (encodeChar c).getLast? := by
      rw [encode_append, encode_cons, encode_nil, List.append_nil,
        List.getLast?_append, Option.or_of_isSome (List.getLast?_isSome.2 (encodeChar_ne_nil c))]
    rw [hlast, List.getLast?_concat, Option.some.injEq]
    constructor
    · exact fun h => eq_ofNat_of_mem_encodeChar hx (List.mem_of_getLast? h)
    · rintro rfl
      rw [encodeChar_ofNat hx, List.getLast?_singleton]

/-- **Bytes can be cut at a byte below `0x80`:** the whole is well-formed exactly
when both sides are. -/
theorem wellFormed_append_cons_iff {a b : Bytes} {x : UInt8} (hx : x.toNat < 0x80) :
    WellFormed (a ++ x :: b) ↔ WellFormed a ∧ WellFormed b := by
  constructor
  · rintro ⟨t, h⟩
    exact wellFormed_of_encode_eq hx h.symm
  · rintro ⟨ha, hb⟩
    rw [wellFormed_append_iff ha, ← List.singleton_append, wellFormed_append_iff]
    · exact hb
    · exact ⟨[Char.ofNat x.toNat], by simp [encodeChar_ofNat hx]⟩

/-- The first ill-formed position: how many bytes the longest well-formed
stretch has that the bytes begin with. -/
def validLength (b : Bytes) : Nat := Nat.findGreatest (fun n => WellFormed (b.take n)) b.length

theorem validLength_le (b : Bytes) : validLength b ≤ b.length := Nat.findGreatest_le _

theorem wellFormed_take_validLength (b : Bytes) : WellFormed (b.take (validLength b)) :=
  Nat.findGreatest_spec (P := fun n => WellFormed (b.take n)) (Nat.zero_le _) wellFormed_nil

theorem le_validLength {b : Bytes} {n : Nat} (hn : n ≤ b.length) (h : WellFormed (b.take n)) :
    n ≤ validLength b :=
  Nat.le_findGreatest hn h

/-- The first ill-formed position is behind all well-formed bytes in front. -/
theorem validLength_append {a b : Bytes} (ha : WellFormed a) :
    validLength (a ++ b) = a.length + validLength b := by
  have hle := validLength_le (a ++ b)
  rw [List.length_append] at hle
  refine Nat.le_antisymm ?_ ?_
  · have hv := wellFormed_take_validLength (a ++ b)
    have hge : a.length ≤ validLength (a ++ b) :=
      le_validLength (by simp) (by rw [List.take_left]; exact ha)
    rw [List.take_append, List.take_of_length_le hge, wellFormed_append_iff ha] at hv
    have := le_validLength (by omega) hv
    omega
  · have := validLength_le b
    refine le_validLength (by rw [List.length_append]; omega) ?_
    rw [List.take_append, List.take_of_length_le (by omega), Nat.add_sub_cancel_left,
      wellFormed_append_iff ha]
    exact wellFormed_take_validLength b

/-- Nothing behind an ill-formed line comes before the first ill-formed position. -/
theorem not_mem_take_validLength {l b : Bytes} {x : UInt8} (hx : x.toNat < 0x80) (hxl : x ∉ l)
    (hl : ¬ WellFormed l) : x ∉ (l ++ x :: b).take (validLength (l ++ x :: b)) := by
  intro hm
  have hv := wellFormed_take_validLength (l ++ x :: b)
  generalize validLength (l ++ x :: b) = n at hm hv
  rcases Nat.lt_or_ge l.length n with hn | hn
  · obtain ⟨k, rfl⟩ : ∃ k, n = l.length + (k + 1) := ⟨n - l.length - 1, by omega⟩
    rw [List.take_length_add_append, List.take_succ_cons, wellFormed_append_cons_iff hx] at hv
    exact hl hv.1
  · rw [List.take_append_of_le_length hn] at hm
    exact hxl (List.mem_of_mem_take hm)

end Utf8
end LineMachine
