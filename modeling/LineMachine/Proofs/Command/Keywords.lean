/-
# Commands told from the whole line

Which command a line is can be said without following how it is read: by what
occurs in the line, how it is divided there, and what is left between blanks
(`Command.ofLine_by_keywords`).  Nothing is trimmed on the way, and `=` is looked
for in the line as it stands, before the keyword as well as behind it.

So an `=` in front of `define` is the one that ends the name, and the value then
keeps those behind: all `=` of a line but the first are in the value
(`Command.count_value_add_one`).  A single `=` behind the keyword is not enough for
a value without (`Command.one_equals_behind_not_enough`), it takes also that none
stands before (`Command.define_of_one_equals_behind`).
-/

import LineMachine.Proofs.Command.Response

namespace LineMachine
namespace Command

open Text (FirstCut IsTrim)

variable {line : Text}

theorem ofLine_eq_print {a b : Text} (h : Text.cut? printKey line = some (a, b)) :
    ofLine line = .print (Text.trim (a ++ b)) := by
  rw [ofLine, h]

/-- A line with an `=` is cut at it once the keyword is out. -/
theorem exists_append_cons_of_cut? {a b : Text} (h : Text.cut? defineKey line = some (a, b))
    (heq : '=' ∈ line) : ∃ x y, a ++ b = x ++ '=' :: y ∧ '=' ∉ x := by
  have hmem : '=' ∈ a ++ b := (mem_iff_of_cut? h (by decide)).1 heq
  obtain ⟨x, y, hcut⟩ := Text.exists_cut?_eq_some ((List.singleton_infix_iff ..).2 hmem)
  exact ⟨x, y, Text.cut?_singleton_eq_some_iff.1 hcut⟩

/-- A line with `define` and an `=` anywhere, and without `print`, is a definition. -/
theorem exists_ofLine_eq_define (hd : defineKey <:+: line) (hp : ¬ printKey <:+: line)
    (heq : '=' ∈ line) : ∃ name value, ofLine line = .define name value := by
  obtain ⟨a, b, hcut⟩ := Text.exists_cut?_eq_some hd
  obtain ⟨x, y, hab, hx⟩ := exists_append_cons_of_cut? hcut heq
  exact ⟨_, _, ofLine_eq_define_iff.2 ⟨hp, a, b, x, y, hcut, hab, hx, rfl, rfl⟩⟩

theorem ofLine_eq_unknown (hp : ¬ printKey <:+: line) (hd : ¬ defineKey <:+: line) :
    ofLine line = .unknown line := by
  rw [ofLine, Text.cut?_eq_none_iff.2 hp, Text.cut?_eq_none_iff.2 hd]

/-- **What every line asks for.**

* A line with `print` prints what is left between the blanks when the first
  `print` is taken out.
* Another line with `define` and an `=` anywhere is a definition: without the
  first `define`, what stands before the first `=` is the name, what stands
  behind it is the value, both without the blanks around them.
* With `define` and no `=` it is malformed, and kept whole.
* Without a keyword it is unknown, and kept whole.

There is exactly one text that is left of a text between its blanks. -/
theorem ofLine_by_keywords (line : Text) :
    (∀ t : Text, ∃! m, IsTrim t m) ∧
    (printKey <:+: line → ∃ a b payload, FirstCut printKey line a b ∧
      IsTrim (a ++ b) payload ∧ ofLine line = .print payload) ∧
    (¬ printKey <:+: line → defineKey <:+: line →
      ('=' ∈ line → ∃ a b x y name value, FirstCut defineKey line a b ∧
        a ++ b = x ++ '=' :: y ∧ '=' ∉ x ∧ IsTrim x name ∧ IsTrim y value ∧
        ofLine line = .define name value) ∧
      ('=' ∉ line → ofLine line = .malformed line)) ∧
    (¬ printKey <:+: line → ¬ defineKey <:+: line → ofLine line = .unknown line) := by
  refine ⟨fun t => ?_, fun hp => ?_, fun hp hd => ⟨fun heq => ?_, fun heq => ?_⟩, ofLine_eq_unknown⟩
  · exact ⟨t.trim, Text.isTrim_iff.2 rfl, fun m hm => Text.isTrim_iff.1 hm⟩
  · obtain ⟨a, b, hcut⟩ := Text.exists_cut?_eq_some hp
    exact ⟨a, b, _, Text.cut?_eq_some_iff_firstCut.1 hcut, Text.isTrim_iff.2 rfl,
      ofLine_eq_print hcut⟩
  · obtain ⟨a, b, hcut⟩ := Text.exists_cut?_eq_some hd
    obtain ⟨x, y, hab, hx⟩ := exists_append_cons_of_cut? hcut heq
    exact ⟨a, b, x, y, _, _, Text.cut?_eq_some_iff_firstCut.1 hcut, hab, hx,
      Text.isTrim_iff.2 rfl, Text.isTrim_iff.2 rfl,
      ofLine_eq_define_iff.2 ⟨hp, a, b, x, y, hcut, hab, hx, rfl, rfl⟩⟩
  · exact ofLine_eq_malformed_iff.2 ⟨rfl, hd, hp, heq⟩

/-- The `=` may stand before the keyword, and blanks are not only spaces. -/
example : ofLine "a\u2003= 1define\u3000\n2".toList =
    .define "a".toList "1\u3000\n2".toList := by decide +kernel

/-! ### One `=` behind the keyword -/

/-- **All `=` of a definition but the first are in its value.** -/
theorem count_value_add_one {name value : Text} (h : ofLine line = .define name value) :
    value.count '=' + 1 = line.count '=' := by
  obtain ⟨-, a, b, x, y, hcut, hab, hx, -, rfl⟩ := ofLine_eq_define_iff.1 h
  have hkey : defineKey.count '=' = 0 := by decide
  have hrest := congrArg (List.count '=') hab
  rw [List.count_append, List.count_append, List.count_cons_self, List.count_eq_zero.2 hx] at hrest
  rw [Text.count_trim (by decide), Text.eq_append_of_cut? hcut, List.count_append,
    List.count_append, hkey]
  omega

/-- **One `=` behind the keyword** makes a line without `print` a definition.  Its
name and its value are trimmed, and there is no `=` in the name; there is none in
the value exactly when none stands before the keyword. -/
theorem define_of_one_equals_behind {a b : Text} (hcut : FirstCut defineKey line a b)
    (hp : ¬ printKey <:+: line) (hb : b.count '=' = 1) :
    ∃ name value, ofLine line = .define name value ∧ name.trim = name ∧ value.trim = value ∧
      '=' ∉ name ∧ ('=' ∉ value ↔ '=' ∉ a) := by
  have hline := hcut.eq_append
  have heq : '=' ∈ line := by
    rw [hline]
    exact List.mem_append_right _ (List.count_pos_iff.1 (by omega))
  obtain ⟨name, value, hdef⟩ := exists_ofLine_eq_define ⟨a, b, hline.symm⟩ hp heq
  obtain ⟨hname, hvalue, hfree, -⟩ := definable_of_ofLine hdef
  refine ⟨name, value, hdef, hname, hvalue, hfree, ?_⟩
  -- of the `=` in the line, one is behind the keyword and one is not in the value
  have hcount := count_value_add_one hdef
  have hkey : defineKey.count '=' = 0 := by decide
  rw [hline, List.count_append, List.count_append, hkey, hb] at hcount
  rw [← List.count_eq_zero, ← List.count_eq_zero]
  omega

/-- Text in front of the keyword belongs to the name, and a second `define` too. -/
theorem define_of_one_equals_behind_name :
    let line := "x define define = 1".toList
    (FirstCut defineKey line "x ".toList " define = 1".toList ∧ ¬ printKey <:+: line ∧
      " define = 1".toList.count '=' = 1) ∧
    ∃ name value, ofLine line = .define name value ∧ name.trim = name ∧ value.trim = value ∧
      '=' ∉ name ∧ '=' ∉ value := by
  intro line
  have hcut : FirstCut defineKey line "x ".toList " define = 1".toList :=
    Text.cut?_eq_some_iff_firstCut.1 (by decide)
  have hp : ¬ printKey <:+: line := by decide
  have hb : " define = 1".toList.count '=' = 1 := by decide
  obtain ⟨name, value, hdef, hname, hvalue, hfree, hiff⟩ := define_of_one_equals_behind hcut hp hb
  exact ⟨⟨hcut, hp, hb⟩, name, value, hdef, hname, hvalue, hfree, hiff.2 (by decide)⟩

/-- **It is not enough that there is one `=` behind the keyword:** `a=define b=c`
defines `a` to be `b=c`. -/
theorem one_equals_behind_not_enough :
    ¬ ∀ line a b : Text, FirstCut defineKey line a b → ¬ printKey <:+: line → b.count '=' = 1 →
      ∃ name value, ofLine line = .define name value ∧ name.trim = name ∧ value.trim = value ∧
        '=' ∉ name ∧ '=' ∉ value := by
  intro h
  have hdef : ofLine "a=define b=c".toList = .define "a".toList "b=c".toList := by decide
  obtain ⟨name, value, hline, -, -, -, hfree⟩ := h "a=define b=c".toList "a=".toList " b=c".toList
    (Text.cut?_eq_some_iff_firstCut.1 (by decide)) (by decide) (by decide)
  obtain ⟨rfl, rfl⟩ := define.inj (hdef.symm.trans hline)
  exact hfree (by decide)

end Command
end LineMachine
