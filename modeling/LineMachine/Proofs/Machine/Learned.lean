/-
# What becomes of one line

A line that is run on bindings and feedback is answered without a binding, or
binds one name, or is a malformed definition (`learn_cases`); which of the three
it is can be told from the keywords and the `=` in it.  Only the third gets no
answer, and it leaves everything as it was (`learn_by_keywords`).

The answer to a definition tells what was bound.  In general a name and a value
cannot be read off it: `Defined a = b = c` answers for `a` bound to `b = c` as for
`a = b` bound to `c`.  But no line binds a name with an `=` in it, so what stands
before the first `=` is the name (`answer_identifies_definition`).
-/

import LineMachine.Proofs.Command.Keywords

namespace LineMachine

open Command (printKey defineKey definedAnswer)
open Text (FirstCut)

variable {line name value name' value' : Text} {b : Bindings} {f : Feedback}

/-- What becomes of a line, told by its command. -/
theorem learn_of_ofLine_eq {cmd : Command} (h : Command.ofLine line = cmd) (b : Bindings)
    (f : Feedback) :
    learn line b f = ((cmd.execute b).1, (cmd.execute b).2, f.hear (cmd.execute b).1) := by
  rw [learn, h]

theorem learn_of_define (h : Command.ofLine line = .define name value) (b : Bindings)
    (f : Feedback) :
    learn line b f =
      (.ok (definedAnswer name value), b.set name value, f.record (definedAnswer name value)) :=
  learn_of_ofLine_eq h b f

/-- A line that is no attempt at a definition is answered, and nothing is bound. -/
theorem learn_of_not_defining (h : ¬ (defineKey <:+: line ∧ ¬ printKey <:+: line)) (b : Bindings)
    (f : Feedback) : ∃ answer, learn line b f = (.ok answer, b, f.record answer) := by
  by_cases hp : printKey <:+: line
  · obtain ⟨x, y, hcut⟩ := Text.exists_cut?_eq_some hp
    exact ⟨_, learn_of_ofLine_eq (Command.ofLine_eq_print hcut) b f⟩
  · exact ⟨_, learn_of_ofLine_eq (Command.ofLine_eq_unknown hp fun hd => h ⟨hd, hp⟩) b f⟩

/-- **What becomes of a line:** it is answered and binds nothing, or it binds one
name, or it is a malformed definition. -/
theorem learn_cases (line : Text) (b : Bindings) (f : Feedback) :
    (¬ (defineKey <:+: line ∧ ¬ printKey <:+: line) ∧
      ∃ answer, learn line b f = (.ok answer, b, f.record answer)) ∨
    ((defineKey <:+: line ∧ ¬ printKey <:+: line) ∧ '=' ∈ line ∧
      ∃ name value, Command.ofLine line = .define name value ∧
        learn line b f =
          (.ok (definedAnswer name value), b.set name value, f.record (definedAnswer name value))) ∨
    ((defineKey <:+: line ∧ ¬ printKey <:+: line) ∧ '=' ∉ line ∧
      learn line b f = (.error ⟨line⟩, b, f)) := by
  by_cases h : defineKey <:+: line ∧ ¬ printKey <:+: line
  · obtain ⟨hd, hp⟩ := h
    by_cases heq : '=' ∈ line
    · obtain ⟨name, value, hdef⟩ := Command.exists_ofLine_eq_define hd hp heq
      exact .inr (.inl ⟨⟨hd, hp⟩, heq, name, value, hdef, learn_of_define hdef b f⟩)
    · have hline := Command.ofLine_eq_malformed_iff.2 ⟨rfl, hd, hp, heq⟩
      exact .inr (.inr ⟨⟨hd, hp⟩, heq, learn_of_ofLine_eq hline b f⟩)
  · exact .inl ⟨h, learn_of_not_defining h b f⟩

/-- **A line has no answer exactly if it is a malformed definition:** one with
`define`, without `print` and without any `=`.  The error then holds the line as
it was given, and bindings and feedback are as before.  Any other line has an
answer, which becomes the feedback; if it has `define` and no `print`, a single
name is bound and the answer says which and to what, and all other names are as
before; if not, nothing is bound. -/
theorem learn_by_keywords (line : Text) (b : Bindings) (f : Feedback) :
    let reply := (learn line b f).1
    let bindings := (learn line b f).2.1
    let feedback := (learn line b f).2.2
    ((∃ e, reply = .error e) ↔
      defineKey <:+: line ∧ ¬ printKey <:+: line ∧ '=' ∉ line) ∧
    (∀ e, reply = .error e → e.line = line ∧ bindings = b ∧ feedback = f) ∧
    ∀ answer, reply = .ok answer → feedback.last = some answer ∧
      (¬ (defineKey <:+: line ∧ ¬ printKey <:+: line) → bindings = b) ∧
      (defineKey <:+: line ∧ ¬ printKey <:+: line → ∃ name value,
        Command.ofLine line = .define name value ∧
        bindings.get? name = some value ∧
        (∀ n, n ≠ name → bindings.get? n = b.get? n) ∧
        answer = "Defined ".toList ++ name ++ " = ".toList ++ value) := by
  intro reply bindings feedback
  have hrun : learn line b f = (reply, bindings, feedback) := rfl
  clear_value reply bindings feedback
  rcases learn_cases line b f with
    ⟨hno, answer, h⟩ | ⟨hdef, heq, name, value, hline, h⟩ | ⟨⟨hd, hp⟩, heq, h⟩
  · cases hrun.symm.trans h
    refine ⟨iff_of_false (fun ⟨_, he⟩ => nomatch he) fun ⟨hd, hp, _⟩ => hno ⟨hd, hp⟩,
      fun _ he => (nomatch he), fun _ ha => ?_⟩
    obtain rfl := Except.ok.inj ha
    exact ⟨rfl, fun _ => rfl, fun hdef => absurd hdef hno⟩
  · cases hrun.symm.trans h
    refine ⟨iff_of_false (fun ⟨_, he⟩ => nomatch he) fun ⟨_, _, hne⟩ => hne heq,
      fun _ he => (nomatch he), fun _ ha => ?_⟩
    obtain rfl := Except.ok.inj ha
    refine ⟨rfl, fun hno => absurd hdef hno, fun _ => ⟨name, value, hline, ?_, fun n hn => ?_, rfl⟩⟩
    · rw [Bindings.get?_set, if_pos rfl]
    · rw [Bindings.get?_set, if_neg hn]
  · cases hrun.symm.trans h
    refine ⟨iff_of_true ⟨_, rfl⟩ ⟨hd, hp, heq⟩, fun _ he => ?_, fun _ ha => nomatch ha⟩
    obtain rfl := Except.error.inj he
    exact ⟨rfl, rfl, rfl⟩

/-! ### What the answer to a definition tells -/

/-- The first `=` behind the first word of the answer is the one between the name
and the value, if the name has none. -/
theorem firstCut_definedAnswer (h : '=' ∉ name) (value : Text) :
    ∃ t, definedAnswer name value = "Defined ".toList ++ t ∧
      FirstCut ['='] t (name ++ [' ']) (' ' :: value) := by
  have hsep : " = ".toList = [' ', '=', ' '] := by decide
  refine ⟨name ++ " = ".toList ++ value, ?_,
    Text.cut?_eq_some_iff_firstCut.1 (Text.cut?_singleton_eq_some_iff.2 ⟨?_, ?_⟩)⟩
  · unfold definedAnswer
    rw [List.append_assoc, List.append_assoc, List.append_assoc]
  · rw [hsep, List.append_assoc, List.append_assoc]
    rfl
  · simpa using h

/-- **Names without `=` and their values can be told from the answers.** -/
theorem definedAnswer_inj (h : '=' ∉ name) (h' : '=' ∉ name') :
    definedAnswer name value = definedAnswer name' value' ↔ name = name' ∧ value = value' := by
  constructor
  · intro heq
    obtain ⟨t, ht, hcut⟩ := firstCut_definedAnswer h value
    obtain ⟨t', ht', hcut'⟩ := firstCut_definedAnswer h' value'
    obtain rfl : t = t' := List.append_cancel_left (ht.symm.trans (heq.trans ht'))
    have hpair := (Text.cut?_eq_some_iff_firstCut.2 hcut).symm.trans
      (Text.cut?_eq_some_iff_firstCut.2 hcut')
    obtain ⟨hname, hvalue⟩ := Prod.mk.inj (Option.some.inj hpair)
    exact ⟨List.append_cancel_right hname, (List.cons.inj hvalue).2⟩
  · rintro ⟨rfl, rfl⟩
    rfl

/-- With an `=` in a name they cannot. -/
example : definedAnswer "a = b".toList "c".toList = definedAnswer "a".toList "b = c".toList := by
  decide

/-- **The answer to a definition identifies what is bound,** on any bindings and
feedback: two definitions are answered alike exactly if they bind the same name to
the same value.  The answer is `Defined ` and a text that the first `=` in it cuts
into the name with a space behind it and the value with a space before it. -/
theorem answer_identifies_definition :
    (∀ line name value, Command.ofLine line = .define name value → ∀ b f, ∃ t,
      (learn line b f).1 = .ok ("Defined ".toList ++ t) ∧
      FirstCut ['='] t (name ++ [' ']) (' ' :: value)) ∧
    ∀ line line' name name' value value', Command.ofLine line = .define name value →
      Command.ofLine line' = .define name' value' → ∀ b b' f f', ∃ answer answer',
        (learn line b f).1 = .ok answer ∧ (learn line' b' f').1 = .ok answer' ∧
        (answer = answer' ↔ name = name' ∧ value = value') := by
  have hfree : ∀ line name value, Command.ofLine line = .define name value → '=' ∉ name :=
    fun line name value h => (Command.definable_of_ofLine h).2.2.1
  refine ⟨fun line name value h b f => ?_, fun line line' name name' value value' h h' b b' f f' => ?_⟩
  · obtain ⟨t, ht, hcut⟩ := firstCut_definedAnswer (hfree line name value h) value
    exact ⟨t, by rw [learn_of_define h, ht], hcut⟩
  · refine ⟨_, _, by rw [learn_of_define h], by rw [learn_of_define h'], ?_⟩
    exact definedAnswer_inj (hfree line name value h) (hfree line' name' value' h')

end LineMachine
