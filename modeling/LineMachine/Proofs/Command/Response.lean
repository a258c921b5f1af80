/-
# What a line is answered with

The text of a reply is the answer, or `error: ` and why there is none.  The only
lines without an answer are malformed definitions, and which lines those are can
be told from the whole line: taking the keyword out and trimming the rest does
not change whether there is an `=` (`Command.ofLine_eq_malformed_iff`).

A reply to a single line is a single line itself, whatever the line holds
(`Reply.newline_not_mem_text`): all characters in it are from the line or from
a fixed text.
-/

import LineMachine.Batch
import LineMachine.Proofs.Command.Definition
import LineMachine.Proofs.Machine.After

namespace LineMachine
namespace Command

variable {line : Text}

/-- Taking a keyword out of a line adds nothing to it. -/
theorem mem_of_cut? {key a b : Text} (h : Text.cut? key line = some (a, b)) {c : Char}
    (hc : c ∈ a ++ b) : c ∈ line := by
  rw [Text.eq_append_of_cut? h]
  rcases List.mem_append.1 hc with ha | hb
  · exact List.mem_append_left b (List.mem_append_left key ha)
  · exact List.mem_append_right _ hb

/-- What the keyword does not hold stays. -/
theorem mem_iff_of_cut? {key a b : Text} (h : Text.cut? key line = some (a, b)) {c : Char}
    (hkey : c ∉ key) : c ∈ line ↔ c ∈ a ++ b := by
  refine ⟨fun hc => ?_, mem_of_cut? h⟩
  rw [Text.eq_append_of_cut? h] at hc
  rcases List.mem_append.1 hc with hc | hb
  · rcases List.mem_append.1 hc with ha | hk
    · exact List.mem_append_left b ha
    · exact absurd hk hkey
  · exact List.mem_append_right a hb

theorem ofDefinition_eq_malformed_iff {rest t : Text} :
    ofDefinition line rest = .malformed t ↔ t = line ∧ '=' ∉ rest := by
  rw [← List.singleton_infix_iff, ← Text.cut?_eq_none_iff, ofDefinition]
  cases Text.cut? ['='] rest <;> simp [eq_comm]

/-- **Which lines are malformed definitions:** those with `define`, without
`print` and without any `=`. -/
theorem ofLine_eq_malformed_iff {t : Text} :
    ofLine line = .malformed t ↔
      t = line ∧ defineKey <:+: line ∧ ¬ printKey <:+: line ∧ '=' ∉ line := by
  rw [← Text.cut?_eq_none_iff, ofLine]
  cases Text.cut? printKey line with
  | some p => simp
  | none =>
    cases hd : Text.cut? defineKey line with
    | none => simp [Text.cut?_eq_none_iff.1 hd]
    | some p =>
      obtain ⟨a, b⟩ := p
      have hdefine : defineKey <:+: line := ⟨a, b, (Text.eq_append_of_cut? hd).symm⟩
      have hmem : '=' ∈ line ↔ '=' ∈ a ++ b := mem_iff_of_cut? hd (by decide)
      simp only [ofDefinition_trim, ofDefinition_eq_malformed_iff, hdefine, hmem, true_and]

/-- A payload is made of characters of its line. -/
theorem mem_of_mem_payload {payload : Text} (h : ofLine line = .print payload) {c : Char}
    (hc : c ∈ payload) : c ∈ line := by
  rw [ofLine] at h
  split at h
  · rename_i a b hcut
    obtain rfl := print.inj h
    exact mem_of_cut? hcut (Text.mem_of_mem_trim hc)
  · split at h
    · rw [ofDefinition] at h
      split at h <;> cases h
    · cases h

/-- So are a name and its value. -/
theorem mem_of_mem_definition {name value : Text} (h : ofLine line = .define name value) {c : Char}
    (hc : c ∈ name ∨ c ∈ value) : c ∈ line := by
  obtain ⟨-, a, b, x, y, hcut, hab, -, rfl, rfl⟩ := ofLine_eq_define_iff.1 h
  refine mem_of_cut? hcut ?_
  rw [hab]
  rcases hc with hx | hy
  · exact List.mem_append_left _ (Text.mem_of_mem_trim hx)
  · exact List.mem_append_right x (List.mem_cons_of_mem '=' (Text.mem_of_mem_trim hy))

end Command

namespace Reply

variable {line : Text}

/-- The text that stands for a reply in the output, on a line of its own. -/
def text : Reply → Text
  | .ok answer => answer
  | .error e => "error: ".toList ++ e.message

theorem line_eq (r : Reply) : Reply.line r = text r ++ ['\n'] := by
  cases r <;> rfl

/-- **Which lines have no answer.** -/
theorem failed_ofLine_iff :
    failed (ofLine line) ↔
      Command.defineKey <:+: line ∧ ¬ Command.printKey <:+: line ∧ '=' ∉ line := by
  have hiff : Command.ofLine line = .malformed line ↔ _ := Command.ofLine_eq_malformed_iff
  rw [eq_self, true_and] at hiff
  rw [← hiff, ofLine]
  cases hc : Command.ofLine line with
  | malformed t =>
    obtain ⟨rfl, -⟩ := Command.ofLine_eq_malformed_iff.1 hc
    simp [Command.execute, failed]
  | print | define | unknown => simp [Command.execute, failed]

theorem newline_not_mem_definedAnswer {name value : Text} (hname : '\n' ∉ name)
    (hvalue : '\n' ∉ value) : '\n' ∉ Command.definedAnswer name value := by
  unfold Command.definedAnswer
  simp [hname, hvalue]

theorem newline_not_mem_unknownAnswer : '\n' ∉ Command.unknownAnswer := by
  unfold Command.unknownAnswer
  simp

theorem newline_not_mem_text_error {e : Malformed} (h : '\n' ∉ e.line) :
    '\n' ∉ text (.error e) := by
  unfold text Malformed.message
  simp [h]

/-- **The reply to one line is one line.** -/
theorem newline_not_mem_text (h : '\n' ∉ line) : '\n' ∉ text (ofLine line) := by
  rw [ofLine]
  cases hc : Command.ofLine line with
  | print payload => exact fun hm => h (Command.mem_of_mem_payload hc hm)
  | define name value =>
    exact newline_not_mem_definedAnswer (fun hm => h (Command.mem_of_mem_definition hc (.inl hm)))
      fun hm => h (Command.mem_of_mem_definition hc (.inr hm))
  | malformed t =>
    obtain ⟨rfl, -⟩ := Command.ofLine_eq_malformed_iff.1 hc
    exact newline_not_mem_text_error h
  | unknown t => exact newline_not_mem_unknownAnswer

end Reply
end LineMachine
