/-
# What a machine remembers of lines

Of the lines that were run on it a machine keeps the last value of each name
they define, and the last answer they got (`Machine.after_eq`).  Both are read
off the lines, so machines that differ agree afterwards on what the lines wrote,
and each of them keeps what no line wrote.  The same lines once more change
nothing in the end (`Machine.after_after`), although on the way a name that is
defined twice goes back to its first value.
-/

import LineMachine.Proofs.Machine.History

namespace LineMachine

theorem Command.definition?_eq_some_iff {cmd : Command} {name value : Text} :
    cmd.definition? = some (name, value) ↔ cmd = .define name value := by
  cases cmd <;> simp [definition?]

namespace Machine

/-- The definitions that lines make, in order. -/
def definitions (lines : List Text) : List (Text × Text) :=
  lines.filterMap fun line => (Command.ofLine line).definition?

/-- The answers that lines get, in order. -/
def answers (lines : List Text) : List Text :=
  lines.filterMap fun line => (Reply.ofLine line).toOption

/-- **What lines leave:** their definitions are set in order, and the last of
their answers is the feedback. -/
theorem after_eq (m : Machine) (lines : List Text) :
    m.after lines =
      { corpus := m.corpus
        bindings := m.bindings.setAll (definitions lines)
        feedback := ⟨(answers lines).getLast?.or m.feedback.last⟩ } := by
  have h := foldl_play_eq m (lines.map .executed)
  rw [List.foldl_map, List.filterMap_map, List.filterMap_map] at h
  exact h

variable {lines : List Text} {name : Text}

theorem mem_map_fst_definitions_iff :
    name ∈ (definitions lines).map Prod.fst ↔
      ∃ line ∈ lines, ∃ value, Command.ofLine line = .define name value := by
  simp only [definitions, List.mem_map, List.mem_filterMap, Prod.exists, exists_and_right,
    exists_eq_right, Command.definition?_eq_some_iff]
  constructor
  · rintro ⟨value, line, hl, h⟩
    exact ⟨line, hl, value, h⟩
  · rintro ⟨line, hl, value, h⟩
    exact ⟨value, line, hl, h⟩

theorem mem_answers_iff {answer : Text} :
    answer ∈ answers lines ↔ .ok answer ∈ lines.map Reply.ofLine := by
  rw [answers, List.mem_filterMap, List.mem_map]
  refine exists_congr fun line => and_congr_right fun _ => ?_
  cases Reply.ofLine line <;> simp [Except.toOption]

/-- **All machines agree on a name that lines define.** -/
theorem exists_get?_after_eq
    (h : ∃ line ∈ lines, ∃ value, Command.ofLine line = .define name value) :
    ∃ v, ∀ m : Machine, (m.after lines).bindings.get? name = some v := by
  obtain ⟨v, hv⟩ := Bindings.exists_get?_setAll_of_mem (mem_map_fst_definitions_iff.2 h)
  exact ⟨v, fun m => by rw [after_eq, hv]⟩

/-- **Each machine keeps a name that no line defines.** -/
theorem get?_after_of_forall_ne (m : Machine)
    (h : ∀ line ∈ lines, ∀ value, Command.ofLine line ≠ .define name value) :
    (m.after lines).bindings.get? name = m.bindings.get? name := by
  have hn : name ∉ (definitions lines).map Prod.fst := fun hm => by
    obtain ⟨line, hl, value, hv⟩ := mem_map_fst_definitions_iff.1 hm
    exact h line hl value hv
  rw [after_eq]
  exact Bindings.get?_setAll_of_not_mem hn _

/-- **All machines agree on the last answer,** if there was one. -/
theorem exists_feedback_after_eq (h : ∃ answer, .ok answer ∈ lines.map Reply.ofLine) :
    ∃ text, ∀ m : Machine, (m.after lines).feedback = ⟨some text⟩ := by
  obtain ⟨answer, ha⟩ := h
  have hlast : (answers lines).getLast?.isSome :=
    List.getLast?_isSome.2 (List.ne_nil_of_mem (mem_answers_iff.2 ha))
  obtain ⟨text, ht⟩ := Option.isSome_iff_exists.1 hlast
  exact ⟨text, fun m => by rw [after_eq, ht, Option.some_or]⟩

/-- **Each machine keeps its feedback** if there was no answer. -/
theorem feedback_after_of_forall_not_mem (m : Machine)
    (h : ∀ answer, .ok answer ∉ lines.map Reply.ofLine) :
    (m.after lines).feedback = m.feedback := by
  have hnil : answers lines = [] :=
    List.eq_nil_iff_forall_not_mem.2 fun answer ha => h answer (mem_answers_iff.1 ha)
  rw [after_eq, hnil, List.getLast?_nil, Option.none_or]

/-- **The same lines once more change nothing.** -/
theorem after_after (m : Machine) (lines : List Text) :
    (m.after lines).after lines = m.after lines := by
  rw [after_eq m, after_eq]
  congr 1
  · exact Bindings.setAll_setAll ..
  · rw [← Option.or_assoc, Option.or_self]

/-- So it is with a single line. -/
theorem process_process (m : Machine) (line : Text) :
    ((m.process line).2.process line).2 = (m.process line).2 :=
  after_after m [line]

end Machine
end LineMachine
