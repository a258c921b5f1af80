/-
# Histories

Lines run one at a time, feedback from elsewhere and runs over whole sources
reach a machine in any order.  All they do to it is in its history: the lines
that were executed and the texts that were recorded.  Of that, what counts in
the end is the last definition of each name and the last text that was recorded
(`Machine.last_write_wins`); a line without an answer counts for nothing.
-/

import LineMachine.Proofs.Batch.Executed
import LineMachine.Proofs.Bindings.Lookup

namespace LineMachine

/-- The name and the value that a command defines, if it does. -/
def Command.definition? : Command → Option (Text × Text)
  | .define name value => some (name, value)
  | _ => none

namespace Machine

/-- What can be done to a machine. -/
inductive Operation where
  /-- One line is run. -/
  | process (line : Text)
  /-- Feedback is recorded that no line gave. -/
  | record (text : Text)
  /-- The lines of a source are run. -/
  | run (source : Source) (writer : Writer)

/-- The machine after an operation. -/
def apply (m : Machine) : Operation → Machine
  | .process line => (m.process line).2
  | .record text => m.record text
  | .run source writer => (Batch.run m source writer).machine

/-- What happens to a machine. -/
inductive Entry where
  /-- A line was executed. -/
  | executed (line : Text)
  /-- A text was recorded that no line gave. -/
  | recorded (text : Text)

/-- What happens to a machine in an operation. -/
def Operation.entries : Operation → List Entry
  | .process line => [.executed line]
  | .record text => [.recorded text]
  | .run source writer => (Batch.executed source writer).map .executed

namespace Entry

/-- The name and the value that are defined. -/
def definition? : Entry → Option (Text × Text)
  | .executed line => (Command.ofLine line).definition?
  | .recorded _ => none

/-- The text that becomes the feedback: the answer to a line, if it has one. -/
def feedback? : Entry → Option Text
  | .executed line => (Reply.ofLine line).toOption
  | .recorded text => some text

end Entry

/-- The machine after one more thing has happened to it. -/
def play (m : Machine) : Entry → Machine
  | .executed line => (m.process line).2
  | .recorded text => m.record text

/-- An operation does to a machine what is in its entries, one by one. -/
theorem apply_eq_foldl (m : Machine) (op : Operation) : m.apply op = op.entries.foldl play m := by
  cases op with
  | process line => rfl
  | record text => rfl
  | run source writer =>
    rw [apply, Batch.run_eq, Operation.entries, List.foldl_map]
    rfl

theorem foldl_apply_eq_foldl (m : Machine) (ops : List Operation) :
    ops.foldl apply m = (ops.flatMap Operation.entries).foldl play m := by
  induction ops generalizing m with
  | nil => rfl
  | cons op ops ih => rw [List.foldl_cons, ih, apply_eq_foldl, List.flatMap_cons, List.foldl_append]

/-- What happens once: a definition is set, feedback is replaced, the corpus
stays. -/
theorem play_eq (m : Machine) (e : Entry) :
    m.play e =
      { corpus := m.corpus
        bindings := m.bindings.setAll e.definition?.toList
        feedback := ⟨e.feedback?.or m.feedback.last⟩ } := by
  cases e with
  | recorded text => rfl
  | executed line =>
    rw [play, snd_process, Entry.definition?, Entry.feedback?, Reply.ofLine]
    cases Command.ofLine line <;> rfl

/-- **What happens one by one:** all definitions are set in order, the feedback
is the last one there was. -/
theorem foldl_play_eq (m : Machine) (es : List Entry) :
    es.foldl play m =
      { corpus := m.corpus
        bindings := m.bindings.setAll (es.filterMap Entry.definition?)
        feedback := ⟨(es.filterMap Entry.feedback?).getLast?.or m.feedback.last⟩ } := by
  induction es generalizing m with
  | nil => rfl
  | cons e es ih =>
    rw [List.foldl_cons, ih, play_eq]
    congr 1
    · cases h : e.definition? <;> simp [h, Bindings.setAll]
    · cases h : e.feedback? with
      | none => simp [h]
      | some text =>
        cases hl : (es.filterMap Entry.feedback?).getLast? <;> simp [h, hl, List.getLast?_cons]

/-- **The last write wins.**  After any operations on a new machine, a name has
the value of its last definition, the size counts the names that were defined,
the feedback is the last text that was recorded, and the corpus is the one from
the start. -/
theorem last_write_wins (corpus : Corpus) (ops : List Operation) :
    let m := ops.foldl apply { corpus }
    let history := ops.flatMap Operation.entries
    let definitions := history.filterMap Entry.definition?
    (∀ name, m.bindings.get? name =
      ((definitions.filter fun d => d.1 = name).getLast?).map Prod.snd) ∧
    m.bindings.size = (definitions.map Prod.fst).toFinset.card ∧
    m.feedback.last = (history.filterMap Entry.feedback?).getLast? ∧
    m.corpus = corpus := by
  intro m history definitions
  have hm : m = _ := (foldl_apply_eq_foldl _ ops).trans (foldl_play_eq _ history)
  rw [hm]
  refine ⟨fun name => ?_, Bindings.size_setAll_empty _, Option.or_none, rfl⟩
  rw [Bindings.get?_setAll, Bindings.get?_empty, Option.or_none]

end Machine
end LineMachine
