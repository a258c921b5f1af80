/-
# Lines one after another

`Machine.after m lines` is the machine that lines leave which are run one after
another, and `Machine.replies m lines` what they are answered with on the way.
A reply depends on its line alone, so the replies are those of the lines
themselves (`Machine.replies_eq_map`), whatever the machine and whatever the
lines before did to it.
-/

import LineMachine.Machine

namespace LineMachine

/-- The reply to a line. -/
def Reply.ofLine (line : Text) : Reply := ((Command.ofLine line).execute ∅).1

namespace Machine

/-- The machine after lines are run one after another. -/
def after (m : Machine) (lines : List Text) : Machine :=
  lines.foldl (fun m line => (m.process line).2) m

/-- The replies to lines that are run one after another. -/
def replies (m : Machine) : List Text → List Reply
  | [] => []
  | line :: lines => (m.process line).1 :: replies (m.process line).2 lines

@[simp] theorem after_nil (m : Machine) : m.after [] = m := rfl

@[simp] theorem after_cons (m : Machine) (line : Text) (lines : List Text) :
    m.after (line :: lines) = (m.process line).2.after lines := rfl

theorem after_append (m : Machine) (as bs : List Text) :
    m.after (as ++ bs) = (m.after as).after bs :=
  List.foldl_append

/-- Every machine gives a line the same reply. -/
theorem fst_process_eq (m : Machine) (line : Text) : (m.process line).1 = Reply.ofLine line :=
  Command.execute_fst ..

/-- What a line does to a machine: its command is carried out on the bindings, and
its reply is heard. -/
theorem snd_process (m : Machine) (line : Text) :
    (m.process line).2 =
      { corpus := m.corpus
        bindings := ((Command.ofLine line).execute m.bindings).2
        feedback := m.feedback.hear (Reply.ofLine line) } := by
  rw [Reply.ofLine, Command.execute_fst ∅ m.bindings]
  rfl

/-- **No line changes the reply to another.** -/
theorem replies_eq_map (m : Machine) (lines : List Text) :
    m.replies lines = lines.map Reply.ofLine := by
  induction lines generalizing m with
  | nil => rfl
  | cons line lines ih => rw [replies, ih, fst_process_eq, List.map_cons]

end Machine
end LineMachine
