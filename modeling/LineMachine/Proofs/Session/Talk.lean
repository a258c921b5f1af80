/-
# What a session through a pipe says

A session runs the lines that it reads, with their backspaces carried out,
unless they are blank; what it says is the prompt and the response to each line
in turn (`Session.talk_eq`), and the responses alone are what a batch writes for
the same lines (`Session.flatMap_response`).
-/

import LineMachine.Proofs.Batch.Executed
import LineMachine.Session.Piped

namespace LineMachine
namespace Session

/-- What a line is answered with; nothing if it is blank. -/
def response (line : Text) : Bytes := if line.blank then [] else (Reply.ofLine line).bytes

theorem response_of_blank {line : Text} (h : line.blank) : response line = [] := if_pos h

theorem response_of_not_blank {line : Text} (h : ¬ line.blank) :
    response line = (Reply.ofLine line).bytes :=
  if_neg h

/-- **The responses to lines** are the output of those that are not blank. -/
theorem flatMap_response (lines : List Text) :
    lines.flatMap response = Batch.output (Batch.work lines) := by
  induction lines with
  | nil => rfl
  | cons line lines ih =>
    by_cases h : line.blank
    · rw [List.flatMap_cons, response_of_blank h, ih, Batch.work_cons_of_blank h, List.nil_append]
    · rw [List.flatMap_cons, response_of_not_blank h, ih, Batch.work_cons_of_not_blank h,
        Batch.output_cons]

/-- What is entered when the backspaces in lines are carried out. -/
def entered (raws : List Text) : List Text := raws.map Backspace.apply

theorem entered_of_not_mem {raws : List Text} (h : ∀ raw ∈ raws, Backspace.key ∉ raw) :
    entered raws = raws := by
  have happly : ∀ raw ∈ raws, Backspace.apply raw = id raw := fun raw hraw =>
    Backspace.apply_of_not_mem (h raw hraw)
  rw [entered, List.map_congr_left happly, List.map_id]

/-- **What a session says to its lines:** the prompt and the response to each. -/
theorem talk_eq (prompt : Bytes) (m : Machine) (raws : List Text) :
    talk prompt m raws =
      { output := (entered raws).flatMap fun line => prompt ++ response line
        replies := (Batch.work (entered raws)).map Reply.ofLine
        machine := m.after (Batch.work (entered raws)) } := by
  induction raws generalizing m with
  | nil => rfl
  | cons raw raws ih =>
    have hentered : entered (raw :: raws) = Backspace.apply raw :: entered raws := rfl
    by_cases h : (Backspace.apply raw).blank
    · rw [talk_cons_of_blank prompt m raws h, ih, hentered, Batch.work_cons_of_blank h]
      simp [response_of_blank h]
    · rw [talk_cons_of_not_blank prompt m raws h, hentered, Batch.work_cons_of_not_blank h]
      simp [ih, response_of_not_blank h, Machine.fst_process_eq]

end Session
end LineMachine
