/-
# Runs that do not read the machine

No output depends on what a machine holds.  A run writes the same, and ends the
same way after the same lines, on every machine there is; the machines
themselves come together in what the lines wrote, and in nothing else
(`Batch.run_on_two_machines`).

So a second run over the same input, on the machine that the first one left, is
the first one over again.  The lines that are run are the same ones, also when
the run broke off, and what they write is there already (`Batch.run_again`).
-/

import LineMachine.Proofs.Batch.Executed
import LineMachine.Proofs.Machine.Memory

namespace LineMachine
namespace Batch

/-- On another machine a run differs in the machine it leaves, and in nothing else. -/
theorem run_eq_run_with (m n : Machine) (s : Source) (w : Writer) :
    run n s w = { run m s w with machine := n.after (executed s w) } := by
  rw [run_eq m, run_eq n]

/-- **A run on two machines** writes the same bytes, flushes as often and ends
the same way; both machines run the same lines and give the same replies.
Afterwards they agree on each name that one of these lines defined, and on the
feedback if one of them was answered.  Each keeps its value, or none, of any
other name, its feedback if no line was answered, and its corpus. -/
theorem run_on_two_machines (m n : Machine) (s : Source) (w : Writer) :
    let lines := executed s w
    let a := run m s w
    let b := run n s w
    (a.written = b.written ∧ a.flushes = b.flushes ∧ a.outcome = b.outcome) ∧
    (a.replies = m.replies lines ∧ b.replies = n.replies lines ∧ a.replies = b.replies) ∧
    (a.machine = m.after lines ∧ b.machine = n.after lines) ∧
    (∀ name, (∃ line ∈ lines, ∃ value, Command.ofLine line = .define name value) →
      ∃ value, a.machine.bindings.get? name = some value ∧
        b.machine.bindings.get? name = some value) ∧
    (∀ name, (∀ line ∈ lines, ∀ value, Command.ofLine line ≠ .define name value) →
      a.machine.bindings.get? name = m.bindings.get? name ∧
        b.machine.bindings.get? name = n.bindings.get? name) ∧
    ((∃ answer, .ok answer ∈ a.replies) →
      ∃ text, a.machine.feedback.last = some text ∧ b.machine.feedback.last = some text) ∧
    ((∀ answer, .ok answer ∉ a.replies) →
      a.machine.feedback = m.feedback ∧ b.machine.feedback = n.feedback) ∧
    a.machine.corpus = m.corpus ∧ b.machine.corpus = n.corpus := by
  intro lines a b
  have ha : a.machine = m.after lines := machine_run m s w
  have hb : b = { a with machine := n.after lines } := run_eq_run_with m n s w
  have hr : a.replies = m.replies lines := replies_run m s w
  rw [hb]
  dsimp only
  rw [ha, hr, Machine.replies_eq_map, Machine.replies_eq_map]
  refine ⟨⟨rfl, rfl, rfl⟩, ⟨rfl, rfl, rfl⟩, ⟨rfl, rfl⟩, fun name h => ?_, fun name h => ?_,
    fun h => ?_, fun h => ?_, ?_, ?_⟩
  · obtain ⟨value, hv⟩ := Machine.exists_get?_after_eq h
    exact ⟨value, hv m, hv n⟩
  · exact ⟨Machine.get?_after_of_forall_ne m h, Machine.get?_after_of_forall_ne n h⟩
  · obtain ⟨text, ht⟩ := Machine.exists_feedback_after_eq h
    rw [ht, ht]
    exact ⟨text, rfl, rfl⟩
  · exact ⟨Machine.feedback_after_of_forall_not_mem m h,
      Machine.feedback_after_of_forall_not_mem n h⟩
  · rw [Machine.after_eq]
  · rw [Machine.after_eq]

/-- **The same input once more,** from a source and to a writer like the first
ones: the same is written, flushed and returned, and the machine stays as the
first run left it, however that run ended. -/
theorem run_again (m : Machine) (s : Source) (w : Writer) :
    run (run m s w).machine s w = run m s w := by
  rw [run_eq (run m s w).machine, machine_run, Machine.after_after, run_eq m]

end Batch
end LineMachine
