/-
# Inputs one after another

A run over two inputs in one is a run over the first and then, on the machine
that leaves, one over the second, if the first input ends where a line does: the
output of both is written, the counts add up, and lines are numbered on from the
last one of the first input (`Batch.run_joined`).  Without that condition the
last line of the first input would go on in the second, or lose a carriage
return to it.

If the first input cannot be read to its end, nothing of the second is.
-/

import LineMachine.Proofs.Batch.Room
import LineMachine.Proofs.Source.Reading

namespace LineMachine

theorem Tally.ofReplies_append (rs ss : List Reply) :
    Tally.ofReplies (rs ++ ss) =
      ⟨(Tally.ofReplies rs).processed + (Tally.ofReplies ss).processed,
        (Tally.ofReplies rs).failed + (Tally.ofReplies ss).failed⟩ := by
  simp only [Tally.ofReplies, List.length_append, List.countP_append]

namespace Batch

open Source (newline)

theorem machine_run_unlimited (m : Machine) (s : Source) :
    (run m s {}).machine = m.after (work s.read.1) := by
  rw [machine_run, executed_unlimited]

section

variable {s s₁ s₂ : Source} (h : s.read = (s₁.read.1 ++ s₂.read.1, s₂.read.2))
include h

/-- If the lines of one source are read after those of another, they are run so. -/
theorem written_run_of_read_append (m : Machine) :
    (run m s {}).written =
      (run m s₁ {}).written ++ (run (run m s₁ {}).machine s₂ {}).written := by
  rw [written_run_unlimited, written_run_unlimited, written_run_unlimited, h, work_append,
    output_append]

theorem machine_run_of_read_append (m : Machine) :
    (run m s {}).machine = (run (run m s₁ {}).machine s₂ {}).machine := by
  rw [machine_run_unlimited, machine_run_unlimited, machine_run_unlimited, h, work_append,
    Machine.after_append]

/-- The counts of both add up. -/
theorem outcome_run_of_read_append_ok {m n : Machine} {t₁ t₂ : Tally}
    (h₁ : (run m s₁ {}).outcome = .ok t₁) (h₂ : (run n s₂ {}).outcome = .ok t₂) :
    (run m s {}).outcome = .ok ⟨t₁.processed + t₂.processed, t₁.failed + t₂.failed⟩ := by
  obtain ⟨-, rfl⟩ := outcome_run_eq_ok.1 h₁
  obtain ⟨hread, rfl⟩ := outcome_run_eq_ok.1 h₂
  rw [outcome_run_eq_ok, h, ← Tally.ofReplies_append, ← List.map_append, work_append]
  exact ⟨hread, rfl⟩

/-- A line that cannot be read is numbered on from the lines of the first. -/
theorem outcome_run_of_read_append_error {m n : Machine} {e : Failure}
    (h₂ : (run n s₂ {}).outcome = .error e) :
    ∃ k cause, e = .unreadableLine k cause ∧
      (run m s {}).outcome = .error (.unreadableLine (k + s₁.read.1.length) cause) := by
  obtain ⟨cause, hread, rfl⟩ := outcome_run_eq_error.1 h₂
  refine ⟨_, cause, rfl, outcome_run_eq_error.2 ⟨cause, ?_, ?_⟩⟩
  · rw [h]
    exact hread
  · rw [h, List.length_append, Nat.add_comm s₁.read.1.length, Nat.add_right_comm]

end

/-- **Inputs compose at the end of a line.**  If the first input, of whole lines,
runs to its end, then both in one write what the first writes and then the
second on the machine the first leaves, and leave the machine that the second
leaves; the counts are the sums, and a line of the second that cannot be read
has the newlines of the first added to its number.  If the first input does not
run to its end, the second has no part in the run. -/
theorem run_joined (m : Machine) {a : Bytes} (ha : Lines.Whole newline a) (b : Bytes)
    (f : Option Fault) :
    let first := run m { bytes := a } {}
    let second := run first.machine ⟨b, f⟩ {}
    let whole := run m ⟨a ++ b, f⟩ {}
    (∀ s, first.outcome = .ok s →
      whole.written = first.written ++ second.written ∧ whole.machine = second.machine ∧
      (∀ t, second.outcome = .ok t →
        whole.outcome = .ok ⟨s.processed + t.processed, s.failed + t.failed⟩) ∧
      ∀ e, second.outcome = .error e →
        ∃ n cause, e = .unreadableLine n cause ∧
          whole.outcome = .error (.unreadableLine (n + a.count newline) cause)) ∧
    ∀ e, first.outcome = .error e → whole = first := by
  intro first second whole
  refine ⟨fun s hs => ?_, fun e he => ?_⟩
  · obtain ⟨hend, -⟩ := outcome_run_eq_ok.1 hs
    have hread := Source.read_append_of_whole ha hend b f
    have hlen := Source.length_read_of_whole ha hend
    refine ⟨written_run_of_read_append hread m, machine_run_of_read_append hread m,
      fun t ht => outcome_run_of_read_append_ok hread hs ht, fun e he => ?_⟩
    rw [← hlen]
    exact outcome_run_of_read_append_error hread he
  · obtain ⟨cause, hfault, -⟩ := outcome_run_eq_error.1 he
    have hread := Source.read_append_of_fault ha (by simp [hfault]) b f
    exact run_congr hread m {}

/-- The second line of the second input is the third of both. -/
theorem run_joined_define :
    let a := Utf8.encode "define x = 1\n".toList
    let b : Bytes := [newline, 0xFF]
    let first := run {} { bytes := a } {}
    Lines.Whole newline a ∧ first.outcome = .ok ⟨1, 0⟩ ∧
      (run first.machine { bytes := b } {}).outcome = .error (.unreadableLine 2 .illFormed) ∧
      (run {} { bytes := a ++ b } {}).outcome = .error (.unreadableLine 3 .illFormed) := by
  intro a b first
  have ha : Lines.Whole newline a := by decide +kernel
  have hfirst : first.outcome = .ok ⟨1, 0⟩ := by decide +kernel
  have hsecond : (run first.machine { bytes := b } {}).outcome =
      .error (.unreadableLine 2 .illFormed) := by decide +kernel
  obtain ⟨-, -, -, herror⟩ := (run_joined {} ha b none).1 _ hfirst
  obtain ⟨n, cause, he, hwhole⟩ := herror _ hsecond
  obtain ⟨rfl, rfl⟩ := Failure.unreadableLine.inj he
  have hcount : a.count newline = 1 := by decide +kernel
  rw [hcount] at hwhole
  exact ⟨ha, hfirst, hsecond, hwhole⟩

end Batch
end LineMachine
