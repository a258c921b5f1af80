/-
# Writers that fail

A writer fails in two ways: it is full, or it cannot bring its bytes home.  A
full writer has taken the first bytes of the output, as many as it had room for,
and the run ends at once, without a flush; the line whose output did not fit has
been run, no later line has (`Batch.run_of_length_lt`).  A flush is asked for
once, when nothing is left to read or to write (`Batch.Finishes`), so a run
whose flush fails differs from one whose flush does not in how it ends, and in
nothing else (`Batch.run_flushFault_of_finishes`).
-/

import LineMachine.Proofs.Batch.Executed

namespace LineMachine
namespace Batch

/-- All output goes to a writer without a limit. -/
theorem written_run_unlimited (m : Machine) (s : Source) (f : Option Text) :
    (run m s { flushFault := f }).written = output (work s.read.1) := by
  rw [run_eq]
  rfl

theorem executed_unlimited (s : Source) (f : Option Text) :
    executed s { flushFault := f } = work s.read.1 :=
  fitting_none _

/-- **A writer with room for all output** is as good as one without a limit. -/
theorem run_of_length_le {m : Machine} {s : Source} {n : Nat} (f : Option Text)
    (h : (output (work s.read.1)).length ≤ n) :
    run m s { room := some n, flushFault := f } = run m s { flushFault := f } := by
  have hx : executed s { room := some n, flushFault := f } = executed s { flushFault := f } := by
    rw [executed_unlimited]
    exact fitting_of_length_le h
  have hw : Writer.taken { room := some n, flushFault := f } (output (work s.read.1))
      = Writer.taken { flushFault := f } (output (work s.read.1)) := List.take_of_length_le h
  have he : ending s { room := some n, flushFault := f } = ending s { flushFault := f } := by
    simp only [ending, hx, Writer.holds, h, decide_true]
  rw [run_eq, run_eq, hx, hw, he]

/-- **A writer that gets full ends the run:** it is not flushed, and the lines
that were run are the fewest whose output does not fit. -/
theorem run_of_length_lt {m : Machine} {s : Source} {n : Nat} (f : Option Text)
    (h : n < (output (work s.read.1)).length) :
    let r := run m s { room := some n, flushFault := f }
    r.outcome = .error .writerFull ∧ r.flushes = 0 ∧
      ∃ k ≤ (work s.read.1).length, r.machine = m.after ((work s.read.1).take k) ∧
        n < (output ((work s.read.1).take k)).length ∧
        ∀ j < k, (output ((work s.read.1).take j)).length ≤ n := by
  have he : ending s { room := some n, flushFault := f } = (0, .error .writerFull) := by
    simp [ending, Writer.holds, Nat.not_le.2 h]
  obtain ⟨k, hk, hx, hlt, hle⟩ := exists_fitting_eq_take h
  rw [run_eq, he, executed, hx]
  exact ⟨rfl, rfl, k, hk, rfl, hlt, hle⟩

/-- All lines could be read, and all output fits. -/
def Finishes (s : Source) (room : Option Nat) : Prop :=
  s.read.2 = none ∧ ∀ n ∈ room, (output (work s.read.1)).length ≤ n

/-- A run that finishes ends with a flush, well or not. -/
theorem ending_of_finishes {s : Source} {w : Writer} (h : Finishes s w.room) :
    ending s w = (1, match w.flushFault with
      | some message => .error (.unflushed message)
      | none => .ok (.ofReplies ((executed s w).map Reply.ofLine))) := by
  have hw : w.holds (output (work s.read.1)) := Writer.holds_iff.2 h.2
  rw [ending, if_pos hw, h.1]
  cases w.flushFault <;> rfl

/-- Any other run ends without one, whatever would have come of it. -/
theorem ending_of_not_finishes {s : Source} {room : Option Nat} (f : Option Text)
    (h : ¬ Finishes s room) :
    (ending s ⟨room, f⟩).1 = 0 ∧ ending s ⟨room, f⟩ = ending s { room } := by
  by_cases hw : Writer.holds { room } (output (work s.read.1))
  · have hw' : Writer.holds ⟨room, f⟩ (output (work s.read.1)) := hw
    obtain ⟨cause, hc⟩ : ∃ cause, s.read.2 = some cause :=
      Option.ne_none_iff_exists'.1 fun hs => h ⟨hs, Writer.holds_iff.1 hw⟩
    rw [ending, ending, if_pos hw', if_pos hw, hc]
    exact ⟨rfl, rfl⟩
  · have hw' : ¬ Writer.holds ⟨room, f⟩ (output (work s.read.1)) := hw
    rw [ending, ending, if_neg hw', if_neg hw]
    exact ⟨rfl, rfl⟩

theorem flushes_run_of_finishes {s : Source} {w : Writer} (m : Machine)
    (h : Finishes s w.room) : (run m s w).flushes = 1 := by
  rw [run_eq, ending_of_finishes h]

theorem flushes_run_of_not_finishes {s : Source} {w : Writer} (m : Machine)
    (h : ¬ Finishes s w.room) : (run m s w).flushes = 0 := by
  rw [run_eq]
  exact (ending_of_not_finishes w.flushFault h).1

/-- **A flush that fails** makes the run fail, and changes nothing else. -/
theorem run_flushFault_of_finishes {s : Source} {room : Option Nat} (m : Machine) (message : Text)
    (h : Finishes s room) :
    run m s { room, flushFault := some message } =
      { run m s { room } with outcome := .error (.unflushed message) } := by
  have hf := ending_of_finishes (w := { room, flushFault := some message }) h
  have hn := ending_of_finishes (w := { room }) h
  rw [run_eq, run_eq, hf, hn]
  rfl

/-- A flush that is not asked for cannot fail. -/
theorem run_flushFault_of_not_finishes {s : Source} {room : Option Nat} (m : Machine)
    (message : Text) (h : ¬ Finishes s room) :
    run m s { room, flushFault := some message } = run m s { room } := by
  have he := (ending_of_not_finishes (some message) h).2
  rw [run_eq, run_eq, he]
  rfl

/-- What a run writes when nothing keeps it from finishing is all the output. -/
theorem run_of_finishes {s : Source} {room : Option Nat} (m : Machine) (h : Finishes s room) :
    run m s { room } = run m s {} := by
  cases room with
  | none => rfl
  | some n => exact run_of_length_le none (h.2 n rfl)

/-- **Runs into writers that fail.**  With room for `n` bytes the first `n` bytes
of the output are written.  If that is all of it, the run is the one without a
limit; else it fails without a flush, and the lines that were run are the fewest
whose output has more than `n` bytes.  A flush that fails is the only one, comes
after all lines were read and all output was written, and changes only how the
run ends. -/
theorem run_failing_writer (m : Machine) (s : Source) (n : Nat) :
    let lines := s.read.1.filter fun line => !line.blank
    let size (k : Nat) := ((m.replies (lines.take k)).flatMap Reply.bytes).length
    let free := run m s {}
    let cut := run m s { room := some n }
    let finishes (room : Option Nat) := s.read.2 = none ∧ ∀ n ∈ room, free.written.length ≤ n
    cut.written = free.written.take (min n free.written.length) ∧
    (free.written.length ≤ n → cut = free) ∧
    (n < free.written.length →
      cut.outcome = .error .writerFull ∧ cut.flushes = 0 ∧
        ∃ k ≤ lines.length, cut.machine = m.after (lines.take k) ∧ n < size k ∧
          ∀ j < k, size j ≤ n) ∧
    ∀ room message,
      let healthy := run m s { room }
      let failing := run m s { room, flushFault := some message }
      (finishes room →
        failing = { healthy with outcome := .error (.unflushed message) } ∧
          failing.flushes = 1 ∧ failing.written = free.written ∧
          failing.machine = m.after lines) ∧
      (¬ finishes room → failing = healthy ∧ failing.flushes = 0) := by
  intro lines size free cut finishes
  have hfree : free.written = output lines := written_run_unlimited m s none
  have hfinishes (room : Option Nat) : finishes room ↔ Finishes s room := by
    simp only [finishes, hfree]
    rfl
  have hsize : ∀ k, size k = (output (lines.take k)).length := fun k =>
    congrArg List.length (output_eq_replies m _).symm
  rw [hfree]
  refine ⟨?_, fun h => run_of_length_le none h, fun h => ?_,
    fun room message => ⟨fun h => ?_, fun h => ?_⟩⟩
  · have hcut : cut.written = (output lines).take n := by
      simp only [cut, run_eq]
      rfl
    rw [hcut]
    exact List.take_eq_take_min
  · obtain ⟨ho, hfl, k, hk, hm, hlt, hle⟩ := run_of_length_lt (m := m) none h
    exact ⟨ho, hfl, k, hk, hm, (hsize k).symm ▸ hlt, fun j hj => (hsize j).symm ▸ hle j hj⟩
  · have h := (hfinishes room).1 h
    have hf := run_flushFault_of_finishes m message h
    refine ⟨hf, flushes_run_of_finishes m h, ?_, ?_⟩
    · rw [hf, run_of_finishes m h]
      exact hfree
    · rw [hf, run_of_finishes m h, run_eq, executed_unlimited]
      rfl
  · have h := mt (hfinishes room).2 h
    exact ⟨run_flushFault_of_not_finishes m message h, flushes_run_of_not_finishes m h⟩

end Batch
end LineMachine
