/-
# What a run comes to

A line that does not fit into the writer has been run, and it is the last one:
`Batch.fitting room lines` are the lines that are run with so much room for
their output, and `Batch.executed s w` those of a source.  All that a run leaves
behind is told by them and by the output of the lines (`Batch.run_eq`).  The
machine takes no part in it, except that it is the one the lines are run on.
-/

import LineMachine.Batch
import LineMachine.Proofs.Machine.After
import LineMachine.Proofs.Source.OfText

namespace LineMachine
namespace Writer

/-- What the writer takes of the bytes. -/
def taken (w : Writer) (b : Bytes) : Bytes :=
  match w.room with
  | none => b
  | some n => b.take n

/-- The writer has room for the bytes. -/
def holds (w : Writer) (b : Bytes) : Bool :=
  match w.room with
  | none => true
  | some n => b.length ≤ n

theorem holds_iff {w : Writer} {b : Bytes} : w.holds b ↔ ∀ n ∈ w.room, b.length ≤ n := by
  obtain ⟨_ | n, f⟩ := w <;> simp [holds]

end Writer

namespace Batch

theorem work_cons_of_blank {line : Text} (h : line.blank) (lines : List Text) :
    work (line :: lines) = work lines :=
  List.filter_cons_of_neg (by simpa using h)

theorem work_cons_of_not_blank {line : Text} (h : ¬ line.blank) (lines : List Text) :
    work (line :: lines) = line :: work lines :=
  List.filter_cons_of_pos (by simpa using h)

theorem work_append (as bs : List Text) : work (as ++ bs) = work as ++ work bs :=
  List.filter_append ..

/-- The output of lines that are run one after another. -/
def output (lines : List Text) : Bytes := lines.flatMap fun line => (Reply.ofLine line).bytes

@[simp] theorem output_nil : output [] = [] := rfl

@[simp] theorem output_cons (line : Text) (lines : List Text) :
    output (line :: lines) = (Reply.ofLine line).bytes ++ output lines := rfl

theorem output_append (as bs : List Text) : output (as ++ bs) = output as ++ output bs :=
  List.flatMap_append

theorem output_eq_replies (m : Machine) (lines : List Text) :
    output lines = (m.replies lines).flatMap Reply.bytes := by
  rw [Machine.replies_eq_map, List.flatMap_map]
  rfl

/-- The lines that are run with so much room for their output: without a limit
all of them, else those up to the first one that does not fit. -/
def fitting : Option Nat → List Text → List Text
  | none, lines => lines
  | some _, [] => []
  | some n, line :: lines =>
    let cost := (Reply.ofLine line).bytes.length
    line :: if cost ≤ n then fitting (some (n - cost)) lines else []

@[simp] theorem fitting_none (lines : List Text) : fitting none lines = lines := by
  cases lines <;> rfl

/-- The lines of a source that are run. -/
def executed (s : Source) (w : Writer) : List Text := fitting w.room (work s.read.1)

/-- Lines that fit are all run. -/
theorem fitting_of_length_le {n : Nat} {lines : List Text} (h : (output lines).length ≤ n) :
    fitting (some n) lines = lines := by
  induction lines generalizing n with
  | nil => rfl
  | cons line lines ih =>
    rw [output_cons, List.length_append] at h
    rw [fitting, if_pos (by omega), ih (by omega)]

/-- **The lines that are run with too little room** are the fewest whose output
does not fit. -/
theorem exists_fitting_eq_take {n : Nat} {lines : List Text} (h : n < (output lines).length) :
    ∃ k ≤ lines.length, fitting (some n) lines = lines.take k ∧
      n < (output (lines.take k)).length ∧ ∀ j < k, (output (lines.take j)).length ≤ n := by
  induction lines generalizing n with
  | nil => simp at h
  | cons line lines ih =>
    by_cases hn : (Reply.ofLine line).bytes.length ≤ n
    · rw [output_cons, List.length_append] at h
      obtain ⟨k, hk, hf, hlt, hle⟩ := ih (n := n - (Reply.ofLine line).bytes.length) (by omega)
      refine ⟨k + 1, by simpa using hk, by rw [fitting, if_pos hn, hf]; rfl, ?_, fun j hj => ?_⟩
      · rw [List.take_succ_cons, output_cons, List.length_append]
        omega
      · cases j with
        | zero => simp
        | succ j =>
          have := hle j (by omega)
          rw [List.take_succ_cons, output_cons, List.length_append]
          omega
    · refine ⟨1, by simp, by rw [fitting, if_neg hn]; rfl, by simpa using hn, fun j hj => ?_⟩
      obtain rfl : j = 0 := by omega
      simp

/-- What became of lines, told by those that were run. -/
theorem trace_eq (w : Writer) (m : Machine) (lines : List Text) :
    trace w.room m lines =
      { replies := (fitting w.room lines).map Reply.ofLine
        machine := m.after (fitting w.room lines)
        written := w.taken (output lines)
        full := !w.holds (output lines) } := by
  obtain ⟨room, f⟩ := w
  cases room with
  | none =>
    induction lines generalizing m with
    | nil => rfl
    | cons line lines ih =>
      rw [trace_none_cons, ih, Machine.fst_process_eq]
      simp only [fitting_none]
      rfl
  | some n =>
    induction lines generalizing m n with
    | nil => simp [trace, fitting, Writer.taken, Writer.holds]
    | cons line lines ih =>
      simp only [trace, fitting, Machine.fst_process_eq]
      split
      · rename_i hn
        simp only [ih, Writer.taken, Writer.holds, output_cons, List.map_cons, Machine.after_cons,
          List.take_append, List.take_of_length_le hn, List.length_append, Trace.mk.injEq,
          true_and, Bool.not_eq_eq_eq_not, Bool.not_not, decide_eq_decide]
        omega
      · rename_i hn
        simp only [Writer.taken, Writer.holds, output_cons, List.map_cons, List.map_nil,
          Machine.after_cons, Machine.after_nil, List.length_append, Trace.mk.injEq, true_and]
        refine ⟨(List.take_append_of_le_length (by omega)).symm, ?_⟩
        simpa using by omega

/-- How often a run tells the writer to bring its bytes home, and how it ends. -/
def ending (s : Source) (w : Writer) : Nat × Except Failure Tally :=
  if w.holds (output (work s.read.1)) then
    match s.read.2, w.flushFault with
    | some cause, _ => (0, .error (.unreadableLine (s.read.1.length + 1) cause))
    | none, some message => (1, .error (.unflushed message))
    | none, none => (1, .ok (.ofReplies ((executed s w).map Reply.ofLine)))
  else (0, .error .writerFull)

/-- **What a run leaves behind.**  The machine it starts from matters only for
the machine it ends with. -/
theorem run_eq (m : Machine) (s : Source) (w : Writer) :
    run m s w =
      { replies := (executed s w).map Reply.ofLine
        written := w.taken (output (work s.read.1))
        flushes := (ending s w).1
        outcome := (ending s w).2
        machine := m.after (executed s w) } := by
  simp only [run, trace_eq, ending, executed]
  cases w.holds (output (work s.read.1)) with
  | false => rfl
  | true =>
    cases s.read.2 with
    | some cause => rfl
    | none => cases w.flushFault <;> rfl

theorem replies_run (m : Machine) (s : Source) (w : Writer) :
    (run m s w).replies = m.replies (executed s w) := by
  rw [run_eq, Machine.replies_eq_map]

theorem machine_run (m : Machine) (s : Source) (w : Writer) :
    (run m s w).machine = m.after (executed s w) := by
  rw [run_eq]

/-- A run depends on the lines that are read and the fault after them, not on
the bytes. -/
theorem run_congr {s s' : Source} (h : s.read = s'.read) (m : Machine) (w : Writer) :
    run m s w = run m s' w := by
  rw [run, run, h]

/-- A run over lines that can all be read, into a writer that never fails. -/
theorem run_of_read_eq_none {s : Source} (h : s.read.2 = none) (m : Machine) :
    run m s {} =
      { replies := (work s.read.1).map Reply.ofLine
        written := output (work s.read.1)
        flushes := 1
        outcome := .ok (.ofReplies ((work s.read.1).map Reply.ofLine))
        machine := m.after (work s.read.1) } := by
  have hx : executed s {} = work s.read.1 := fitting_none _
  have he : ending s {} = (1, .ok (.ofReplies ((work s.read.1).map Reply.ofLine))) := by
    simp only [ending, Writer.holds, if_true, h, hx]
  rw [run_eq, hx, he]
  rfl

/-- A run over a text, told by the lines that are run. -/
theorem run_ofText_eq (m : Machine) (t : Text) :
    run m (.ofText t) {} =
      { replies := (work t.lines).map Reply.ofLine
        written := output (work t.lines)
        flushes := 1
        outcome := .ok (.ofReplies ((work t.lines).map Reply.ofLine))
        machine := m.after (work t.lines) } := by
  have hread := Source.read_ofText t
  rw [run_of_read_eq_none (by rw [hread]), hread]

/-- A run over lines of which one cannot be read, into a writer that never fails. -/
theorem run_of_read_eq_some {s : Source} {cause : Fault} (h : s.read.2 = some cause)
    (m : Machine) :
    run m s {} =
      { replies := (work s.read.1).map Reply.ofLine
        written := output (work s.read.1)
        flushes := 0
        outcome := .error (.unreadableLine (s.read.1.length + 1) cause)
        machine := m.after (work s.read.1) } := by
  have hx : executed s {} = work s.read.1 := fitting_none _
  have he : ending s {} = (0, .error (.unreadableLine (s.read.1.length + 1) cause)) := by
    simp only [ending, Writer.holds, if_true, h]
  rw [run_eq, hx, he]
  rfl

/-- A run into a writer that never fails counts its lines if all can be read. -/
theorem outcome_run_eq_ok {m : Machine} {s : Source} {t : Tally} :
    (run m s {}).outcome = .ok t ↔
      s.read.2 = none ∧ t = .ofReplies ((work s.read.1).map Reply.ofLine) := by
  cases h : s.read.2 with
  | none => simp [run_of_read_eq_none h, eq_comm]
  | some cause => simp [run_of_read_eq_some h]

/-- The only failure of such a run is a line that cannot be read. -/
theorem outcome_run_eq_error {m : Machine} {s : Source} {e : Failure} :
    (run m s {}).outcome = .error e ↔
      ∃ cause, s.read.2 = some cause ∧ e = .unreadableLine (s.read.1.length + 1) cause := by
  cases h : s.read.2 with
  | none => simp [run_of_read_eq_none h]
  | some cause => simp [run_of_read_eq_some h, eq_comm]

/-- A run into a writer that never fails succeeds exactly when all lines can be
read. -/
theorem outcome_run_eq_ok_iff {m : Machine} {s : Source} :
    (∃ tally, (run m s {}).outcome = .ok tally) ↔ s.read.2 = none := by
  simp only [outcome_run_eq_ok, exists_and_left, exists_eq, and_true]

end Batch
end LineMachine
