/-
# Blank lines in an input

Lines of blanks can be put into an input at its start and after any of its
newlines (`Source.spaced`), and a run writes, flushes and answers the same, on
the same machine, whatever the bytes, the source and the writer
(`Batch.run_spaced`).  They are not run, but they are lines: one that cannot be
read has the number of blank lines before it added to its own.
-/

import LineMachine.Proofs.Batch.Joined
import LineMachine.Proofs.Command.Spacing

namespace LineMachine
namespace Source

open Command (Blanks)

/-- The bytes of blank lines, each with its newline. -/
def blankLines (ls : List Blanks) : Bytes := ls.flatMap fun l => Utf8.encode l.text ++ [newline]

/-- The bytes with blank lines put in after each newline: those of `gap 0` after the
first one, those of `gap 1` after the second, and so on. -/
def afterNewlines (gap : Nat → List Blanks) : Bytes → Bytes
  | [] => []
  | x :: b =>
    if x = newline then x :: (blankLines (gap 0) ++ afterNewlines (fun i => gap (i + 1)) b)
    else x :: afterNewlines gap b

/-- The bytes with the blank lines of `gap 0` put in at the start, and those of
`gap i` right after the `i`th newline. -/
def spaced (gap : Nat → List Blanks) (b : Bytes) : Bytes :=
  blankLines (gap 0) ++ afterNewlines (fun i => gap (i + 1)) b

/-- How many blank lines are put in before the line with number `n`, counted from one. -/
def putBefore (gap : Nat → List Blanks) (n : Nat) : Nat := ((List.range n).flatMap gap).length

variable {gap : Nat → List Blanks}

theorem putBefore_succ (gap : Nat → List Blanks) (n : Nat) :
    putBefore gap (n + 1) = (gap 0).length + putBefore (fun i => gap (i + 1)) n := by
  rw [putBefore, List.range_succ_eq_map, List.flatMap_cons, List.length_append, List.flatMap_map]
  rfl

theorem afterNewlines_of_not_mem {l : Bytes} (h : newline ∉ l) : afterNewlines gap l = l := by
  induction l with
  | nil => rfl
  | cons x l ih =>
    rw [List.mem_cons, not_or] at h
    rw [afterNewlines, if_neg (Ne.symm h.1), ih h.2]

theorem afterNewlines_append_cons {l : Bytes} (h : newline ∉ l) (b : Bytes) :
    afterNewlines gap (l ++ newline :: b) = l ++ newline :: spaced gap b := by
  induction l with
  | nil => exact if_pos rfl
  | cons x l ih =>
    rw [List.mem_cons, not_or] at h
    rw [List.cons_append, afterNewlines, if_neg (Ne.symm h.1), ih h.2, List.cons_append]

/-- Blank lines are read first. -/
theorem read_blankLines_append (ls : List Blanks) (b : Bytes) (f : Option Fault) :
    read ⟨blankLines ls ++ b, f⟩ =
      ((ls.map fun l => l.text.dropReturn) ++ (read ⟨b, f⟩).1, (read ⟨b, f⟩).2) := by
  induction ls with
  | nil => rfl
  | cons l ls ih =>
    have hl : newline ∉ Utf8.encode l.text := mt newline_mem_encode_iff.1 l.single
    have hdecode : Utf8.decode (dropReturn (Utf8.encode l.text)) = some l.text.dropReturn := by
      rw [dropReturn_encode, Utf8.decode_encode]
    have hfirst : blankLines (l :: ls) ++ b =
        Utf8.encode l.text ++ newline :: (blankLines ls ++ b) := by
      simp [blankLines]
    rw [hfirst, read_append_cons hl hdecode, ih]
    rfl

end Source

/-- The failure with `d n` added to the number `n` of a line that cannot be read. -/
def Failure.moved (d : Nat → Nat) : Failure → Failure
  | .unreadableLine n cause => .unreadableLine (n + d n) cause
  | e => e

namespace Batch

open Command (Blanks)
open Source (newline blankLines afterNewlines spaced putBefore)

/-- Blank lines are not run. -/
theorem work_blank (ls : List Blanks) : work (ls.map fun l => l.text.dropReturn) = [] := by
  refine List.filter_eq_nil_iff.2 fun line hl => ?_
  obtain ⟨l, -, rfl⟩ := List.mem_map.1 hl
  have hblank : l.text.dropReturn.blank :=
    List.all_eq_true.2 fun c hc => List.all_eq_true.1 l.blank c (Text.mem_of_mem_dropReturn hc)
  simpa using hblank

/-- The lines of `s'` that are run are those of `s`, and so is the fault after them,
but the line with number `n` in `s` has `d n` more lines before it. -/
structure Respaced (d : Nat → Nat) (s s' : Source) : Prop where
  work_eq : work s'.read.1 = work s.read.1
  fault_eq : s'.read.2 = s.read.2
  length_eq : s.read.2 ≠ none → s'.read.1.length = s.read.1.length + d (s.read.1.length + 1)

namespace Respaced

variable {d : Nat → Nat} {s s' : Source} {b b' : Bytes} {f : Option Fault}

theorem blankLines_append (h : Respaced d s ⟨b, f⟩) (ls : List Blanks) :
    Respaced (fun n => ls.length + d n) s ⟨blankLines ls ++ b, f⟩ := by
  refine ⟨?_, ?_, fun hf => ?_⟩
  · rw [Source.read_blankLines_append, work_append, work_blank, List.nil_append, h.work_eq]
  · rw [Source.read_blankLines_append, h.fault_eq]
  · rw [Source.read_blankLines_append, List.length_append, List.length_map, h.length_eq hf,
      Nat.add_left_comm]

/-- One line more in front, which cannot have moved if it cannot be read. -/
theorem append_cons (h : Respaced d ⟨b, f⟩ ⟨b', f⟩) (h0 : d 0 = 0) {l : Bytes}
    (hl : newline ∉ l) :
    Respaced (fun n => d (n - 1)) ⟨l ++ newline :: b, f⟩ ⟨l ++ newline :: b', f⟩ := by
  by_cases hw : Utf8.WellFormed l
  · obtain ⟨t, ht⟩ := Source.exists_read_append_cons hl hw
    refine ⟨?_, ?_, ?_⟩
    · rw [ht, ht, ← List.singleton_append, work_append, h.work_eq, ← work_append]
      rfl
    · rw [ht, ht, h.fault_eq]
    · rw [ht, ht]
      intro hf
      rw [List.length_cons, List.length_cons, h.length_eq hf, Nat.add_right_comm]
      rfl
  · have hread := Source.read_append_cons_of_not_wellFormed hl hw
    refine ⟨?_, ?_, fun _ => ?_⟩
    · rw [hread, hread]
    · rw [hread, hread]
    · rw [hread, hread]
      simp [h0]

theorem executed_eq (h : Respaced d s s') (w : Writer) : executed s' w = executed s w := by
  rw [executed, executed, h.work_eq]

/-- A run ends the same way, except for the number of a line that cannot be read. -/
theorem ending_eq (h : Respaced d s s') (w : Writer) :
    ending s' w = ((ending s w).1, (ending s w).2.mapError (Failure.moved d)) := by
  rw [ending, ending, h.work_eq, h.executed_eq, h.fault_eq]
  by_cases hw : w.holds (output (work s.read.1))
  · rw [if_pos hw, if_pos hw]
    cases hf : s.read.2 with
    | some cause =>
      rw [h.length_eq (by simp [hf]), Nat.add_right_comm]
      rfl
    | none => cases w.flushFault <;> rfl
  · rw [if_neg hw, if_neg hw]
    rfl

end Respaced

/-- With the blank lines after the newlines go those of the first gap, in front. -/
theorem respaced_spaced_of_afterNewlines {gap : Nat → List Blanks} {b : Bytes} {f : Option Fault}
    (h : Respaced (fun n => putBefore (fun i => gap (i + 1)) (n - 1)) ⟨b, f⟩
      ⟨afterNewlines (fun i => gap (i + 1)) b, f⟩) :
    Respaced (putBefore gap) ⟨b, f⟩ ⟨spaced gap b, f⟩ := by
  have hfront := h.blankLines_append (gap 0)
  refine ⟨hfront.work_eq, hfront.fault_eq, fun hf => ?_⟩
  rw [Source.putBefore_succ]
  exact hfront.length_eq hf

theorem respaced_afterNewlines (gap : Nat → List Blanks) (b : Bytes) (f : Option Fault) :
    Respaced (fun n => putBefore gap (n - 1)) ⟨b, f⟩ ⟨afterNewlines gap b, f⟩ := by
  induction b using Lines.induction newline generalizing gap with
  | last l hl =>
    rw [Source.afterNewlines_of_not_mem hl]
    refine ⟨rfl, rfl, fun h => ?_⟩
    rw [Source.fst_read_eq_nil_of_not_mem hl h]
    rfl
  | line l b hl ih =>
    rw [Source.afterNewlines_append_cons hl]
    exact (respaced_spaced_of_afterNewlines (ih _)).append_cons rfl hl

/-- **Blank lines move the lines after them,** and do nothing else to what is read. -/
theorem respaced_spaced (gap : Nat → List Blanks) (b : Bytes) (f : Option Fault) :
    Respaced (putBefore gap) ⟨b, f⟩ ⟨spaced gap b, f⟩ :=
  respaced_spaced_of_afterNewlines (respaced_afterNewlines _ b f)

/-- **Blank lines do not count, except as lines.**  Put into the bytes of any source
at the start and after any newline, they leave a run as it was, into any writer:
the same replies, bytes, flushes and machine, and the same end, but for the number
of a line that cannot be read, which goes up by the blank lines before that line. -/
theorem run_spaced (m : Machine) (s : Source) (w : Writer) (gap : Nat → List Blanks) :
    run m { s with bytes := spaced gap s.bytes } w =
      { run m s w with
        outcome := (run m s w).outcome.mapError (Failure.moved (putBefore gap)) } := by
  have h : Respaced (putBefore gap) s { s with bytes := spaced gap s.bytes } :=
    respaced_spaced gap s.bytes s.fault
  rw [run_eq, run_eq, h.executed_eq, h.work_eq, h.ending_eq]

/-- Two blank lines before each of two lines: the second line has number six. -/
example :
    let gap : Nat → List Blanks := fun i => if i < 2 then [{}, { text := ['\u3000', '\r'] }] else []
    let b := Utf8.encode "print a\n".toList ++ [0xFF]
    (run {} { bytes := spaced gap b } {}).outcome = .error (.unreadableLine 6 .illFormed) := by
  decide +kernel

end Batch
end LineMachine
