/-
# Lines counted by a corpus and by a run

A corpus cuts its text at the newlines, all at once.  A run is given bytes, cuts
them, takes a carriage return from each line, decodes the lines one at a time and
skips the blank ones.  Over the same text both have the same number of lines
(`Corpus.lineCount_eq_length_read`), and the lines that a run skips are what its
tally lacks of them (`Batch.run_counted`).
-/

import LineMachine.Proofs.Batch.Executed
import Mathlib.Data.List.Basic

namespace LineMachine
namespace Corpus

/-- **A corpus has as many lines as are read from its bytes.** -/
theorem lineCount_eq_length_read (c : Corpus) :
    c.lineCount = (Source.ofText c.text).read.1.length := by
  rw [Source.read_ofText, Text.length_lines, lineCount]

/-- A newline is a line, and so is text after the last one. -/
theorem lineCount_eq_count (c : Corpus) :
    c.lineCount = c.text.count '\n' +
      if c.text ≠ [] ∧ c.text.getLast? ≠ some '\n' then 1 else 0 := by
  rw [lineCount, Lines.length_all]
  by_cases hwhole : Lines.Whole '\n' c.text
  · rw [if_pos hwhole, if_neg fun h => hwhole.elim h.1 h.2]
  · rw [if_neg hwhole, if_pos (not_or.1 hwhole)]

/-- Only the empty text has no line. -/
theorem isEmpty_iff_lineCount_eq_zero (c : Corpus) : c.isEmpty ↔ c.lineCount = 0 := by
  rw [isEmpty, List.isEmpty_iff, lineCount, List.length_eq_zero_iff, Lines.all_eq_nil_iff]

/-- **Lines add up** behind whole lines. -/
theorem lineCount_append_of_whole {a : Text} (ha : Lines.Whole '\n' a) (b : Text) :
    lineCount ⟨a ++ b⟩ = lineCount ⟨a⟩ + lineCount ⟨b⟩ := by
  rw [lineCount, Lines.all_append_of_whole ha, List.length_append]
  rfl

end Corpus

namespace Batch

/-- The lines that are read and not run: the blank ones. -/
def skipped (lines : List Text) : List Text := lines.filter Text.blank

/-- Every line is run or skipped. -/
theorem length_work_add_length_skipped (lines : List Text) :
    (work lines).length + (skipped lines).length = lines.length := by
  have hparts : lines.length = (skipped lines).length + (work lines).length :=
    List.length_eq_length_filter_add Text.blank
  rw [hparts, Nat.add_comm]

/-- **A corpus and a run count lines alike.**  A run over the bytes of a text succeeds,
and the lines in its tally and those it skips are together as many as a corpus of
that text has.  These are the newlines of the text, and one more if something is
behind the last of them, so only an empty corpus has no line; and whole lines in
front of a text add theirs to its own. -/
theorem run_counted (m : Machine) (t : Text) :
    let c : Corpus := ⟨t⟩
    let s := Source.ofText t
    (∃ tally, (run m s {}).outcome = .ok tally ∧
      tally.processed + (skipped s.read.1).length = c.lineCount) ∧
    (c.lineCount = t.count '\n' + if t ≠ [] ∧ t.getLast? ≠ some '\n' then 1 else 0) ∧
    (c.isEmpty ↔ c.lineCount = 0) ∧
    ∀ a b : Text, Lines.Whole '\n' a →
      Corpus.lineCount ⟨a ++ b⟩ = Corpus.lineCount ⟨a⟩ + Corpus.lineCount ⟨b⟩ := by
  intro c s
  refine ⟨?_, c.lineCount_eq_count, c.isEmpty_iff_lineCount_eq_zero,
    fun a b ha => Corpus.lineCount_append_of_whole ha b⟩
  have hread : s.read.2 = none := congrArg Prod.snd (Source.read_ofText t)
  refine ⟨_, outcome_run_eq_ok.2 ⟨hread, rfl⟩, ?_⟩
  calc (Tally.ofReplies ((work s.read.1).map Reply.ofLine)).processed + (skipped s.read.1).length
      = (work s.read.1).length + (skipped s.read.1).length := by
        rw [Tally.ofReplies, List.length_map]
    _ = s.read.1.length := length_work_add_length_skipped s.read.1
    _ = c.lineCount := c.lineCount_eq_length_read.symm

/-- Two lines are run and two skipped: of two carriage returns the reader takes one,
and the other one is blank. -/
theorem run_counted_four :
    let a := "define x = 1\n\u3000\r\n".toList
    let b := "\r\r\nprint a\r".toList
    let s := Source.ofText (a ++ b)
    Lines.Whole '\n' a ∧ (run {} s {}).outcome = .ok ⟨2, 0⟩ ∧ (skipped s.read.1).length = 2 ∧
      Corpus.lineCount ⟨a⟩ + Corpus.lineCount ⟨b⟩ = 4 := by
  intro a b s
  have ha : Lines.Whole '\n' a := by decide +kernel
  have hrun : (run {} s {}).outcome = .ok ⟨2, 0⟩ := by decide +kernel
  obtain ⟨⟨tally, hok, hsum⟩, hcount, -, hadd⟩ := run_counted {} (a ++ b)
  obtain rfl : tally = ⟨2, 0⟩ := Except.ok.inj (hok.symm.trans hrun)
  have hfour : Corpus.lineCount ⟨a ++ b⟩ = 4 := hcount.trans (by decide +kernel)
  have hskipped : 2 + (skipped s.read.1).length = 4 := hsum.trans hfour
  exact ⟨ha, hrun, by omega, (hadd a b ha).symm.trans hfour⟩

end Batch
end LineMachine
