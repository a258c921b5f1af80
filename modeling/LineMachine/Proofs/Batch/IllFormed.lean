/-
# Runs over ill-formed bytes

Lines are checked one at a time while they are run, and a corpus is checked as a
whole, but both accept the same bytes.  A run over other bytes stops at the line
with the first ill-formed position in it, and has come as far as a run over the
lines before that one alone.
-/

import LineMachine.FileSystem
import LineMachine.Corpus
import LineMachine.Proofs.Batch.Executed
import LineMachine.Proofs.Source.Reading

namespace LineMachine

/-- **A file is a corpus exactly when its bytes are well-formed.** -/
theorem Corpus.exists_load_openPath_iff {fs : FileSystem} {input : Source} {path : Text}
    {b : Bytes} (h : fs.resolve path = .ok (.file b)) :
    (∃ c, Corpus.load path (fs.openPath input path) = .ok c) ↔ Utf8.WellFormed b := by
  have ho : fs.openPath input path = .ok { bytes := b } := by
    rw [FileSystem.openPath, h]
    rfl
  simp only [ho, Corpus.load_eq_ok_iff]
  exact ⟨fun ⟨c, hc⟩ => ⟨c.text, hc⟩, fun ⟨t, ht⟩ => ⟨⟨t⟩, ht⟩⟩

namespace Batch

open Source (newline)
open Utf8 (WellFormed validLength)

/-- **A run that ends at an ill-formed line** has come as far as a run over the
lines before it. -/
theorem run_of_not_wellFormed {b : Bytes} (m : Machine) (hb : ¬ WellFormed b) :
    let before := (b.take (validLength b)).count newline
    let r := run m { bytes := b } {}
    let start := run m { bytes := Lines.upTo newline before b } {}
    r.outcome = .error (.unreadableLine (before + 1) .illFormed) ∧ r.flushes = 0 ∧
      (∃ tally, start.outcome = .ok tally) ∧ r.written = start.written ∧
      r.machine = start.machine := by
  intro before r start
  obtain ⟨hf, hlen⟩ := Source.length_read_of_not_wellFormed hb
  have hc : before ≤ b.count newline := (List.take_sublist _ _).count_le _
  have hstart := Source.read_upTo (f := none) (Nat.le_of_eq hlen.symm) hc
  rw [List.take_of_length_le (Nat.le_of_eq hlen)] at hstart
  have hr : r = _ := run_of_read_eq_some hf m
  have hs : start = _ := run_of_read_eq_none (by rw [hstart]) m
  rw [hr, hs, hstart, hlen]
  exact ⟨rfl, rfl, ⟨_, rfl⟩, rfl, rfl⟩

/-- **Ill-formed bytes under a run.**  A run into a writer that never fails
succeeds exactly when the bytes as a whole are well-formed, which is when a file
that holds them is a corpus.  Else it names the line of the first ill-formed
position, counted in newlines before it, and leaves what a run over all lines
before that one leaves; that run succeeds. -/
theorem run_illFormed_bytes (m : Machine) (b : Bytes) :
    let r := run m { bytes := b } {}
    let before := (b.take (validLength b)).count newline
    let start := run m { bytes := Lines.upTo newline before b } {}
    ((∃ tally, r.outcome = .ok tally) ↔ WellFormed b) ∧
    (∀ (fs : FileSystem) (input : Source) (path : Text), fs.resolve path = .ok (.file b) →
      ((∃ tally, r.outcome = .ok tally) ↔
        ∃ c, Corpus.load path (fs.openPath input path) = .ok c)) ∧
    (¬ WellFormed b →
      (∃ e, r.outcome = .error e ∧ e = .unreadableLine (before + 1) .illFormed ∧
        e.chain.head? = some ("failed to read input line ".toList ++ Text.ofNat (before + 1))) ∧
      r.flushes = 0 ∧ (∃ tally, start.outcome = .ok tally) ∧
      r.written = start.written ∧ r.machine = start.machine) := by
  intro r before start
  have hok : (∃ tally, r.outcome = .ok tally) ↔ WellFormed b :=
    outcome_run_eq_ok_iff.trans Source.snd_read_eq_none_iff
  refine ⟨hok, fun fs input path h => ?_, fun hb => ?_⟩
  · rw [hok, Corpus.exists_load_openPath_iff h]
  · obtain ⟨ho, hrest⟩ := run_of_not_wellFormed m hb
    exact ⟨⟨_, ho, rfl, rfl⟩, hrest⟩

end Batch
end LineMachine
