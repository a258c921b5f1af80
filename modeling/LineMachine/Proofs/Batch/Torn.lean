/-
# Sources that fail in the middle of a line

A source that fails leaves its last line torn, and a torn line may look like a
line: `define x = 1` is a part of `define x = 10`.  None is run
(`Batch.run_torn`).  A run over such a source comes as far as one over its bytes up
to the last newline, and then fails: at the line that cannot be read, if there is
one before the failure, and else at the torn line, whatever has come of it.
-/

import LineMachine.Proofs.Batch.Joined

namespace LineMachine
namespace Batch

open Source (newline)

/-- The only fault of a source that does not fail is that of its bytes. -/
theorem outcome_run_eq_illFormed {m : Machine} {b : Bytes} {e : Failure}
    (h : (run m { bytes := b } {}).outcome = .error e) :
    ∃ n, e = .unreadableLine n .illFormed := by
  obtain ⟨cause, hfault, rfl⟩ := outcome_run_eq_error.1 h
  have hb : ¬ Utf8.WellFormed b := fun hb => by
    rw [Source.snd_read_eq_none_iff.2 hb] at hfault
    cases hfault
  rw [(Source.length_read_of_not_wellFormed hb).1, Option.some.injEq] at hfault
  exact ⟨_, by rw [hfault]⟩

/-- **A torn line is never run.**  Over a source that fails after its bytes, a run
does not succeed and does not flush.  It writes and leaves what a run over the
bytes up to the last newline does.  Where that run succeeds, this one fails at the
line after all the newlines, with the fault of the source; where that one meets
ill-formed bytes, this one fails as it does. -/
theorem run_torn (m : Machine) (b : Bytes) (f : Fault) :
    let whole := Lines.upTo newline (b.count newline) b
    let torn := run m ⟨b, some f⟩ {}
    let start := run m { bytes := whole } {}
    (Lines.Whole newline whole ∧ ∃ tail, b = whole ++ tail ∧ newline ∉ tail) ∧
    (∀ tally, torn.outcome ≠ .ok tally) ∧ torn.flushes = 0 ∧
    torn.written = start.written ∧ torn.machine = start.machine ∧
    (∀ tally, start.outcome = .ok tally →
      ∃ e, torn.outcome = .error e ∧ e = .unreadableLine (b.count newline + 1) f ∧
        e.chain = ["failed to read input line ".toList ++ Text.ofNat (b.count newline + 1),
          f.message]) ∧
    ∀ e, start.outcome = .error e →
      torn.outcome = .error e ∧ ∃ n, e = .unreadableLine n .illFormed := by
  intro whole torn start
  obtain ⟨hwhole, tail, hb, htail⟩ := Lines.whole_upTo_count newline b
  have hread : (⟨b, some f⟩ : Source).read =
      ((Source.read { bytes := whole }).1, some ((Source.read { bytes := whole }).2.getD f)) := by
    have ht := Source.read_torn hwhole htail f
    rwa [← hb] at ht
  have hrun : torn = _ := run_of_read_eq_some (by rw [hread]) m
  rw [hread] at hrun
  have hcount : b.count newline = whole.count newline := by
    have h := congrArg (List.count newline) hb
    rwa [List.count_append, List.count_eq_zero.2 htail, Nat.add_zero] at h
  rw [hrun]
  refine ⟨⟨hwhole, tail, hb, htail⟩, fun tally => nofun, rfl,
    (written_run_unlimited m _ none).symm, (machine_run_unlimited m _).symm, fun tally h => ?_,
    fun e h => ⟨?_, outcome_run_eq_illFormed h⟩⟩
  · obtain ⟨hnone, -⟩ := outcome_run_eq_ok.1 h
    rw [hnone, Source.length_read_of_whole hwhole hnone, ← hcount]
    exact ⟨_, rfl, rfl, rfl⟩
  · obtain ⟨cause, hfault, rfl⟩ := outcome_run_eq_error.1 h
    rw [hfault]
    rfl

/-- The second line was to be `define x = 10`, and the first one stands. -/
example :
    let r := run {} ⟨Utf8.encode "define x = 0\ndefine x = 1".toList, some .isDirectory⟩ {}
    r.machine.bindings.get? "x".toList = some "0".toList ∧
      r.outcome = .error (.unreadableLine 2 .isDirectory) := by
  decide +kernel

end Batch
end LineMachine
