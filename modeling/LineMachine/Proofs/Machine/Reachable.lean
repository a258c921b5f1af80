/-
# Reachable bindings

A new machine that runs lines only ever binds what lines define, and lines with
different names do not get in each other's way, so the bindings that can be
reached are those with definable names and values only
(`Machine.exists_after_eq_iff`).
-/

import LineMachine.Proofs.Bindings.Lookup
import LineMachine.Proofs.Command.Definition
import LineMachine.Proofs.Machine.After

namespace LineMachine
namespace Bindings

open Command (Definable)

/-- Every name is bound to a value that a line can give it. -/
def AllDefinable (b : Bindings) : Prop :=
  ∀ name value, b.get? name = some value → Definable name value

theorem AllDefinable.set {b : Bindings} (h : b.AllDefinable) {name value : Text}
    (hd : Definable name value) : (b.set name value).AllDefinable := by
  intro n v hv
  rw [get?_set] at hv
  split at hv
  · rename_i hn
    rw [hn, ← Option.some.inj hv]
    exact hd
  · exact h n v hv

/-- Any command that a line stands for keeps what is bound definable. -/
theorem AllDefinable.execute {b : Bindings} (h : b.AllDefinable) (line : Text) :
    ((Command.ofLine line).execute b).2.AllDefinable := by
  cases hc : Command.ofLine line with
  | define name value => exact h.set (Command.definable_of_ofLine hc)
  | print payload => exact h
  | malformed t => exact h
  | unknown t => exact h

end Bindings

namespace Machine

open Command (Definable)

theorem allDefinable_after {m : Machine} (h : m.bindings.AllDefinable) (lines : List Text) :
    (m.after lines).bindings.AllDefinable := by
  induction lines generalizing m with
  | nil => exact h
  | cons line lines ih =>
    rw [after_cons]
    refine ih ?_
    rw [snd_process]
    exact h.execute line

/-- **Definable pairs with different names** can be bound by lines, one for each,
whatever else is bound. -/
theorem exists_get?_after {ps : List (Text × Text)} (hps : ps.Pairwise (fun p q => p.1 < q.1))
    (h : ∀ p ∈ ps, Definable p.1 p.2) :
    ∃ lines, ∀ (m : Machine) n,
      (m.after lines).bindings.get? n = (Bindings.find? n ps).or (m.bindings.get? n) := by
  induction ps with
  | nil => exact ⟨[], fun m n => rfl⟩
  | cons p ps ih =>
    obtain ⟨name, value⟩ := p
    obtain ⟨hlt, hps⟩ := List.pairwise_cons.1 hps
    obtain ⟨lines, hlines⟩ := ih hps fun q hq => h q (List.mem_cons_of_mem _ hq)
    obtain ⟨line, hline⟩ := Command.exists_ofLine_of_definable (h _ List.mem_cons_self)
    refine ⟨line :: lines, fun m n => ?_⟩
    rw [after_cons, hlines, snd_process, hline]
    simp only [Command.execute, Bindings.get?_set, Bindings.find?]
    by_cases hn : n = name
    · subst hn
      rw [Bindings.find?_eq_none_of_lt hlt, if_pos rfl, if_pos rfl]
      rfl
    · rw [if_neg hn, if_neg hn]

/-- **The bindings that lines can lead to.**  A set of bindings is that of a new
machine after some lines exactly when every name and value in it is trimmed, no
name has an `=`, and a `print` in `name=value` is the only one, with no `define`
that begins before it. -/
theorem exists_after_eq_iff (corpus : Corpus) (b : Bindings) :
    (∃ lines, (({ corpus } : Machine).after lines).bindings = b) ↔
      ∀ name value, b.get? name = some value → Definable name value := by
  constructor
  · rintro ⟨lines, rfl⟩
    exact allDefinable_after (fun n v h => by simp at h) lines
  · intro h
    obtain ⟨lines, hlines⟩ := exists_get?_after b.ordered fun p hp =>
      h p.1 p.2 (Bindings.get?_eq_some_iff.2 hp)
    refine ⟨lines, Bindings.ext fun n => ?_⟩
    rw [hlines, Bindings.get?_empty, Option.or_none]
    rfl

end Machine
end LineMachine
