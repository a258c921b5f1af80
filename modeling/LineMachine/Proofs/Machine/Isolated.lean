/-
# Turns on different parts

A turn reads and writes the bindings at one position and the feedback at
another, and which two these are changes from turn to turn.  What becomes of one
of the parts is told by the turns that name it, as if no other had been taken
(`Interleaving.after_eq`): a line takes nothing from the bindings, and nothing
from the feedback, that its reply or its definition depends on.

So two turns that name neither the same bindings nor the same feedback can be
taken in either order, and so can any number of them (`Interleaving.isolated`).
-/

import LineMachine.Interleaving
import LineMachine.Proofs.Machine.Memory
import LineMachine.Proofs.Order

namespace LineMachine
namespace Machine

/-- What lines do to the bindings depends on the bindings alone. -/
theorem bindings_after_eq_of_eq {m n : Machine} (h : m.bindings = n.bindings) (lines : List Text) :
    (m.after lines).bindings = (n.after lines).bindings := by
  rw [after_eq, after_eq, h]

/-- What they do to the feedback depends on the feedback alone. -/
theorem feedback_after_eq_of_eq {m n : Machine} (h : m.feedback = n.feedback)
    (lines : List Text) : (m.after lines).feedback = (n.after lines).feedback := by
  rw [after_eq, after_eq, h]

end Machine

/-- Replacing what is at a position by what `f` makes of it. -/
theorem set_getD_eq_mapIdx {α : Type} (l : List α) (i : Nat) (d : α) (f : α → α) :
    l.set i (f (l.getD i d)) = l.mapIdx fun j a => if j = i then f a else a := by
  refine List.ext_getElem? fun j => ?_
  rw [List.getElem?_mapIdx, List.getD_eq_getElem?_getD]
  by_cases hj : j = i
  · subst hj
    rw [List.getElem?_set_self']
    cases h : l[j]? <;> simp
  · rw [List.getElem?_set_ne (Ne.symm hj)]
    cases h : l[j]? <;> simp [hj]

namespace Interleaving

/-- All the bindings and feedbacks after turns are taken one after another. -/
def after (s : Interleaving) (turns : List Turn) : Interleaving :=
  turns.foldl (fun s t => (s.step t).2) s

/-- The replies to turns that are taken one after another. -/
def replies (s : Interleaving) : List Turn → List Reply
  | [] => []
  | t :: turns => (s.step t).1 :: replies (s.step t).2 turns

/-- The lines for the bindings at a position, in order. -/
def linesFor (i : Nat) (turns : List Turn) : List Text :=
  (turns.filter fun t => t.bindings = i).map Turn.line

/-- The lines whose reply the feedback at a position hears, in order. -/
def linesHeard (j : Nat) (turns : List Turn) : List Text :=
  (turns.filter fun t => t.feedback = j).map Turn.line

theorem linesFor_cons (i : Nat) (t : Turn) (turns : List Turn) :
    linesFor i (t :: turns) =
      if i = t.bindings then t.line :: linesFor i turns else linesFor i turns := by
  by_cases h : i = t.bindings
  · simp [linesFor, h]
  · simp [linesFor, h, Ne.symm h]

theorem linesHeard_cons (j : Nat) (t : Turn) (turns : List Turn) :
    linesHeard j (t :: turns) =
      if j = t.feedback then t.line :: linesHeard j turns else linesHeard j turns := by
  by_cases h : j = t.feedback
  · simp [linesHeard, h]
  · simp [linesHeard, h, Ne.symm h]

/-- The reply to a turn is that of its line. -/
theorem fst_step (s : Interleaving) (t : Turn) : (s.step t).1 = Reply.ofLine t.line :=
  Command.execute_fst ..

/-- **A turn changes the two parts that it names,** each by its line, and no other. -/
theorem snd_step (s : Interleaving) (t : Turn) :
    (s.step t).2 =
      { bindings := s.bindings.mapIdx fun i b =>
          if i = t.bindings then (({ bindings := b } : Machine).process t.line).2.bindings else b
        feedbacks := s.feedbacks.mapIdx fun j f =>
          if j = t.feedback then (({ feedback := f } : Machine).process t.line).2.feedback
          else f } := by
  have hf (f : Feedback) :
      (({ feedback := f } : Machine).process t.line).2.feedback = f.hear (s.step t).1 := by
    rw [Machine.snd_process, fst_step]
  simp only [hf]
  rw [← set_getD_eq_mapIdx s.bindings t.bindings ∅
      fun b => (({ bindings := b } : Machine).process t.line).2.bindings,
    ← set_getD_eq_mapIdx s.feedbacks t.feedback {} fun f => f.hear (s.step t).1]
  rfl

/-- **No turn changes the reply to another.** -/
theorem replies_eq_map (s : Interleaving) (turns : List Turn) :
    s.replies turns = turns.map fun t => Reply.ofLine t.line := by
  induction turns generalizing s with
  | nil => rfl
  | cons t turns ih => rw [replies, ih, fst_step, List.map_cons]

/-- **Each part goes its own way.**  Bindings come to what the lines for them, and
no others, make of them; so does a feedback. -/
theorem after_eq (s : Interleaving) (turns : List Turn) :
    s.after turns =
      { bindings := s.bindings.mapIdx fun i b =>
          (({ bindings := b } : Machine).after (linesFor i turns)).bindings
        feedbacks := s.feedbacks.mapIdx fun j f =>
          (({ feedback := f } : Machine).after (linesHeard j turns)).feedback } := by
  induction turns generalizing s with
  | nil =>
    have hb : s.bindings.mapIdx (fun _ b => b) = s.bindings := by simp [List.mapIdx_eq_zipIdx_map]
    have hf : s.feedbacks.mapIdx (fun _ f => f) = s.feedbacks := by
      simp [List.mapIdx_eq_zipIdx_map]
    exact congrArg₂ Interleaving.mk hb.symm hf.symm
  | cons t turns ih =>
    have hrest : s.after (t :: turns) = (s.step t).2.after turns := rfl
    rw [hrest, ih, snd_step]
    simp only [List.mapIdx_mapIdx]
    congr 1
    · congr 1
      funext i b
      rw [linesFor_cons]
      by_cases hi : i = t.bindings
      · rw [if_pos hi, Machine.after_cons]
        exact Machine.bindings_after_eq_of_eq (if_pos hi) _
      · rw [Function.comp_apply, if_neg hi, if_neg hi]
    · congr 1
      funext j f
      rw [linesHeard_cons]
      by_cases hj : j = t.feedback
      · rw [if_pos hj, Machine.after_cons]
        exact Machine.feedback_after_eq_of_eq (if_pos hj) _
      · rw [Function.comp_apply, if_neg hj, if_neg hj]

/-! ### Another order -/

/-- The turns name the same bindings, or the same feedback. -/
def Turn.Meets (t t' : Turn) : Prop := t.bindings = t'.bindings ∨ t.feedback = t'.feedback

instance (t t' : Turn) : Decidable (t.Meets t') := inferInstanceAs (Decidable (_ ∨ _))

/-- The other order leaves turns that meet in theirs. -/
def KeepsMeetings (turns : List Turn) (σ : Equiv.Perm (Fin turns.length)) : Prop :=
  ∀ i j, i < j → (turns.get (σ i)).Meets (turns.get (σ j)) → σ i < σ j

instance (turns : List Turn) (σ : Equiv.Perm (Fin turns.length)) :
    Decidable (KeepsMeetings turns σ) :=
  inferInstanceAs (Decidable (∀ _ _, _ → _ → _))

variable {turns : List Turn} {σ : Equiv.Perm (Fin turns.length)}

theorem linesFor_permuted (h : KeepsMeetings turns σ) (i : Nat) :
    linesFor i (permuted turns σ) = linesFor i turns := by
  refine congrArg (List.map Turn.line) (filter_permuted fun a b hab ha hb => h a b hab (.inl ?_))
  exact (of_decide_eq_true ha).trans (of_decide_eq_true hb).symm

theorem linesHeard_permuted (h : KeepsMeetings turns σ) (j : Nat) :
    linesHeard j (permuted turns σ) = linesHeard j turns := by
  refine congrArg (List.map Turn.line) (filter_permuted fun a b hab ha hb => h a b hab (.inr ?_))
  exact (of_decide_eq_true ha).trans (of_decide_eq_true hb).symm

/-- **Bindings and feedbacks are kept apart.**  After any turns the bindings at a
position are what the lines for them make of what was there, run one after
another on a machine of their own; the feedback at a position is the last answer
to a line that it heard, or what it was before if there is none; and each turn
has the reply that its line has where nothing is bound and nothing was heard.
Another order that leaves the turns for the same bindings, and those for the same
feedback, in theirs comes to the same, and gives each turn the same reply. -/
theorem isolated (s : Interleaving) (turns : List Turn) :
    (s.after turns).bindings = (s.bindings.mapIdx fun i b =>
      (({ bindings := b } : Machine).after (linesFor i turns)).bindings) ∧
    (s.after turns).feedbacks = (s.feedbacks.mapIdx fun j f =>
      ⟨(Machine.answers (linesHeard j turns)).getLast?.or f.last⟩) ∧
    s.replies turns = (turns.map fun t => (learn t.line ∅ {}).1) ∧
    ∀ σ, KeepsMeetings turns σ →
      s.after (permuted turns σ) = s.after turns ∧
      ∀ i, (s.replies (permuted turns σ))[i.val]? = (s.replies turns)[(σ i).val]? := by
  refine ⟨by rw [after_eq], ?_, replies_eq_map s turns, fun σ h => ⟨?_, fun i => ?_⟩⟩
  · rw [after_eq]
    simp only [Machine.after_eq]
  · simp only [after_eq, linesFor_permuted h, linesHeard_permuted h]
  · rw [replies_eq_map, replies_eq_map, List.getElem?_map, List.getElem?_map, getElem?_permuted]

/-- Three turns on two sets of bindings and two feedbacks: the first and the last
name the same bindings, the first and the second the same feedback, and the second
can change places with the last only. -/
theorem isolated_three :
    let turns : List Turn :=
      [⟨0, 0, "define x = 1".toList⟩, ⟨1, 0, "define x".toList⟩, ⟨0, 1, "define x = 2".toList⟩]
    let swap (i j : Fin 3) : Equiv.Perm (Fin turns.length) := Equiv.swap i j
    let s := (fresh 2 2).after turns
    KeepsMeetings turns (swap 1 2) ∧ ¬ KeepsMeetings turns (swap 0 1) ∧
      ¬ KeepsMeetings turns (swap 0 2) ∧
      (fresh 2 2).after (permuted turns (swap 1 2)) = s ∧
      s.bindings.map (·.get? "x".toList) = [some "2".toList, none] ∧
      s.feedbacks.map Feedback.last =
        [some "Defined x = 1".toList, some "Defined x = 2".toList] := by
  intro turns swap s
  have hkeep : KeepsMeetings turns (swap 1 2) := by decide +kernel
  obtain ⟨hb, hf, -, horder⟩ := isolated (fresh 2 2) turns
  refine ⟨hkeep, by decide +kernel, by decide +kernel, (horder _ hkeep).1, ?_, ?_⟩
  · rw [hb]
    decide +kernel
  · rw [hf]
    decide +kernel

end Interleaving
end LineMachine
