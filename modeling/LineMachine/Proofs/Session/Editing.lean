/-
# What editing does to a session

The keys before the enter that ends a line change that line and nothing else: not
the machine, not the history, and nothing is said
(`Keyboard.pressAll_of_edited?_eq_some`).  Input that is closed on a line that is
not empty is such a key as well, and does nothing.

One of the keys may end the session instead, an interrupt or input that is closed
on an empty line.  There is no line then, and what comes later is not heard
(`Keyboard.ended_pressAll_of_edited?_eq_none`, `Keyboard.pressAll_of_ended`).
-/

import LineMachine.Session.Keyboard

namespace LineMachine
namespace Keyboard

variable {s : State} {e : Editing} {k : Key} {keys : List Key}

/-- The key ends a session in which a line is being edited. -/
def Key.ends (e : Editing) : Key → Bool
  | .interrupt => true
  | .close => e.buffer = .empty
  | _ => false

/-- The line after keys other than enter, unless one of them ends the session. -/
def edited? (h : History) : Editing → List Key → Option Editing
  | e, [] => some e
  | e, k :: ks => if k.ends e then none else edited? h (e.press h k) ks

/-! ### Sessions that have ended -/

theorem press_of_ended (h : s.ended) (k : Key) : press s k = ([], s) := if_pos h

/-- **A session that has ended** says nothing more and stays as it is. -/
theorem pressAll_of_ended (h : s.ended) (keys : List Key) : pressAll s keys = ([], s) := by
  induction keys with
  | nil => rfl
  | cons k keys ih =>
    rw [pressAll, press_of_ended h]
    dsimp only
    rw [ih, List.nil_append]

theorem ended_press_of_ends (h : s.ended = false) (hk : k.ends s.editing) :
    (press s k).2.ended := by
  cases k with
  | interrupt => simp [press, h]
  | close =>
    have hbuffer : s.editing.buffer = .empty := of_decide_eq_true hk
    simp [press, h, hbuffer]
  | type line => cases hk
  | up => cases hk
  | down => cases hk
  | backspace => cases hk
  | enter => cases hk

/-! ### Sessions that go on -/

theorem press_of_not_ends (h : s.ended = false) (hne : k ≠ .enter) (hk : ¬ k.ends s.editing) :
    press s k = ([], { s with editing := s.editing.press s.history k }) := by
  cases k with
  | type line => simp [press, h]
  | up => simp [press, h]
  | down => simp [press, h]
  | backspace => simp [press, h]
  | enter => exact absurd rfl hne
  | interrupt => exact absurd rfl hk
  | close =>
    have hbuffer : s.editing.buffer ≠ .empty := fun he => hk (decide_eq_true he)
    have hsame : press s .close = ([], s) := by simp [press, h, hbuffer]
    exact hsame

/-- **Editing changes the line and nothing else.** -/
theorem pressAll_of_edited?_eq_some (h : s.ended = false) (hne : .enter ∉ keys)
    (he : edited? s.history s.editing keys = some e) :
    pressAll s keys = ([], { s with editing := e }) := by
  induction keys generalizing s with
  | nil =>
    obtain rfl := Option.some.inj he
    rfl
  | cons k keys ih =>
    obtain ⟨hk, hkeys⟩ := not_or.1 (mt List.mem_cons.2 hne)
    by_cases hends : k.ends s.editing
    · rw [edited?, if_pos hends] at he
      cases he
    · rw [edited?, if_neg hends] at he
      have hrest := ih (s := { s with editing := s.editing.press s.history k }) h hkeys he
      rw [pressAll, press_of_not_ends h (Ne.symm hk) hends]
      dsimp only
      rw [hrest]
      rfl

/-- **A key that ends the session** is the last one that counts. -/
theorem ended_pressAll_of_edited?_eq_none (h : s.ended = false) (hne : .enter ∉ keys)
    (he : edited? s.history s.editing keys = none) : (pressAll s keys).2.ended := by
  induction keys generalizing s with
  | nil => cases he
  | cons k keys ih =>
    obtain ⟨hk, hkeys⟩ := not_or.1 (mt List.mem_cons.2 hne)
    rw [pressAll]
    by_cases hends : k.ends s.editing
    · have hended := ended_press_of_ends h hends
      dsimp only
      rw [pressAll_of_ended hended]
      exact hended
    · rw [edited?, if_neg hends] at he
      rw [press_of_not_ends h (Ne.symm hk) hends]
      exact ih (s := { s with editing := s.editing.press s.history k }) h hkeys he

/-! ### The machine -/

/-- No key but enter reaches the machine. -/
theorem machine_press_of_ne (hk : k ≠ .enter) (s : State) :
    (press s k).2.machine = s.machine := by
  rw [press.eq_def]
  split
  · rfl
  · cases k with
    | enter => exact absurd rfl hk
    | close =>
      dsimp only
      split <;> rfl
    | type line => rfl
    | up => rfl
    | down => rfl
    | backspace => rfl
    | interrupt => rfl

theorem machine_pressAll_of_not_mem (hk : .enter ∉ keys) (s : State) :
    (pressAll s keys).2.machine = s.machine := by
  induction keys generalizing s with
  | nil => rfl
  | cons k keys ih =>
    rw [List.mem_cons, not_or] at hk
    rw [pressAll]
    dsimp only
    rw [ih hk.2, machine_press_of_ne (Ne.symm hk.1)]

end Keyboard
end LineMachine
