/-
# The last line called back

Up on a new line calls back the newest line of the history, and enter runs it
once more.  The newest line is always the last one that was run: a blank line is
neither run nor kept, and a line that is run is kept even if it has no answer
(`Keyboard.recalls_enterAll`).  Running it once more changes nothing in the
machine, and entering it once more nothing in the history, so a session in which
this is done is afterwards where it was before (`Keyboard.pressAll_recall`).  It
can be done at any point of a sitting at which the session goes on, and any number of
times, and nothing that comes later takes notice (`Keyboard.recalled_line_harmless`).
-/

import LineMachine.Proofs.Machine.Memory
import LineMachine.Proofs.Session.Sitting

namespace LineMachine

namespace Keyboard

/-- The newest line of the history is `line`, and a machine that runs it once more
stays as it is. -/
structure State.Recalls (s : State) (line : Line) : Prop where
  not_blank : ¬ line.text.blank
  newest : s.history.lineAt? 1 = some line
  settled : (s.machine.process line.text).2 = s.machine

/-- The edit that calls back the newest line. -/
def Edit.recall : Edit where
  keys := [.up]

/-- The lines that are run, all but the blank ones. -/
def ran (lines : List Line) : List Line := lines.filter fun line => !line.text.blank

/-- The last line that was entered and is not blank, with what was said to it. -/
def lastAnswered? (lines : List Line) (said : List Text) : Option (Line × Text) :=
  ((lines.zip said).filter fun p => !p.1.text.blank).getLast?

/-! ### What is called back -/

section

variable {s : State} {line l : Line}

/-- **A line that was just entered is called back,** if it is not blank. -/
theorem recalls_enter (s : State) (hl : ¬ line.text.blank) :
    (enter s line).2.Recalls line := by
  rw [enter, if_neg hl]
  exact ⟨hl, History.lineAt?_add s.history line, Machine.process_process s.machine line.text⟩

/-- A blank line does not take its place. -/
theorem State.Recalls.enter (hr : s.Recalls line) (hl : l.text.blank) :
    (enter s l).2.Recalls line := by
  rw [Keyboard.enter, if_pos hl]
  exact ⟨hr.not_blank, hr.newest, hr.settled⟩

theorem enterAll_concat (s : State) (lines : List Line) (l : Line) :
    enterAll s (lines ++ [l]) =
      ((enterAll s lines).1 ++ [(enter (enterAll s lines).2 l).1],
        (enter (enterAll s lines).2 l).2) := by
  induction lines generalizing s with
  | nil => rfl
  | cons l' lines ih =>
    rw [List.cons_append, enterAll]
    dsimp only
    rw [ih]
    rfl

theorem ran_cons_of_blank (h : line.text.blank) (lines : List Line) :
    ran (line :: lines) = ran lines :=
  List.filter_cons_of_neg (by simpa using h)

theorem ran_cons_of_not_blank (h : ¬ line.text.blank) (lines : List Line) :
    ran (line :: lines) = line :: ran lines :=
  List.filter_cons_of_pos (by simpa using h)

/-- **The line that is called back** is the last one that was entered and is not
blank. -/
theorem recalls_enterAll (s : State) {lines : List Line}
    (h : (ran lines).getLast? = some line) : (enterAll s lines).2.Recalls line := by
  -- from the end of the lines: what was called back before the last one does not count if it is run
  induction lines using List.reverseRecOn with
  | nil => cases h
  | append_singleton lines l ih =>
    have happend : ran (lines ++ [l]) = ran lines ++ ran [l] := List.filter_append ..
    rw [happend] at h
    rw [enterAll_concat]
    by_cases hl : l.text.blank
    · rw [ran_cons_of_blank hl] at h
      exact (ih (by rwa [← List.append_nil (ran lines)])).enter hl
    · rw [ran_cons_of_not_blank hl] at h
      obtain rfl : l = line := Option.some.inj (List.getLast?_concat.symm.trans h)
      exact recalls_enter _ hl

/-- What is said to the lines that are not blank. -/
theorem filter_zip_enterAll (s : State) (lines : List Line) :
    ((lines.zip (enterAll s lines).1).filter fun p => !p.1.text.blank) =
      (ran lines).map fun line => (line, (Reply.ofLine line.text).line) := by
  induction lines generalizing s with
  | nil => rfl
  | cons l lines ih =>
    rw [enterAll]
    dsimp only
    rw [List.zip_cons_cons]
    by_cases hl : l.text.blank
    · rw [List.filter_cons_of_neg (by simpa using hl), ih, ran_cons_of_blank hl]
    · rw [List.filter_cons_of_pos (by simpa using hl), ih, ran_cons_of_not_blank hl,
        List.map_cons, enter, if_neg hl]
      dsimp only
      rw [Machine.fst_process_eq]

theorem lastAnswered?_enterAll (s : State) {lines : List Line}
    (h : (ran lines).getLast? = some line) :
    lastAnswered? lines (enterAll s lines).1 = some (line, (Reply.ofLine line.text).line) := by
  rw [lastAnswered?, filter_zip_enterAll, List.getLast?_map, h, Option.map_some]

/-! ### Calling it back -/

theorem State.Ready.enterAll (hs : s.Ready) (lines : List Line) :
    (enterAll s lines).2.Ready := by
  induction lines generalizing s with
  | nil => exact hs
  | cons l lines ih => exact ih (hs.enter l)

variable (hs : s.Ready) (hr : s.Recalls line)
include hs hr

/-- Entering the newest line once more changes nothing. -/
theorem enter_newest : enter s line = ((Reply.ofLine line.text).line, s) := by
  rw [enter, if_neg hr.not_blank]
  dsimp only
  rw [hr.settled, History.add_eq_self hr.newest, ← hs.editing_eq, Machine.fst_process_eq]

/-- **Up and enter** is answered as the last line was, and changes nothing. -/
theorem pressAll_recall :
    pressAll s Edit.recall.entered = ((Reply.ofLine line.text).line, s) := by
  have hline : Edit.recall.line? s.history = some line := by
    simp [Edit.line?, Edit.recall, edited?, Key.ends, Editing.press, Editing.up, hr.newest]
  rw [pressAll_entered hs hline, enter_newest hs hr]

/-- So it is any number of times. -/
theorem run_recall (n : Nat) :
    run s (List.replicate n Edit.recall.entered) =
      (List.replicate n (Reply.ofLine line.text).line, s) := by
  induction n with
  | zero => rfl
  | succ n ih =>
    rw [List.replicate_succ, run, pressAll_recall hs hr]
    dsimp only
    rw [ih, List.replicate_succ]

end

/-! ### Edits after which the session goes on -/

section

variable {s : State} (hs : s.Ready) {es : List Edit}
include hs

/-- Each of them submits a line. -/
theorem length_submitted (h : (run s (es.map Edit.entered)).2.ended = false) :
    (submitted s es).length = es.length := by
  induction s, hs, es using State.Ready.induction with
  | nil => rfl
  | ended s hs e es hl => exact absurd (snd_run_cons_of_none hs hl _).1 (Bool.eq_false_iff.1 h)
  | line s hs e es line hl ih =>
    rw [List.map_cons, run_cons_of_some hs hl] at h
    rw [submitted_cons_of_some hs hl, List.length_cons, List.length_cons, ih h]

/-- **They come to their lines being entered.** -/
theorem run_entered (h : (submitted s es).length = es.length) :
    run s (es.map Edit.entered) = enterAll s (submitted s es) := by
  induction s, hs, es using State.Ready.induction with
  | nil => rfl
  | ended s hs e es hl =>
    rw [submitted_cons_of_none hs hl] at h
    cases h
  | line s hs e es line hl ih =>
    rw [submitted_cons_of_some hs hl, List.length_cons, List.length_cons] at h
    rw [List.map_cons, run_cons_of_some hs hl, submitted_cons_of_some hs hl, enterAll,
      ih (Nat.succ.inj h)]

end

/-! ### At any point of a sitting -/

/-- A point between two edits of a sitting, while the session goes on: the edits
before it, and the rest of the sitting. -/
structure Pause where
  before : List Edit
  rest : Sitting
  goes_on : (run { machine := {} } (before.map Edit.entered)).2.ended = false := by
    decide +kernel

/-- Every edit is answered once. -/
theorem length_run (s : State) (edits : List (List Key)) :
    (run s edits).1.length = edits.length := by
  induction edits generalizing s with
  | nil => rfl
  | cons edit edits ih => exact congrArg Nat.succ (ih (pressAll s edit).2)

namespace Pause

variable (p : Pause)

/-- The sitting as a whole. -/
def sitting : Sitting := { p.rest with entered := p.before ++ p.rest.entered }

/-- The sitting in which the newest line is called back and entered so many times
at the point. -/
def recalling (n : Nat) : Sitting :=
  { p.rest with entered := p.before ++ List.replicate n Edit.recall ++ p.rest.entered }

/-- The lines that are entered before the point. -/
def lines : List Line := submitted { machine := {} } p.before

/-- The edits before the point. -/
def earlier : List (List Key) := p.before.map Edit.entered

theorem edits_sitting : p.sitting.edits = p.earlier ++ p.rest.edits := by
  simp only [sitting, Sitting.edits, earlier, List.map_append, List.append_assoc]

theorem edits_recalling (n : Nat) :
    (p.recalling n).edits =
      p.earlier ++ List.replicate n Edit.recall.entered ++ p.rest.edits := by
  simp only [recalling, Sitting.edits, earlier, List.map_append, List.map_replicate,
    List.append_assoc]

/-! What happens up to the point is that the lines before it are entered. -/

theorem run_earlier (m : Machine) :
    run { machine := m } p.earlier = enterAll { machine := m } p.lines := by
  have hlength := length_submitted (State.ready_start {}) p.goes_on
  have hlines : submitted { machine := m } p.before = p.lines :=
    submitted_congr (State.ready_start m) (State.ready_start {}) rfl p.before
  rw [earlier, run_entered (State.ready_start m) (by rw [hlines]; exact hlength), hlines]

theorem ready (m : Machine) : (run { machine := m } p.earlier).2.Ready := by
  rw [p.run_earlier]
  exact (State.ready_start m).enterAll p.lines

theorem length_fst_run_earlier (s : State) : (run s p.earlier).1.length = p.before.length := by
  rw [length_run, earlier, List.length_map]

theorem run_sitting (s : State) :
    run s p.sitting.edits =
      ((run s p.earlier).1 ++ (run (run s p.earlier).2 p.rest.edits).1,
        (run (run s p.earlier).2 p.rest.edits).2) := by
  rw [p.edits_sitting, run_append]

section

variable {p} {line : Line} (h : (ran p.lines).getLast? = some line)
include h

theorem run_recall (n : Nat) (m : Machine) :
    run (run { machine := m } p.earlier).2 (List.replicate n [.up, .enter]) =
      (List.replicate n (Reply.ofLine line.text).line, (run { machine := m } p.earlier).2) := by
  have hrecalls : (run { machine := m } p.earlier).2.Recalls line := by
    rw [p.run_earlier]
    exact recalls_enterAll _ h
  exact Keyboard.run_recall (p.ready m) hrecalls n

/-- **The session goes on from the point** as if nothing had been called back. -/
theorem run_recalling (n : Nat) (m : Machine) :
    let s : State := { machine := m }
    run s (p.recalling n).edits =
      ((run s p.earlier).1 ++ List.replicate n (Reply.ofLine line.text).line ++
          (run (run s p.earlier).2 p.rest.edits).1,
        (run (run s p.earlier).2 p.rest.edits).2) := by
  intro s
  have hrecall : run (run s p.earlier).2 (List.replicate n Edit.recall.entered) =
      (List.replicate n (Reply.ofLine line.text).line, (run s p.earlier).2) :=
    run_recall h n m
  rw [p.edits_recalling, run_append, run_append]
  simp only [hrecall]

/-- What the program writes: so many answers more, if it holds a session. -/
theorem runAtKeyboard_recalling (n : Nat) (args : List Text) (w : Program.World) :
    let outputs := (Program.runAtKeyboard args w p.sitting.edits).1
    let exit := (Program.runAtKeyboard args w p.sitting.edits).2
    let k := p.before.length + 1
    Program.runAtKeyboard args w (p.recalling n).edits =
      (if outputs.length = 1 then outputs
        else outputs.take k ++ List.replicate n (Utf8.encode (Reply.ofLine line.text).line) ++
          outputs.drop k,
      exit) := by
  rcases runAtKeyboard_cases args w with ⟨output, code, hall⟩ | ⟨output, m, hall⟩
  · rw [hall, hall]
    rfl
  · rw [hall, hall, p.run_sitting, run_recalling h]
    set said := (run { machine := m } p.earlier).1
    set more := (run (run { machine := m } p.earlier).2 p.rest.edits).1
    have hlength : p.before.length = (said.map Utf8.encode).length := by
      rw [List.length_map, p.length_fst_run_earlier]
    have hmore : more.length = p.rest.edits.length := length_run ..
    -- the keys at the end are answered too, so the program says more than what it begins with
    have hmany : (said ++ more).length + 1 ≠ 1 := by
      rw [List.length_append, hmore, Sitting.edits, List.length_append, List.length_singleton]
      omega
    dsimp only
    rw [List.length_cons, List.length_map, if_neg hmany, List.take_succ_cons, List.drop_succ_cons,
      List.map_append, List.map_append, List.map_append, List.map_replicate, hlength,
      List.take_left, List.drop_left]
    simp only [List.cons_append, List.append_assoc]

end

end Pause

/-- **Calling back the last line does no harm.**  Take any point of a sitting at
which the session goes on and by which a line has been entered that is not blank.  Up
and enter, any number of times, is answered each time as the last such line was,
though blank lines may have been entered since, and leaves the session as it was: the
machine, the history, and all that is said to the edits that follow.  So the program,
if it holds a session, on a terminal that edits lines, writes just these answers more,
and its exit code is the same. -/
theorem recalled_line_harmless (p : Pause) (n : Nat)
    (h : ∃ line ∈ p.lines, ¬ line.text.blank) :
    ∃ (line : Line) (answer : Text),
      (∀ m : Machine,
        let s : State := { machine := m }
        let first := run s p.earlier
        let second := run first.2 p.rest.edits
        submitted s p.before = p.lines ∧
        lastAnswered? p.lines first.1 = some (line, answer) ∧
        run s p.sitting.edits = (first.1 ++ second.1, second.2) ∧
        run first.2 (List.replicate n [.up, .enter]) = (List.replicate n answer, first.2) ∧
        run s (p.recalling n).edits =
          (first.1 ++ List.replicate n answer ++ second.1, second.2)) ∧
      ∀ args w, ¬ Session.isPlain w.terminal →
        let outputs := (Program.runAtKeyboard args w p.sitting.edits).1
        let exit := (Program.runAtKeyboard args w p.sitting.edits).2
        let k := p.before.length + 1
        Program.runAtKeyboard args w (p.recalling n).edits =
          (if outputs.length = 1 then outputs
            else outputs.take k ++ List.replicate n (Utf8.encode answer) ++ outputs.drop k,
          exit) := by
  obtain ⟨l, hmem, hb⟩ := h
  have hne : ran p.lines ≠ [] :=
    List.ne_nil_of_mem (List.mem_filter.2 ⟨hmem, by simpa using hb⟩)
  obtain ⟨line, hline⟩ : ∃ line, (ran p.lines).getLast? = some line :=
    ⟨_, List.getLast?_eq_some_getLast hne⟩
  refine ⟨line, (Reply.ofLine line.text).line, fun m => ⟨?_, ?_, p.run_sitting _,
    Pause.run_recall hline n m, Pause.run_recalling hline n m⟩,
    fun args w _ => Pause.runAtKeyboard_recalling hline n args w⟩
  · exact submitted_congr (State.ready_start m) (State.ready_start {}) rfl p.before
  · rw [p.run_earlier]
    exact lastAnswered?_enterAll _ hline

/-- The line that is called back is malformed, and a blank line is entered after it.
The walks up that follow find it once in the history, as if it had been entered only
once.  Before it and after it the input is closed on a line that is not empty; the
program has said something before. -/
theorem recalled_line_harmless_three :
    let p : Pause := {
      before := [
        { keys := [.type { text := "pri".toList }, .close, .type { text := "nt a".toList }] },
        .typing { text := "define y".toList }, .typing { text := " ".toList }]
      rest := {
        entered := [
          { keys := [.up, .close, .type { text := "=1".toList }] }, { keys := [.up, .up, .up] }]
        last := { keys := [.up, .close, .interrupt] } } }
    let complaint := "error: malformed define, expected `name = value`: define y\n".toList
    let said := ["a\n".toList, complaint, []]
    let more := ["Defined y = 1\n".toList, "a\n".toList, interrupted]
    let args := ["--demo".toList]
    let w := Program.World.ofFiles (.ofList [] []) [] args
    (∃ line ∈ p.lines, ¬ line.text.blank) ∧
      (run { machine := {} } p.sitting.edits).1 = said ++ more ∧
      (run { machine := {} } (p.recalling 3).edits).1 =
        said ++ [complaint, complaint, complaint] ++ more ∧
      (Program.runAtKeyboard args w (p.recalling 3).edits).1 =
        (("Hello, World!\nDefined x = 10\n".toList ::
          (said ++ [complaint, complaint, complaint] ++ more)).map Utf8.encode) := by
  intro p complaint said more args w
  have hlines : ∃ line ∈ p.lines, ¬ line.text.blank :=
    ⟨{ text := "define y".toList }, by decide +kernel, by decide⟩
  have hfirst : (run { machine := {} } p.earlier).1 = said := by decide +kernel
  have hrest : (run (run { machine := {} } p.earlier).2 p.rest.edits).1 = more := by decide +kernel
  have hlast : lastAnswered? p.lines said = some ({ text := "define y".toList }, complaint) := by
    decide +kernel
  have hprogram : (Program.runAtKeyboard args w p.sitting.edits).1 =
      ("Hello, World!\nDefined x = 10\n".toList :: (said ++ more)).map Utf8.encode := by
    decide +kernel
  obtain ⟨line, answer, hsession, hwritten⟩ := recalled_line_harmless p 3 hlines
  obtain ⟨-, hanswered, hsitting, -, hrecalling⟩ := hsession {}
  rw [hfirst, hlast] at hanswered
  obtain ⟨-, rfl⟩ := Prod.mk.inj (Option.some.inj hanswered)
  refine ⟨hlines, ?_, ?_, ?_⟩
  · rw [hsitting, hfirst, hrest]
  · rw [hrecalling, hfirst, hrest]
    rfl
  · rw [hwritten args w (by decide), hprogram]
    rfl

end Keyboard
end LineMachine
