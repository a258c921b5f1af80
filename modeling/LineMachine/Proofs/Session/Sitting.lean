/-
# Lines edited at a keyboard

Typing, erasing and walking the history are ways to come to a line; once it is
entered, only the line counts.  The history is part of this circle: lines enter
it, and are called back from it, changed, and entered again.  The circle does no
harm, since nothing is left in the end of how a line was edited
(`Keyboard.State.Ready`): an edit can be replaced by one that types the line it
came to (`Keyboard.pressAll_entered`), and all that follows is as before.  An edit
that comes to no line ends the session, and nothing follows.

So a sitting says what a batch over its lines says
(`Keyboard.sitting_retyped`).
-/

import LineMachine.Program
import LineMachine.Proofs.Batch.Executed
import LineMachine.Proofs.Session.Editing
import LineMachine.Proofs.Session.Talk
import LineMachine.Proofs.Source.OfText

namespace LineMachine

/-- Lines that are joined by newlines are run as they are: a last line that is
empty is not read, but is not run either. -/
theorem Batch.work_lines_joinWith {ls : List Text} (h : ∀ l ∈ ls, '\n' ∉ l ∧ '\r' ∉ l) :
    work (Text.lines (Text.joinWith ['\n'] ls)) = work ls := by
  induction ls using Text.joinWith.induct with
  | case1 => rfl
  | case2 l =>
    obtain ⟨hn, -⟩ := h l List.mem_cons_self
    rw [Text.joinWith_singleton, Text.lines_of_not_mem hn]
    split
    · rename_i hl
      rw [hl]
      rfl
    · rfl
  | case3 l ls hls ih =>
    obtain ⟨hn, hr⟩ := h l List.mem_cons_self
    obtain ⟨l', ls, rfl⟩ := List.exists_cons_of_ne_nil hls
    have hdrop : l.dropReturn = l :=
      if_neg fun hlast => hr (List.mem_of_getLast? hlast)
    have hrest := ih fun l hl => h l (List.mem_cons_of_mem _ hl)
    rw [Text.joinWith_cons_cons, List.append_assoc, List.singleton_append,
      Text.lines_append_cons hn, hdrop]
    by_cases hb : l.blank
    · rw [work_cons_of_blank hb, work_cons_of_blank hb, hrest]
    · rw [work_cons_of_not_blank hb, work_cons_of_not_blank hb, hrest]

namespace Keyboard

/-- The keys of one edit, all those before the enter that ends the line.  Input that
is closed on a line that is not empty may be among them: it does not end the line.
After a key that ends the session the others are not heard, nor is the enter. -/
structure Edit where
  keys : List Key
  enter_not_mem : .enter ∉ keys := by decide

namespace Edit

/-- The edit with the enter that ends it. -/
def entered (e : Edit) : List Key := e.keys ++ [.enter]

/-- The edit that just types a line. -/
def typing (line : Line) : Edit where
  keys := [.type line]
  enter_not_mem := by simp

/-- The line that an edit comes to, unless it ends the session. -/
def line? (h : History) (e : Edit) : Option Line := (edited? h {} e.keys).map Editing.buffer

/-- **A line that is typed is what the edit comes to.** -/
theorem line?_typing (h : History) (line : Line) : (typing line).line? h = some line := rfl

end Edit

/-- A sitting at the keyboard: edits that end with enter, and the keys after the
last of them. -/
structure Sitting where
  entered : List Edit
  last : Edit

/-- The edits of a sitting with the keys that end them. -/
def Sitting.edits (t : Sitting) : List (List Key) := t.entered.map Edit.entered ++ [t.last.keys]

/-- Any keys are those of a sitting: its edits end where enter is pressed. -/
def Sitting.ofKeys (keys : List Key) : Sitting where
  entered := (Lines.cut .enter keys).1.pmap (fun keys h => ⟨keys, h⟩) Lines.not_mem_of_mem_cut.1
  last := ⟨(Lines.cut .enter keys).2, Lines.not_mem_of_mem_cut.2⟩

/-- **No key is lost** when keys are taken as a sitting. -/
theorem Sitting.flatten_edits_ofKeys (keys : List Key) : (ofKeys keys).edits.flatten = keys := by
  have hentered : (ofKeys keys).entered.map Edit.entered =
      (Lines.cut .enter keys).1.map (· ++ [.enter]) := by
    simp only [ofKeys, List.map_pmap, Edit.entered, List.pmap_eq_map]
  rw [edits, hentered, List.flatten_append, List.flatten_singleton, ← List.flatMap_def]
  exact Lines.join_cut .enter keys

/-- The lines that are in the buffer when enter is pressed, as long as the session
goes on. -/
def submitted (s : State) : List Edit → List Line
  | [] => []
  | e :: es =>
    let edited := (pressAll s e.keys).2
    if edited.ended then [] else edited.editing.buffer :: submitted (press edited .enter).2 es

/-- The lines that are submitted in a sitting. -/
def Sitting.lines (t : Sitting) : List Line := submitted { machine := {} } t.entered

/-- The sitting with each line that is submitted just typed. -/
def Sitting.retyped (t : Sitting) : Sitting :=
  { t with entered := t.lines.map Edit.typing ++ t.entered.drop t.lines.length }

/-! ### One edit -/

/-- A session that waits for a new line. -/
structure State.Ready (s : State) : Prop where
  ended_eq : s.ended = false
  editing_eq : s.editing = {}

/-- Every session begins like this. -/
theorem State.ready_start (m : Machine) : State.Ready { machine := m } := ⟨rfl, rfl⟩

/-- Entering a line leaves nothing of how it was edited. -/
theorem enter_editing (s : State) (x : Editing) (line : Line) :
    enter { s with editing := x } line = enter s line := by
  rw [enter, enter]

theorem history_enter (s : State) (line : Line) :
    (enter s line).2.history = if line.text.blank then s.history else s.history.add line := by
  rw [enter]
  split <;> rfl

section

variable {s : State} (hs : s.Ready)
include hs

theorem State.Ready.enter (line : Line) : (enter s line).2.Ready where
  ended_eq := by
    rw [Keyboard.enter]
    split <;> exact hs.ended_eq
  editing_eq := by
    rw [Keyboard.enter]
    split <;> rfl

variable {e : Edit} {line : Line}

/-! An edit that comes to a line: enter finds it in the buffer. -/

theorem pressAll_keys (hl : e.line? s.history = some line) :
    ∃ x : Editing, x.buffer = line ∧ pressAll s e.keys = ([], { s with editing := x }) := by
  obtain ⟨x, hx, hbuffer⟩ := Option.map_eq_some_iff.1 hl
  rw [← hs.editing_eq] at hx
  exact ⟨x, hbuffer, pressAll_of_edited?_eq_some hs.ended_eq e.enter_not_mem hx⟩

theorem press_enter_pressAll_keys (hl : e.line? s.history = some line) :
    press (pressAll s e.keys).2 .enter = enter s line := by
  obtain ⟨x, rfl, hx⟩ := pressAll_keys hs hl
  have hpress : press { s with editing := x } .enter =
      enter { s with editing := x } x.buffer := by
    simp [press, hs.ended_eq]
  rw [hx, hpress, enter_editing]

/-- **An edit that ends with enter** comes to its line being entered. -/
theorem pressAll_entered (hl : e.line? s.history = some line) :
    pressAll s e.entered = enter s line := by
  have hsaid : (pressAll s e.keys).1 = [] := by
    obtain ⟨x, -, hx⟩ := pressAll_keys hs hl
    rw [hx]
  have hone : pressAll (pressAll s e.keys).2 [.enter] = enter s line := by
    simp only [pressAll, press_enter_pressAll_keys hs hl, List.append_nil]
  rw [Edit.entered, pressAll_append, hone, hsaid, List.nil_append]

theorem submitted_cons_of_some (hl : e.line? s.history = some line) (es : List Edit) :
    submitted s (e :: es) = line :: submitted (enter s line).2 es := by
  obtain ⟨x, hbuffer, hx⟩ := pressAll_keys hs hl
  have hended : ¬ (pressAll s e.keys).2.ended := by
    rw [hx]
    exact Bool.eq_false_iff.1 hs.ended_eq
  rw [submitted, if_neg hended, press_enter_pressAll_keys hs hl, hx, hbuffer]

/-! An edit that comes to none ends the session. -/

theorem ended_pressAll_keys (hl : e.line? s.history = none) : (pressAll s e.keys).2.ended := by
  have hnone := Option.map_eq_none_iff.1 hl
  rw [← hs.editing_eq] at hnone
  exact ended_pressAll_of_edited?_eq_none hs.ended_eq e.enter_not_mem hnone

theorem submitted_cons_of_none (hl : e.line? s.history = none) (es : List Edit) :
    submitted s (e :: es) = [] := by
  rw [submitted, if_pos (ended_pressAll_keys hs hl)]

end

/-! ### Many edits -/

/-- Enters lines one after another: what is said to each, and the session afterwards. -/
def enterAll (s : State) : List Line → List Text × State
  | [] => ([], s)
  | line :: lines =>
    let (said, s') := enter s line
    let (more, s'') := enterAll s' lines
    (said :: more, s'')

theorem run_append (s : State) (as bs : List (List Key)) :
    run s (as ++ bs) =
      ((run s as).1 ++ (run (run s as).2 bs).1, (run (run s as).2 bs).2) := by
  induction as generalizing s with
  | nil => rfl
  | cons a as ih =>
    rw [List.cons_append, run]
    dsimp only
    rw [ih]
    rfl

/-- Where keys are cut into edits makes no difference to what is said in all. -/
theorem pressAll_flatten (s : State) (edits : List (List Key)) :
    pressAll s edits.flatten = ((run s edits).1.flatten, (run s edits).2) := by
  induction edits generalizing s with
  | nil => rfl
  | cons edit edits ih =>
    rw [List.flatten_cons, pressAll_append, ih]
    rfl

theorem run_of_ended {s : State} (h : s.ended) (edits : List (List Key)) :
    (run s edits).2 = s := by
  induction edits with
  | nil => rfl
  | cons edit edits ih =>
    rw [run, pressAll_of_ended h]
    exact ih

/-- Edits one after another, as long as the session goes on: each comes to a line that
is entered, or is the last one that is heard. -/
@[elab_as_elim]
theorem State.Ready.induction {motive : (s : State) → s.Ready → List Edit → Prop}
    (nil : ∀ s hs, motive s hs [])
    (ended : ∀ s hs e es, e.line? s.history = none → motive s hs (e :: es))
    (line : ∀ s hs e es line, e.line? s.history = some line →
      motive (Keyboard.enter s line).2 (hs.enter line) es → motive s hs (e :: es))
    (s : State) (hs : s.Ready) (es : List Edit) : motive s hs es := by
  induction es generalizing s with
  | nil => exact nil s hs
  | cons e es ih =>
    cases hl : e.line? s.history with
    | none => exact ended s hs e es hl
    | some l => exact line s hs e es l hl (ih _ (hs.enter l))

section

variable {s : State} (hs : s.Ready)
include hs

section

variable {e : Edit}

/-- **An edit that comes to a line:** the line is entered, and the others follow. -/
theorem run_cons_of_some {line : Line} (hl : e.line? s.history = some line)
    (edits : List (List Key)) :
    run s (e.entered :: edits) =
      ((enter s line).1 :: (run (enter s line).2 edits).1, (run (enter s line).2 edits).2) := by
  rw [run, pressAll_entered hs hl]

/-- **An edit that ends the session:** no key after it counts, nor reaches the machine. -/
theorem snd_run_cons_of_none (hl : e.line? s.history = none) (edits : List (List Key)) :
    (run s (e.entered :: edits)).2.ended ∧
      (run s (e.entered :: edits)).2.machine = s.machine := by
  have hended := ended_pressAll_keys hs hl
  have hkeys : (pressAll s e.entered).2 = (pressAll s e.keys).2 := by
    rw [Edit.entered, pressAll_append, pressAll_of_ended hended]
  have hrun : (run s (e.entered :: edits)).2 = (pressAll s e.keys).2 := by
    rw [run]
    dsimp only
    rw [hkeys, run_of_ended hended]
  rw [hrun]
  exact ⟨hended, machine_pressAll_of_not_mem e.enter_not_mem s⟩

end

/-- Which lines are submitted does not depend on the machine. -/
theorem submitted_congr {s' : State} (hs' : s'.Ready) (h : s.history = s'.history)
    (es : List Edit) : submitted s es = submitted s' es := by
  induction s, hs, es using State.Ready.induction generalizing s' with
  | nil => rfl
  | ended s hs e es hl =>
    rw [submitted_cons_of_none hs hl, submitted_cons_of_none hs' (h ▸ hl)]
  | line s hs e es line hl ih =>
    have hrest : (enter s line).2.history = (enter s' line).2.history := by
      rw [history_enter, history_enter, h]
    rw [submitted_cons_of_some hs hl, submitted_cons_of_some hs' (h ▸ hl),
      ih (hs'.enter line) hrest]

/-- **The edits that are heard** come to their lines being entered.  After them no
key reaches the machine. -/
theorem exists_run_edits (es : List Edit) (last : Edit) :
    ∃ more s', run s (es.map Edit.entered ++ [last.keys]) =
        ((enterAll s (submitted s es)).1 ++ more, s') ∧
      s'.machine = (enterAll s (submitted s es)).2.machine := by
  induction s, hs, es using State.Ready.induction with
  | nil s => exact ⟨_, _, rfl, machine_pressAll_of_not_mem last.enter_not_mem s⟩
  | ended s hs e es hl =>
    rw [submitted_cons_of_none hs hl]
    exact ⟨_, _, rfl, (snd_run_cons_of_none hs hl _).2⟩
  | line s hs e es line hl ih =>
    obtain ⟨more, s', hrun, hmachine⟩ := ih
    rw [List.map_cons, List.cons_append, run_cons_of_some hs hl, submitted_cons_of_some hs hl, hrun]
    exact ⟨more, s', rfl, hmachine⟩

/-- **Typing the lines again** says the same, and leaves the same session. -/
theorem run_typing (es : List Edit) (more : List (List Key)) :
    let lines := submitted s es
    run s ((lines.map Edit.typing ++ es.drop lines.length).map Edit.entered ++ more) =
      run s (es.map Edit.entered ++ more) := by
  dsimp only
  induction s, hs, es using State.Ready.induction with
  | nil => rfl
  | ended s hs e es hl =>
    rw [submitted_cons_of_none hs hl]
    rfl
  | line s hs e es line hl ih =>
    have htyping := Edit.line?_typing s.history line
    rw [submitted_cons_of_some hs hl, List.map_cons, List.length_cons, List.drop_succ_cons,
      List.cons_append, List.map_cons, List.cons_append, run_cons_of_some hs htyping, ih,
      List.map_cons, List.cons_append, run_cons_of_some hs hl]

end

/-- What is said to a line is the response to it. -/
theorem encode_enter (s : State) (line : Line) :
    Utf8.encode (enter s line).1 = Session.response line.text := by
  rw [enter]
  by_cases h : line.text.blank
  · rw [if_pos h, Session.response_of_blank h]
    rfl
  · rw [if_neg h, Session.response_of_not_blank h]
    exact congrArg Reply.bytes (Machine.fst_process_eq s.machine line.text)

theorem encode_enterAll (s : State) (lines : List Line) :
    (enterAll s lines).1.map Utf8.encode = lines.map fun line => Session.response line.text := by
  induction lines generalizing s with
  | nil => rfl
  | cons line lines ih => rw [enterAll, List.map_cons, List.map_cons, ih, encode_enter]

theorem machine_enterAll (s : State) (lines : List Line) :
    (enterAll s lines).2.machine = s.machine.after (Batch.work (lines.map Line.text)) := by
  induction lines generalizing s with
  | nil => rfl
  | cons line lines ih =>
    rw [enterAll, List.map_cons]
    dsimp only
    rw [ih, enter]
    by_cases h : line.text.blank
    · rw [if_pos h, Batch.work_cons_of_blank h]
    · rw [if_neg h, Batch.work_cons_of_not_blank h, Machine.after_cons]

/-! ### Sittings -/

/-- A session says as a sitting what it says with its own edits. -/
theorem Sitting.run_ofKeys (s : State) (session : List (List Key)) :
    let t := ofKeys session.flatten
    (run s session).1.flatten = (run s t.edits).1.flatten ∧
      (run s session).2 = (run s t.edits).2 := by
  have hsame := pressAll_flatten s (ofKeys session.flatten).edits
  rw [flatten_edits_ofKeys, pressAll_flatten] at hsame
  exact Prod.mk.inj hsame

theorem Sitting.submitted_eq_lines (t : Sitting) (m : Machine) :
    submitted { machine := m } t.entered = t.lines :=
  submitted_congr (State.ready_start m) (State.ready_start {}) rfl t.entered

theorem Sitting.run_retyped (t : Sitting) (m : Machine) :
    run { machine := m } t.retyped.edits = run { machine := m } t.edits := by
  have htyping := run_typing (State.ready_start m) t.entered [t.last.keys]
  rw [t.submitted_eq_lines] at htyping
  exact htyping

/-- A batch over the lines of a sitting. -/
theorem Sitting.run_lines (t : Sitting) (m : Machine) :
    let texts := t.lines.map Line.text
    let r := Batch.run m (.ofText (Text.joinWith ['\n'] texts)) {}
    r.written = texts.flatMap Session.response ∧ r.machine = m.after (Batch.work texts) := by
  intro texts r
  have hcontrol : ∀ l ∈ texts, '\n' ∉ l ∧ '\r' ∉ l := by
    intro l hl
    obtain ⟨line, -, rfl⟩ := List.mem_map.1 hl
    exact ⟨fun h => absurd (Line.isPrintable_of_mem h) (by decide),
      fun h => absurd (Line.isPrintable_of_mem h) (by decide)⟩
  have hr : r = _ := Batch.run_ofText_eq m (Text.joinWith ['\n'] texts)
  rw [hr, Batch.work_lines_joinWith hcontrol, Session.flatMap_response]
  exact ⟨rfl, rfl⟩

/-- A run of the program holds a session on some machine, or answers no edit. -/
theorem runAtKeyboard_cases (args : List Text) (w : Program.World) :
    (∃ output exit, ∀ edits, Program.runAtKeyboard args w edits = ([output], exit)) ∨
      ∃ output m, ∀ edits, Program.runAtKeyboard args w edits =
        (output :: (run { machine := m } edits).1.map Utf8.encode, 0) := by
  unfold Program.runAtKeyboard
  split
  · exact .inl ⟨_, _, fun _ => rfl⟩
  · exact .inl ⟨_, _, fun _ => rfl⟩
  · dsimp only
    split
    · exact .inr ⟨_, _, fun _ => rfl⟩
    · exact .inl ⟨_, _, fun _ => rfl⟩

/-- **A session at the keyboard** comes to the same as typing each line that is
submitted.  Any session is a sitting: its edits are cut where enter is pressed, and
what is said in all is the same.  On any machine the lines are the same ones; each of
them is answered as it is in a batch, and a blank one is not answered; all these
answers together are the output of a batch over the lines, which leaves the same
machine.  If each edit that ends with enter is replaced by one that just types its
line, as long as the session goes on, all the edits are answered as before, the
others too, and the session ends the same way; so the whole run of the program, on a
terminal that edits lines, writes the same and has the same exit code. -/
theorem sitting_retyped (session : List (List Key)) :
    let t := Sitting.ofKeys session.flatten
    (∀ m : Machine,
      let s : State := { machine := m }
      let batch := Batch.run m (.ofText (Text.joinWith ['\n'] (t.lines.map Line.text))) {}
      let answers := (run s t.edits).1.map Utf8.encode
      (run s session).1.flatten = (run s t.edits).1.flatten ∧
      (run s session).2 = (run s t.edits).2 ∧
      submitted s t.entered = t.lines ∧
      answers.take t.lines.length = (t.lines.map fun line => Session.response line.text) ∧
      (answers.take t.lines.length).flatten = batch.written ∧
      (run s t.edits).2.machine = batch.machine ∧
      run s t.retyped.edits = run s t.edits) ∧
    ∀ args w, ¬ Session.isPlain w.terminal →
      let program := Program.runAtKeyboard args w
      (program session).1.flatten = (program t.edits).1.flatten ∧
      (program session).2 = (program t.edits).2 ∧
      program t.retyped.edits = program t.edits := by
  intro t
  refine ⟨fun m => ?_, fun args w _ => ?_⟩
  · intro s batch answers
    obtain ⟨more, s', hrun, hsame⟩ := exists_run_edits (State.ready_start m) t.entered t.last
    rw [t.submitted_eq_lines] at hrun hsame
    have hrun : run s t.edits = _ := hrun
    obtain ⟨hwritten, hmachine⟩ := t.run_lines m
    have htake : answers.take t.lines.length =
        t.lines.map fun line => Session.response line.text := by
      have hanswers : answers =
          (t.lines.map fun line => Session.response line.text) ++ more.map Utf8.encode := by
        rw [← encode_enterAll s, ← List.map_append]
        simp only [answers, hrun, s]
      rw [hanswers, List.take_append_of_le_length (by simp), List.take_of_length_le (by simp)]
    obtain ⟨hsaid, hstate⟩ := Sitting.run_ofKeys s session
    refine ⟨hsaid, hstate, t.submitted_eq_lines m, htake, ?_, ?_, t.run_retyped m⟩
    · rw [htake, hwritten, List.flatMap_map]
      rfl
    · rw [hmachine, hrun]
      dsimp only
      rw [hsame, machine_enterAll]
  · intro program
    rcases runAtKeyboard_cases args w with ⟨output, code, hall⟩ | ⟨output, m, hall⟩
    · simp only [program, hall, and_self]
    · have hsaid : (run { machine := m } session).1.flatten =
          (run { machine := m } t.edits).1.flatten :=
        (Sitting.run_ofKeys _ session).1
      refine ⟨?_, ?_, ?_⟩
      · simp only [program, hall, List.flatten_cons, ← Utf8.encode_flatten, hsaid]
      · simp only [program, hall]
      · simp only [program, hall, t.run_retyped]

/-- The input is closed on the second line, which is not empty: nothing comes of it,
and the line is typed on.  The third line is the second, called back, shortened and
typed on. -/
theorem sitting_retyped_after_close :
    let session : List (List Key) := [
      [.type { text := "print a".toList }, .enter],
      [.type { text := "pri".toList }, .close],
      [.type { text := "nt x".toList }, .enter],
      [.up, .backspace, .type { text := "y".toList }, .enter],
      [.close]]
    let t := Sitting.ofKeys session.flatten
    let said := ["a\n".toList, "x\n".toList, "y\n".toList, []]
    let w := Program.World.ofFiles (.ofList [] []) [] []
    t.lines.map Line.text = ["print a".toList, "print x".toList, "print y".toList] ∧
      (run { machine := {} } session).1.flatten = "a\nx\ny\n".toList ∧
      (run { machine := {} } t.retyped.edits).1 = said ∧
      Program.runAtKeyboard [] w t.retyped.edits = ([] :: said.map Utf8.encode, 0) := by
  intro session t said w
  have hlines : t.lines.map Line.text =
      ["print a".toList, "print x".toList, "print y".toList] := by
    decide +kernel
  have hsaid : (run { machine := {} } t.edits).1 = said := by decide +kernel
  have hprogram : Program.runAtKeyboard [] w t.edits = ([] :: said.map Utf8.encode, 0) := by
    decide +kernel
  obtain ⟨hsession, hwritten⟩ := sitting_retyped session
  obtain ⟨hcut, -, -, -, -, -, hretyped⟩ := hsession {}
  obtain ⟨-, -, hsame⟩ := hwritten [] w (by decide)
  refine ⟨hlines, ?_, ?_, hsame.trans hprogram⟩
  · rw [hcut, hsaid]
    rfl
  · rw [hretyped, hsaid]

end Keyboard
end LineMachine
