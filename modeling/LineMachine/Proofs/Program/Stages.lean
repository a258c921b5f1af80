/-
# What is seen of each part of a run

Of a part of a run its output and its events are seen, and why it failed, if it
did (`Activity.failure?`); the machine it leaves is not.  So a script and a
session are seen alike whatever the sample lines left in the machine
(`Program.runScript_eq`, `Program.piped_eq`), and of all that comes before only
two things are seen: the corpus, or that it cannot be read, and the sample lines
(`Program.prepare_of_readsCorpus`, `Program.prepare_of_not_readsCorpus`).
-/

import LineMachine.Program
import LineMachine.Proofs.Batch.Executed
import LineMachine.Proofs.Log.Heard
import LineMachine.Proofs.Session.Talk

namespace LineMachine

open Log (Event)

namespace Activity

variable {α β : Type}

/-- Why a part failed, if it did. -/
def failure? (x : Activity α) : Option Failure :=
  match x.result with
  | .ok _ => none
  | .error e => some e

section

variable {x : Activity α} {a : α} {e : Failure}

theorem andThen_of_ok (h : x.result = .ok a) (f : α → Activity β) :
    x.andThen f =
      { output := x.output ++ (f a).output
        events := x.events ++ (f a).events
        result := (f a).result } := by
  rw [andThen, h]

theorem andThen_of_error (h : x.result = .error e) (f : α → Activity β) :
    x.andThen f = { output := x.output, events := x.events, result := .error e } := by
  rw [andThen, h]

end

end Activity

/-- What is loaded is the text of well-formed bytes, all of them. -/
theorem Corpus.load_eq_ok_iff_ofText {path : Text} {opened : Except Fault Source} {c : Corpus} :
    load path opened = .ok c ↔ opened = .ok (.ofText c.text) := by
  cases opened with
  | error cause => exact ⟨nofun, nofun⟩
  | ok s =>
    obtain ⟨b, fault⟩ := s
    cases fault with
    | some cause => exact ⟨nofun, nofun⟩
    | none => rw [load_eq_ok_iff, Source.ofText, Except.ok.injEq, Source.mk.injEq, and_iff_left rfl]

/-- The output of the sample lines. -/
def Demo.output : Bytes := Utf8.encode "Hello, World!\nDefined x = 10\n".toList

/-- The sample lines are run to their end on any machine. -/
theorem Demo.run_source (m : Machine) :
    Batch.run m source {} =
      { replies := lines.map Reply.ofLine
        written := output
        flushes := 1
        outcome := .ok (.ofReplies (lines.map Reply.ofLine))
        machine := m.after lines } := by
  have hwork : Batch.work lines = lines := by decide +kernel
  have hout : Batch.output lines = output := by decide +kernel
  rw [Batch.run_of_read_eq_none (by rw [read_source]), read_source, hwork, hout]

namespace Program

open CommandLine

/-! ### What comes before a script or a session -/

/-- The corpus can be read, if one is named: its path leads to the bytes of a text. -/
def ReadsCorpus (o : Options) (w : World) : Prop :=
  ∀ path ∈ o.corpus, ∃ text, w.corpusAt path = .ok (.ofText text)

variable {o : Options} {w : World}

theorem readsCorpus_of_none (hc : o.corpus = none) : ReadsCorpus o w := by
  simp [ReadsCorpus, hc]

theorem readsCorpus_iff_of_some {path : Text} (hc : o.corpus = some path) :
    ReadsCorpus o w ↔ ∃ text, w.corpusAt path = .ok (.ofText text) := by
  simp [ReadsCorpus, hc]

/-- **A corpus that can be read** is told of, and the run starts with it. -/
theorem start_of_readsCorpus (h : ReadsCorpus o w) :
    ∃ corpus, (∀ path ∈ o.corpus, Corpus.load path (w.corpusAt path) = .ok corpus) ∧
      start o w =
        { events := o.corpus.toList.map (.corpusLoaded · corpus.lineCount)
          result := .ok { corpus } } := by
  rw [start]
  cases hc : o.corpus with
  | none => exact ⟨{}, fun _ hp => (nomatch hp), rfl⟩
  | some path =>
    obtain ⟨text, ht⟩ := (readsCorpus_iff_of_some hc).1 h
    have hload : Corpus.load path (w.corpusAt path) = .ok ⟨text⟩ :=
      Corpus.load_eq_ok_iff_ofText.2 ht
    simp only [hload]
    refine ⟨⟨text⟩, fun path' hp => ?_, rfl⟩
    obtain rfl := Option.mem_some_iff.1 hp
    exact hload

theorem start_of_not_readsCorpus (h : ¬ ReadsCorpus o w) : ∃ e, start o w = .fail e := by
  rw [start]
  cases hc : o.corpus with
  | none => exact absurd (readsCorpus_of_none hc) h
  | some path =>
    cases hload : Corpus.load path (w.corpusAt path) with
    | error e =>
      simp only [hload]
      exact ⟨e, rfl⟩
    | ok c =>
      have hc' := (readsCorpus_iff_of_some hc).2 ⟨c.text, Corpus.load_eq_ok_iff_ofText.1 hload⟩
      exact absurd hc' h

/-- The sample lines, if they are asked for. -/
def sampleLines (o : Options) : List Text := if o.demo then Demo.lines else []

/-- The output of the sample lines, if they are asked for. -/
def demoOutput (o : Options) : Bytes := if o.demo then Demo.output else []

theorem demoOutput_eq (o : Options) : demoOutput o = Batch.output (sampleLines o) := by
  rw [demoOutput, sampleLines]
  split
  · decide +kernel
  · rfl

theorem demonstrate_eq (o : Options) (m : Machine) :
    demonstrate o m =
      { output := demoOutput o
        events := (sampleLines o).map Event.ofLine
        result := .ok (m.after (sampleLines o)) } := by
  rw [demonstrate, demoOutput, sampleLines]
  split
  · rw [Demo.run_source]
    rfl
  · rfl

/-- **With a corpus that can be read** it and the sample lines are all that is seen. -/
theorem prepare_of_readsCorpus (h : ReadsCorpus o w) :
    ∃ corpus, (∀ path ∈ o.corpus, Corpus.load path (w.corpusAt path) = .ok corpus) ∧
      prepare o w =
        { output := demoOutput o
          events := o.corpus.toList.map (.corpusLoaded · corpus.lineCount) ++
            (sampleLines o).map Event.ofLine
          result := .ok (Machine.after { corpus } (sampleLines o)) } := by
  obtain ⟨corpus, hload, hstart⟩ := start_of_readsCorpus h
  refine ⟨corpus, hload, ?_⟩
  rw [prepare, hstart, Activity.andThen_of_ok rfl, demonstrate_eq]
  rfl

/-- **Without one** nothing is seen, not even the sample lines. -/
theorem prepare_of_not_readsCorpus (h : ¬ ReadsCorpus o w) : ∃ e, prepare o w = .fail e := by
  obtain ⟨e, he⟩ := start_of_not_readsCorpus h
  exact ⟨e, by rw [prepare, he, Activity.fail_andThen]⟩

/-! ### A script, or a session -/

/-- The output of a script, given what opening it comes to. -/
def scriptOutput : Except Fault Source → Bytes
  | .error _ => []
  | .ok s => Batch.output (Batch.work s.read.1)

/-- Why a script fails, if it does. -/
def scriptFailure? (path : Text) : Except Fault Source → Option Failure
  | .error cause => some (.unopenedScript path cause)
  | .ok s => s.read.2.map (.unreadableLine (s.read.1.length + 1))

/-- The events of a script: one for each line that is run, and the tally if it is
read to its end. -/
def scriptEvents : Except Fault Source → List Event
  | .error _ => []
  | .ok s =>
    let replies := (Batch.work s.read.1).map Event.ofLine
    let tally : Tally := ⟨replies.length, replies.countP Event.isFailure⟩
    replies ++ if s.read.2 = none then [.scriptFinished tally] else []

/-- **A script is seen alike on any machine.** -/
theorem runScript_eq (w : World) (path : Text) (m : Machine) :
    (runScript w path m).output = scriptOutput (w.scriptAt path) ∧
      (runScript w path m).events = scriptEvents (w.scriptAt path) ∧
      (runScript w path m).failure? = scriptFailure? path (w.scriptAt path) := by
  rw [runScript]
  cases w.scriptAt path with
  | error cause => exact ⟨rfl, rfl, rfl⟩
  | ok s =>
    simp only [scriptOutput, scriptEvents, scriptFailure?, ← Event.ofReplies_eq_events]
    cases hread : s.read.2 with
    | none =>
      rw [Batch.run_of_read_eq_none hread, Activity.andThen_of_ok rfl]
      refine ⟨List.append_nil _, ?_, rfl⟩
      simp [Batch.Report.activity, Activity.tell, Event.ofLine]
    | some cause =>
      rw [Batch.run_of_read_eq_some hread, Activity.andThen_of_error rfl]
      refine ⟨rfl, ?_, rfl⟩
      simp [Batch.Report.activity, Event.ofLine]

/-- The output of a session, given what it shows of its prompt. -/
def sessionOutput (prompt : Bytes) (s : Source) : Bytes :=
  ((Session.entered s.read.1).flatMap fun line => prompt ++ Session.response line) ++ prompt

/-- **So is a session.** -/
theorem piped_eq (prompt : Bytes) (m : Machine) (s : Source) :
    (Session.piped prompt m s).output = sessionOutput prompt s ∧
      (Session.piped prompt m s).failure? = s.read.2.map .unreadableInput := by
  constructor
  · simp only [Session.piped, sessionOutput, Session.talk_eq]
  · simp only [Session.piped, Activity.failure?]
    cases s.read.2 <;> rfl

/-! ### The whole run -/

/-- The run leaves this output and failed with this, if it did: the exit code and
the errors tell. -/
structure Outcome.Shows (r : Outcome) (output : Bytes) (failure : Option Failure) : Prop where
  output_eq : r.output = output
  exit_eq : r.exit = if failure.isSome then 1 else 0
  errors_eq : r.errors = failure.elim [] Failure.report

variable {args : List Text}

/-- What is seen of a run is what is seen of its parts. -/
theorem shows_of_parse (h : parse args = .ok (.run o)) (w : World) :
    (run args w).Shows (perform o w).output (perform o w).failure? := by
  rw [run, h]
  simp only [outcome, Activity.failure?]
  cases (perform o w).result <;> exact ⟨rfl, rfl, rfl⟩

/-- **A run with a script** shows the script, after the sample lines. -/
theorem shows_of_script {path : Text} (h : parse args = .ok (.run o)) (hs : o.script = some path)
    (hreads : ReadsCorpus o w) :
    (run args w).Shows (demoOutput o ++ scriptOutput (w.scriptAt path))
      (scriptFailure? path (w.scriptAt path)) := by
  obtain ⟨corpus, -, hprepare⟩ := prepare_of_readsCorpus hreads
  obtain ⟨hscript, -, hfail⟩ := runScript_eq w path (Machine.after { corpus } (sampleLines o))
  have hshows := shows_of_parse h w
  rw [perform, hprepare, Activity.andThen_of_ok rfl, hs] at hshows
  rw [← hscript, ← hfail]
  exact hshows

/-- **A run without one** shows a session, after the sample lines. -/
theorem shows_of_session (h : parse args = .ok (.run o)) (hs : o.script = none)
    (hreads : ReadsCorpus o w) :
    (run args w).Shows
      (demoOutput o ++ sessionOutput (Session.shownPrompt w.terminal o.promptText) w.input)
      (w.input.read.2.map .unreadableInput) := by
  obtain ⟨corpus, -, hprepare⟩ := prepare_of_readsCorpus hreads
  obtain ⟨hsession, hfail⟩ := piped_eq (Session.shownPrompt w.terminal o.promptText)
    (Machine.after { corpus } (sampleLines o)) w.input
  have hshows := shows_of_parse h w
  rw [perform, hprepare, Activity.andThen_of_ok rfl, hs] at hshows
  rw [← hsession, ← hfail]
  exact hshows

/-- **A run whose corpus cannot be read** ends before either, and before the
sample lines. -/
theorem shows_of_not_readsCorpus (h : parse args = .ok (.run o)) (hreads : ¬ ReadsCorpus o w) :
    ∃ e, (run args w).Shows [] (some e) := by
  obtain ⟨e, he⟩ := prepare_of_not_readsCorpus hreads
  have hshows := shows_of_parse h w
  rw [perform, he, Activity.fail_andThen] at hshows
  exact ⟨e, hshows⟩

end Program
end LineMachine
