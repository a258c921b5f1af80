/-
# What the log tells of a run with a script

Three records are kept of the lines that are run: the output, the log, and the
tally of the script.  They are made at different places, an event before the
output of its line and the tally after all lines, and they agree, since each is
told by the replies to the lines in their order.  A line that cannot be read ends
the run before the tally is told; the events and the output of the lines before it
stay.

The script is not reached at all if there is a corpus that cannot be read: then the
log is silent, however well-formed the script is
(`Program.silent_without_corpus`).
-/

import LineMachine.Proofs.Batch.Answered
import LineMachine.Proofs.Program.Stages

namespace LineMachine
namespace Program

open CommandLine
open Log (Event)
open Source (newline)
open Utf8 (WellFormed encode)

variable {o : Options} {w : World} {args : List Text}

theorem newline_not_mem_sampleLines (o : Options) : ∀ line ∈ sampleLines o, '\n' ∉ line := by
  rw [sampleLines]
  split
  · decide
  · exact List.forall_mem_nil _

/-- The log of a run is what its filter hears of the events. -/
theorem log_run (hargs : parse args = .ok (.run o)) :
    (run args w).log = (Log.Filter.ofSetting w.logSetting o.verbose).log (perform o w).events := by
  rw [run, hargs]
  rfl

/-- A run whose corpus cannot be read tells nothing, whatever the log would hear. -/
theorem log_of_not_readsCorpus (hargs : parse args = .ok (.run o)) (hreads : ¬ ReadsCorpus o w) :
    (run args w).log = [] := by
  obtain ⟨e, he⟩ := prepare_of_not_readsCorpus hreads
  rw [log_run hargs, perform, he, Activity.fail_andThen]
  rfl

/-- The events of a run with a script: the corpus, the sample lines, the script. -/
theorem events_perform_of_script {path : Text} (hpath : o.script = some path)
    (hreads : ReadsCorpus o w) :
    ∃ corpus, (∀ path ∈ o.corpus, Corpus.load path (w.corpusAt path) = .ok corpus) ∧
      (perform o w).events =
        o.corpus.toList.map (.corpusLoaded · corpus.lineCount) ++
          (sampleLines o).map Event.ofLine ++ scriptEvents (w.scriptAt path) := by
  obtain ⟨corpus, hload, hprepare⟩ := prepare_of_readsCorpus hreads
  obtain ⟨-, hevents, -⟩ := runScript_eq w path (Machine.after { corpus } (sampleLines o))
  refine ⟨corpus, hload, ?_⟩
  rw [perform, hprepare, Activity.andThen_of_ok rfl, hpath, ← hevents]

/-- **The log mirrors a run with a script.**  With a filter that hears replies and
whole files, a run whose corpus, if there is one, can be read tells of the corpus,
then of every line that is run, the sample lines first if they are asked for, and
then of the tally exactly when the whole script is well-formed.  The lines of the
output are those that go with the events, in the same order; the tally counts the
events of the script, and among them the failures; and an answer that is told is
the feedback that the machine has then.  A run whose corpus cannot be read tells
nothing and has no output. -/
theorem run_logged {path : Text} {b : Bytes}
    (hargs : parse args = .ok (.run o)) (hpath : o.script = some path)
    (hscript : w.scriptAt path = .ok { bytes := b })
    (hreplies : (Log.Filter.ofSetting w.logSetting o.verbose).Hears "jada_vm::repl".toList .debug)
    (hfiles : (Log.Filter.ofSetting w.logSetting o.verbose).Hears "jada".toList .info) :
    (ReadsCorpus o w →
      ∃ t corpus, Source.readable b = encode t ∧
        (∀ path ∈ o.corpus, Corpus.load path (w.corpusAt path) = .ok corpus) ∧
        let lines := sampleLines o ++ Batch.work t.lines
        let script := (Batch.work t.lines).map Event.ofLine
        let tally : Tally := ⟨script.length, script.countP Event.isFailure⟩
        let events := o.corpus.toList.map (.corpusLoaded · corpus.lineCount) ++
          lines.map Event.ofLine ++ if WellFormed b then [.scriptFinished tally] else []
        (run args w).log = events.map Event.render ∧
        Lines.cut newline (run args w).output =
          ((events.filterMap Event.shown?).map encode, []) ∧
        ∀ i answer, (lines.map Event.ofLine)[i]? = some (.learned answer) →
          (Machine.after { corpus } (lines.take (i + 1))).feedback.last = some answer) ∧
    (¬ ReadsCorpus o w → (run args w).log = [] ∧ (run args w).output = []) := by
  refine ⟨fun hreads => ?_, fun hreads => ?_⟩
  · obtain ⟨t, ht, hread⟩ := Source.exists_read_eq b
    obtain ⟨corpus, hload, hperform⟩ := events_perform_of_script hpath hreads
    refine ⟨t, corpus, ht, hload, ?_⟩
    intro lines script tally events
    have hfinished : (if WellFormed b then none else some Fault.illFormed) = none ↔
        WellFormed b := by simp
    have hevents : (perform o w).events = events := by
      simp only [hperform, hscript, scriptEvents, hread, hfinished, events, lines, script, tally,
        List.map_append, List.append_assoc]
    have hshown : events.filterMap Event.shown? =
        lines.map fun line => Reply.text (Reply.ofLine line) := by
      have hbefore : (o.corpus.toList.map (.corpusLoaded · corpus.lineCount)).filterMap
          Event.shown? = [] := by
        rw [List.filterMap_map]
        exact List.filterMap_eq_nil_iff.2 fun _ _ => rfl
      have hafter : (if WellFormed b then [.scriptFinished tally] else []).filterMap
          Event.shown? = [] := by
        split <;> rfl
      rw [List.filterMap_append, List.filterMap_append, hbefore, hafter,
        Event.filterMap_shown?_ofLine, List.nil_append, List.append_nil]
    have houtput : (run args w).output = Batch.output lines := by
      obtain ⟨hout, -, -⟩ := shows_of_script hargs hpath hreads
      rw [hout, hscript, scriptOutput, hread, demoOutput_eq, ← Batch.output_append]
    have hsingle : ∀ line ∈ lines, '\n' ∉ line := by
      intro line hl
      rcases List.mem_append.1 hl with hsample | hwork
      · exact newline_not_mem_sampleLines o line hsample
      · exact Text.not_mem_of_mem_lines (List.mem_of_mem_filter hwork)
    refine ⟨?_, ?_, fun i answer h => Machine.feedback_after_of_learned h⟩
    · rw [log_run hargs, hevents, Log.Filter.log_eq_map hreplies hfiles]
    · rw [houtput, Batch.cut_output hsingle, hshown, List.map_map]
      rfl
  · obtain ⟨e, hout, -, -⟩ := shows_of_not_readsCorpus hargs hreads
    exact ⟨log_of_not_readsCorpus hargs hreads, hout⟩

/-- The script has a line that fails, and ends in a byte that is ill-formed; the
second run has the script without that byte, and the third no corpus. -/
theorem run_logged_three :
    let text : Text := "define y\n\nprint a\n".toList
    let files (script : Bytes) := FileSystem.ofList ["work".toList]
      [("c".toList, .file (encode "reference\n".toList)), ("s".toList, .file script)]
    let args := ["--demo", "--corpus", "c", "--script", "s"].map String.toList
    let argsGone := ["--demo", "--corpus", "gone", "--script", "s"].map String.toList
    let setting := some "jada_vm::repl=debug,jada=info".toList
    let w (script : Bytes) (args : List Text) :=
      { World.ofFiles (files script) [] args with logSetting := setting }
    let told : List Event := [.corpusLoaded "c".toList 1, .learned "Hello, World!".toList,
      .learned "Defined x = 10".toList, .lineFailed (Malformed.message ⟨"define y".toList⟩),
      .learned "a".toList]
    ∃ a b c, a = run args (w (encode text ++ [0xFF]) args) ∧ b = run args (w (encode text) args) ∧
      c = run argsGone (w (encode text) argsGone) ∧
      a.log = told.map Event.render ∧
      b.log = (told ++ [Event.scriptFinished ⟨2, 1⟩]).map Event.render ∧ c.log = [] := by
  intro text files args argsGone setting w told
  let o : Options := { corpus := some "c".toList, script := some "s".toList, demo := true }
  let oGone : Options := { o with corpus := some "gone".toList }
  have ho : parse args = .ok (.run o) := rfl
  have hoGone : parse argsGone = .ok (.run oGone) := rfl
  have hscript (script : Bytes) (args : List Text) :
      (w script args).scriptAt "s".toList = .ok { bytes := script } := rfl
  have hfilter : Log.Filter.ofSetting setting false =
      [⟨"jada_vm::repl".toList, .any, .debug⟩, ⟨"jada".toList, .any, .info⟩] := by
    decide +kernel
  have hreplies : (Log.Filter.ofSetting setting false).Hears "jada_vm::repl".toList .debug := by
    rw [hfilter]
    exact fun e _ _ => by cases e <;> rfl
  have hfiles : (Log.Filter.ofSetting setting false).Hears "jada".toList .info := by
    rw [hfilter]
    exact fun e _ _ => by cases e <;> rfl
  have hcorpus (script : Bytes) (args : List Text) :
      (w script args).corpusAt "c".toList = .ok { bytes := encode "reference\n".toList } := rfl
  have hreads (script : Bytes) : ReadsCorpus o (w script args) :=
    (readsCorpus_iff_of_some rfl).2 ⟨"reference\n".toList, hcorpus script args⟩
  have hreadsGone : ¬ ReadsCorpus oGone (w (encode text) argsGone) := by
    rw [readsCorpus_iff_of_some rfl]
    exact fun ⟨_, h⟩ => nomatch h
  obtain ⟨ha, -⟩ := run_logged ho rfl (hscript (encode text ++ [0xFF]) args) hreplies hfiles
  obtain ⟨hb, -⟩ := run_logged ho rfl (hscript (encode text) args) hreplies hfiles
  obtain ⟨-, hgone⟩ := run_logged hoGone rfl (hscript (encode text) argsGone) hreplies hfiles
  obtain ⟨t, ⟨c⟩, ht, hload, hloga, -⟩ := ha (hreads _)
  obtain ⟨t', ⟨c'⟩, ht', hload', hlogb, -⟩ := hb (hreads _)
  obtain rfl : t = text := Utf8.encode_injective (ht.symm.trans (by decide +kernel))
  obtain rfl : t' = text := Utf8.encode_injective (ht'.symm.trans (by decide +kernel))
  have hc := hload "c".toList rfl
  have hc' := hload' "c".toList rfl
  rw [hcorpus, Corpus.load_eq_ok_iff] at hc hc'
  obtain rfl := Utf8.encode_injective hc
  obtain rfl := Utf8.encode_injective hc'
  obtain ⟨hlogc, -⟩ := hgone hreadsGone
  refine ⟨_, _, _, rfl, rfl, rfl, hloga.trans (congrArg _ ?_), hlogb.trans (congrArg _ ?_), hlogc⟩
  · decide +kernel
  · decide +kernel

/-- **Without a corpus that can be read** a script is not run and nothing is told,
however well-formed it is. -/
theorem silent_without_corpus :
    let fs := FileSystem.ofList ["work".toList] [("s".toList, .file [])]
    let args := ["-v", "--corpus", "gone", "--script", "s"].map String.toList
    let o : Options :=
      { corpus := some "gone".toList, script := some "s".toList, verbose := true }
    let w := World.ofFiles fs [] args
    let filter := Log.Filter.ofSetting w.logSetting o.verbose
    parse args = .ok (.run o) ∧ w.scriptAt "s".toList = .ok { bytes := [] } ∧ WellFormed [] ∧
      filter.Hears "jada_vm::repl".toList .debug ∧ filter.Hears "jada".toList .info ∧
      (run args w).log = [] ∧ ∀ tally, (Event.scriptFinished tally).render ∉ (run args w).log := by
  intro fs args o w filter
  have hargs : parse args = .ok (.run o) := rfl
  have hreads : ¬ ReadsCorpus o w := by
    rw [readsCorpus_iff_of_some rfl]
    exact fun ⟨_, h⟩ => nomatch h
  have hlog := log_of_not_readsCorpus hargs hreads
  have hdebug (target : Text) : filter.Hears target .debug := Log.Filter.hears_standard target
  refine ⟨hargs, rfl, Utf8.wellFormed_nil, hdebug _, (hdebug _).mono (by decide), hlog,
    fun tally h => ?_⟩
  rw [hlog] at h
  exact List.not_mem_nil h

end Program
end LineMachine
