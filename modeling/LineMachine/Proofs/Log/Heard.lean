/-
# Events of lines, and filters that hear them

The event of a reply carries what the line is answered with, so it tells the line
of output that goes with it (`Log.Event.shown?`) and whether it counts as a
failure (`Log.Event.isFailure`): the output and the tally of lines can both be
read off their events.  An answer that is told is also what the machine then has
for feedback (`Machine.feedback_after_of_learned`).

Replies and whole files are told by two parts of the program at two levels, and
nothing else is; a filter that hears both drops no event (`Log.Filter.log_eq_map`).
-/

import LineMachine.Log.Filter
import LineMachine.Proofs.Batch.Executed
import LineMachine.Proofs.Command.Response

namespace LineMachine
namespace Log

namespace Event

/-- The event of the reply to a line. -/
def ofLine (line : Text) : Event := ofReply (Reply.ofLine line)

/-- The text of the output that goes with an event, if it is the event of a reply. -/
def shown? : Event → Option Text
  | .learned answer => some answer
  | .lineFailed message => some ("error: ".toList ++ message)
  | .corpusLoaded .. | .scriptFinished _ => none

/-- The event tells of a line without an answer. -/
def isFailure : Event → Bool
  | .lineFailed _ => true
  | .learned _ | .corpusLoaded .. | .scriptFinished _ => false

theorem shown?_ofReply (r : Reply) : (ofReply r).shown? = some (Reply.text r) := by
  cases r <;> rfl

theorem isFailure_ofReply (r : Reply) : (ofReply r).isFailure = Reply.failed r := by
  cases r <;> rfl

/-- **The events of lines show what the lines are answered with.** -/
theorem filterMap_shown?_ofLine (lines : List Text) :
    (lines.map ofLine).filterMap shown? = lines.map fun line => Reply.text (Reply.ofLine line) := by
  rw [List.filterMap_map, ← List.filterMap_eq_map]
  exact List.filterMap_congr fun line _ => shown?_ofReply (Reply.ofLine line)

/-- **The tally of lines is told by their events.** -/
theorem ofReplies_eq_events (lines : List Text) :
    Tally.ofReplies (lines.map Reply.ofLine) =
      ⟨(lines.map ofLine).length, (lines.map ofLine).countP isFailure⟩ := by
  rw [Tally.ofReplies, List.length_map, List.length_map, List.countP_map, List.countP_map]
  congr 1
  exact List.countP_congr fun line _ => by
    rw [Function.comp_apply, Function.comp_apply, ofLine, isFailure_ofReply]

theorem ofLine_eq_learned_iff {line answer : Text} :
    ofLine line = .learned answer ↔ Reply.ofLine line = .ok answer := by
  rw [ofLine]
  cases Reply.ofLine line <;> simp [ofReply]

end Event

namespace Filter

/-- The filter hears the events of a target up to a level. -/
def Hears (f : Filter) (target : Text) (level : Level) : Prop :=
  ∀ e : Event, e.target = target → e.level.rank ≤ level.rank → f.admits e

theorem Hears.mono {f : Filter} {target : Text} {l l' : Level} (h : f.Hears target l)
    (hl : l'.rank ≤ l.rank) : f.Hears target l' :=
  fun e ht he => h e ht (he.trans hl)

/-- A run that is to be verbose is heard if nothing else is set. -/
theorem hears_standard (target : Text) : (standard true).Hears target .debug :=
  fun e _ _ => by cases e <;> rfl

/-- **A filter that hears replies and whole files** drops no event. -/
theorem log_eq_map {f : Filter} (hreplies : f.Hears "jada_vm::repl".toList .debug)
    (hfiles : f.Hears "jada".toList .info) (es : List Event) :
    f.log es = es.map Event.render := by
  rw [log, List.filter_eq_self.2]
  intro e _
  cases e with
  | learned | lineFailed => exact hreplies _ rfl (Nat.le_refl _)
  | corpusLoaded | scriptFinished => exact hfiles _ rfl (Nat.le_refl _)

end Filter

end Log

open Log (Event)

/-- **An answer that is told** is the feedback of the machine that gave it. -/
theorem Machine.feedback_after_of_learned {m : Machine} {lines : List Text} {i : ℕ} {answer : Text}
    (h : (lines.map Event.ofLine)[i]? = some (.learned answer)) :
    (m.after (lines.take (i + 1))).feedback.last = some answer := by
  rw [List.getElem?_map] at h
  obtain ⟨line, hline, hevent⟩ := Option.map_eq_some_iff.1 h
  have hreply := Log.Event.ofLine_eq_learned_iff.1 hevent
  rw [List.take_add_one, hline, Option.toList_some, after_append, after_cons, after_nil,
    snd_process, hreply]
  rfl

end LineMachine
