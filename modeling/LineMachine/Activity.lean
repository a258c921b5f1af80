/-
# Activities

A part of a program's run writes output, tells events, and comes to a result or
a failure.  One part follows another if the first did not fail
(`Activity.andThen`); what the first wrote and told stays.
-/

import LineMachine.Log.Event

namespace LineMachine

/-- What a part of a run leaves behind. -/
structure Activity (α : Type) where
  output : Bytes := []
  events : List Log.Event := []
  result : Except Failure α

namespace Activity

variable {α β : Type}

/-- Comes to a result at once. -/
def pure (a : α) : Activity α := { result := .ok a }

/-- Fails at once. -/
def fail (f : Failure) : Activity α := { result := .error f }

/-- Tells an event and comes to a result. -/
def tell (e : Log.Event) (a : α) : Activity α := { events := [e], result := .ok a }

/-- One part after another, which sees the result of the first. -/
def andThen (x : Activity α) (f : α → Activity β) : Activity β :=
  match x.result with
  | .error e => { output := x.output, events := x.events, result := .error e }
  | .ok a =>
    { output := x.output ++ (f a).output
      events := x.events ++ (f a).events
      result := (f a).result }

@[simp] theorem fail_andThen (e : Failure) (f : α → Activity β) :
    (fail e).andThen f = fail e := rfl

end Activity

/-- A run over many lines as a part of a larger run. -/
def Batch.Report.activity (r : Batch.Report) : Activity (Machine × Tally) where
  output := r.written
  events := r.replies.map Log.Event.ofReply
  result := r.outcome.map fun tally => (r.machine, tally)

end LineMachine
