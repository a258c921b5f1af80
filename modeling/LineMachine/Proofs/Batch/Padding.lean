/-
# Blanks around the lines of an input

Blanks may be put at both ends of the lines of an input, and `\r\n` in place of
`\n`, and a run does the same (`Batch.run_padded`).  The reader takes a carriage
return from some of these lines and not from others, so lines are compared by
their trims: trimmed, the lines that are run are the same ones
(`Text.Padded.map_trim_work`), and neither what a line does to a machine
(`Machine.after_congr_trim`) nor whether it is answered depends on more than its
trim.  A malformed definition is shown as it was read, and only there the blanks
can be seen.
-/

import LineMachine.Proofs.Batch.Answered
import LineMachine.Proofs.Command.Spacing

namespace LineMachine

/-! ### Trimmed lines -/

namespace Command

theorem snd_execute_keeping (t : Text) (c : Command) (b : Bindings) :
    ((c.keeping t).execute b).2 = (c.execute b).2 := by
  cases c <;> rfl

end Command

namespace Reply

/-- The reply with `t` for the line, where it names one. -/
def naming (t : Text) : Reply → Reply
  | .ok answer => .ok answer
  | .error _ => .error ⟨t⟩

@[simp] theorem failed_naming (t : Text) (r : Reply) : failed (naming t r) = failed r := by
  cases r <;> rfl

theorem hear_naming (f : Feedback) (t : Text) (r : Reply) : f.hear (naming t r) = f.hear r := by
  cases r <;> rfl

theorem naming_of_not_failed {t : Text} {r : Reply} (h : failed r = false) : naming t r = r := by
  cases r with
  | ok answer => rfl
  | error e => cases h

theorem naming_of_failed {t : Text} {r : Reply} (h : failed r) : naming t r = .error ⟨t⟩ := by
  cases r with
  | ok answer => cases h
  | error e => rfl

/-- A line gets the reply of its trim, except that it is named as it is. -/
theorem ofLine_eq_naming_trim (line : Text) : ofLine line = naming line (ofLine line.trim) := by
  rw [ofLine, ofLine, Command.ofLine_eq_keeping_trim line]
  cases Command.ofLine line.trim <;> rfl

theorem failed_ofLine_trim (line : Text) : failed (ofLine line.trim) = failed (ofLine line) := by
  rw [ofLine_eq_naming_trim line, failed_naming]

/-- A line without an answer is named as it is. -/
theorem ofLine_eq_error {line : Text} (h : failed (ofLine line)) : ofLine line = .error ⟨line⟩ := by
  rw [← failed_ofLine_trim] at h
  rw [ofLine_eq_naming_trim, naming_of_failed h]

theorem failed_ofLine_of_trim_eq {line line' : Text} (h : line'.trim = line.trim) :
    failed (ofLine line') = failed (ofLine line) := by
  rw [← failed_ofLine_trim, h, failed_ofLine_trim]

/-- A line with an answer shares it with all lines of its trim. -/
theorem ofLine_eq_of_trim_eq {line line' : Text} (h : line'.trim = line.trim)
    (hok : failed (ofLine line) = false) : ofLine line' = ofLine line := by
  rw [← failed_ofLine_trim] at hok
  rw [ofLine_eq_naming_trim line', ofLine_eq_naming_trim line, h, naming_of_not_failed hok,
    naming_of_not_failed hok]

/-- What is shown for a malformed definition. -/
theorem text_error (line : Text) :
    text (.error ⟨line⟩) = "error: malformed define, expected `name = value`: ".toList ++ line :=
  have hwords : "error: ".toList ++ "malformed define, expected `name = value`: ".toList =
      "error: malformed define, expected `name = value`: ".toList := by decide +kernel
  calc text (.error ⟨line⟩)
      = "error: ".toList ++ ("malformed define, expected `name = value`: ".toList ++ line) := rfl
    _ = "error: ".toList ++ "malformed define, expected `name = value`: ".toList ++ line :=
        (List.append_assoc ..).symm
    _ = "error: malformed define, expected `name = value`: ".toList ++ line :=
        congrArg (· ++ line) hwords

end Reply

namespace Machine

/-- A line does to a machine what its trim does. -/
theorem snd_process_trim (m : Machine) (line : Text) :
    (m.process line.trim).2 = (m.process line).2 := by
  rw [snd_process, snd_process, Command.ofLine_eq_keeping_trim line,
    Reply.ofLine_eq_naming_trim line, Command.snd_execute_keeping, Reply.hear_naming]

theorem after_map_trim (m : Machine) (lines : List Text) :
    m.after (lines.map Text.trim) = m.after lines := by
  induction lines generalizing m with
  | nil => rfl
  | cons line lines ih => rw [List.map_cons, after_cons, after_cons, snd_process_trim, ih]

end Machine

theorem Tally.ofReplies_map_trim (lines : List Text) :
    Tally.ofReplies ((lines.map Text.trim).map Reply.ofLine) =
      Tally.ofReplies (lines.map Reply.ofLine) := by
  simp only [Tally.ofReplies, List.length_map, List.countP_map, Function.comp_def,
    Reply.failed_ofLine_trim]

section

variable {lines lines' : List Text} (h : lines'.map Text.trim = lines.map Text.trim)
include h

/-- **Lines with the same trims leave the same machine,** -/
theorem Machine.after_congr_trim (m : Machine) : m.after lines' = m.after lines := by
  rw [← after_map_trim, h, after_map_trim]

/-- and they are counted the same. -/
theorem Tally.ofReplies_congr_trim :
    Tally.ofReplies (lines'.map Reply.ofLine) = Tally.ofReplies (lines.map Reply.ofLine) := by
  rw [← ofReplies_map_trim, h, ofReplies_map_trim]

theorem Text.trim_eq_of_getElem? {i : Nat} {line line' : Text} (hi : lines[i]? = some line)
    (hi' : lines'[i]? = some line') : line'.trim = line.trim := by
  have hat := congrArg (·[i]?) h
  simpa [hi, hi'] using hat

end

namespace Batch

/-- The lines that are run are those with something left of them. -/
theorem map_trim_work (lines : List Text) :
    (work lines).map Text.trim = (lines.map Text.trim).filter fun line => line ≠ [] := by
  rw [List.filter_map, work]
  refine congrArg (List.map Text.trim) (List.filter_congr fun line _ => ?_)
  cases h : line.blank <;> simp [Text.trim_eq_nil_iff, h]

end Batch

/-! ### Padded texts -/

namespace Text

open Command (Blanks)

/-- `Padded t u`: the text `u` is `t` with blanks other than newlines at both ends
of its lines, in any amounts.  What ends a line may be taken to be its `\n` or its
`\r\n`, so a carriage return at the end of a line can have blanks on either side. -/
inductive Padded : Text → Text → Prop
  /-- What no newline ends. -/
  | last {l : Text} (a b : Blanks) (hl : '\n' ∉ l) : Padded l (a.text ++ l ++ b.text)
  /-- A line, what ends it, and the text after it. -/
  | line {l sep t u : Text} (a b : Blanks) (hl : '\n' ∉ l)
      (hsep : sep = ['\n'] ∨ sep = ['\r', '\n']) (h : Padded t u) :
      Padded (l ++ sep ++ t) (a.text ++ l ++ b.text ++ sep ++ u)

theorem newline_not_mem_padded {l : Text} (a b : Blanks) (hl : '\n' ∉ l) :
    '\n' ∉ a.text ++ l ++ b.text := by
  simp [a.single, b.single, hl]

/-- A rest without text is no line, but to trim it leaves nothing as well. -/
theorem filter_map_trim_lines {l : Text} (hl : '\n' ∉ l) :
    (l.lines.map trim).filter (fun line => line ≠ []) = [l.trim].filter fun line => line ≠ [] := by
  rw [lines_of_not_mem hl]
  split
  · rename_i h
    rw [h]
    rfl
  · rfl

/-- **Padding keeps the lines that are run,** up to blanks at their ends. -/
theorem Padded.map_trim_work {t u : Text} (h : Padded t u) :
    (Batch.work u.lines).map trim = (Batch.work t.lines).map trim := by
  rw [Batch.map_trim_work, Batch.map_trim_work]
  induction h with
  | last a b hl =>
    rw [filter_map_trim_lines hl, filter_map_trim_lines (newline_not_mem_padded a b hl),
      trim_append_append a.blank b.blank]
  | line a b hl hsep h ih =>
    rw [map_lines_append_append trim_dropReturn hsep (newline_not_mem_padded a b hl),
      map_lines_append_append trim_dropReturn hsep hl, trim_append_append a.blank b.blank,
      List.filter_cons, List.filter_cons, ih]

/-- The text with `\r\n` for each `\n`. -/
def crlf (t : Text) : Text := t.flatMap fun c => if c = '\n' then ['\r', '\n'] else [c]

theorem crlf_of_not_mem {t : Text} (h : '\n' ∉ t) : crlf t = t := by
  induction t with
  | nil => rfl
  | cons c t ih =>
    rw [List.mem_cons, not_or] at h
    rw [crlf, List.flatMap_cons, if_neg (Ne.symm h.1)]
    exact congrArg (c :: ·) (ih h.2)

theorem crlf_append_cons {l : Text} (h : '\n' ∉ l) (t : Text) :
    crlf (l ++ '\n' :: t) = l ++ ['\r'] ++ '\n' :: crlf t := by
  have hl := crlf_of_not_mem h
  rw [crlf] at hl
  rw [crlf, List.flatMap_append, hl, List.flatMap_cons, if_pos rfl]
  simp [crlf]

/-- To end all lines with `\r\n` is to pad them. -/
theorem padded_crlf (t : Text) : Padded t t.crlf := by
  induction t using Lines.induction '\n' with
  | last t ht =>
    rw [crlf_of_not_mem ht]
    simpa using Padded.last {} {} ht
  | line l t hl ih =>
    rw [crlf_append_cons hl]
    simpa using Padded.line {} { text := ['\r'] } hl (.inl rfl) ih

/-- Lines without carriage returns are read from it as before. -/
theorem lines_crlf {t : Text} (h : '\r' ∉ t) : t.crlf.lines = t.lines := by
  induction t using Lines.induction '\n' with
  | last t ht => rw [crlf_of_not_mem ht]
  | line l t hl ih =>
    simp only [List.mem_append, List.mem_cons, not_or] at h
    have hdrop : dropReturn l = l := if_neg fun hlast => h.1 (List.mem_of_getLast? hlast)
    have hdrop' : dropReturn (l ++ ['\r']) = l := by simp [dropReturn]
    have hlr : '\n' ∉ l ++ ['\r'] := by simp [hl]
    rw [crlf_append_cons hl, lines_append_cons hlr, lines_append_cons hl, hdrop, hdrop', ih h.2.2]

end Text

/-! ### Runs over padded texts -/

namespace Batch

open Source (newline)

/-- The output for the lines of a text that are run, each on a line of its own. -/
theorem cut_output_work (t : Text) :
    Lines.cut newline (output (work t.lines)) =
      ((work t.lines).map fun line => Utf8.encode (Reply.text (Reply.ofLine line)), []) :=
  cut_output fun _ hl => Text.not_mem_of_mem_lines (List.mem_of_mem_filter hl)

/-- **Blanks around lines do not count.**  If blanks other than newlines are put at
both ends of the lines of a text, a run over it comes to the same tally, flushes
as often and leaves the same machine.  It runs as many lines and writes as many
lines of output; each line of output is the same, except that a malformed
definition is shown as it was read, with its blanks.  In particular `\n` may be
`\r\n` everywhere, and if there was no carriage return before, nothing at all
changes. -/
theorem run_padded (m : Machine) (t : Text) :
    (∀ u, t.Padded u →
      let lines := work t.lines
      let lines' := work u.lines
      let plain := run m (.ofText t) {}
      let padded := run m (.ofText u) {}
      let shown := Lines.cut newline plain.written
      let shown' := Lines.cut newline padded.written
      (∃ tally, plain.outcome = .ok tally ∧ padded.outcome = .ok tally) ∧
      padded.flushes = plain.flushes ∧ padded.machine = plain.machine ∧
      (shown.2 = [] ∧ shown'.2 = []) ∧
      (lines'.length = lines.length ∧ shown.1.length = lines.length ∧
        shown'.1.length = lines.length) ∧
      ∀ (i : Nat) line line', lines[i]? = some line → lines'[i]? = some line' →
        ((Reply.ofLine line).failed = false → shown'.1[i]? = shown.1[i]?) ∧
        ((Reply.ofLine line).failed →
          let named (l : Text) := "error: malformed define, expected `name = value`: ".toList ++ l
          shown.1[i]? = some (Utf8.encode (named line)) ∧
            shown'.1[i]? = some (Utf8.encode (named line')))) ∧
    t.Padded t.crlf ∧ ('\r' ∉ t → run m (.ofText t.crlf) {} = run m (.ofText t) {}) := by
  refine ⟨fun u h => ?_, Text.padded_crlf t, fun hr => ?_⟩
  · have htrim := h.map_trim_work
    have hlength : (work u.lines).length = (work t.lines).length := by
      simpa using congrArg List.length htrim
    dsimp only
    rw [run_ofText_eq, run_ofText_eq, cut_output_work, cut_output_work]
    refine ⟨⟨_, rfl, congrArg _ (Tally.ofReplies_congr_trim htrim)⟩, rfl,
      Machine.after_congr_trim htrim m, ⟨rfl, rfl⟩,
      ⟨hlength, List.length_map .., (List.length_map ..).trans hlength⟩,
      fun i line line' hi hi' => ?_⟩
    have hsame : line'.trim = line.trim := Text.trim_eq_of_getElem? htrim hi hi'
    simp only [List.getElem?_map, hi, hi', Option.map_some]
    refine ⟨fun hok => ?_, fun hfailed => ?_⟩
    · rw [Reply.ofLine_eq_of_trim_eq hsame hok]
    · have hfailed' : (Reply.ofLine line').failed := by
        rwa [Reply.failed_ofLine_of_trim_eq hsame]
      rw [Reply.ofLine_eq_error hfailed, Reply.ofLine_eq_error hfailed', Reply.text_error,
        Reply.text_error]
      exact ⟨rfl, rfl⟩
  · have hread : (Source.ofText t.crlf).read = (Source.ofText t).read := by
      rw [Source.read_ofText, Source.read_ofText, Text.lines_crlf hr]
    exact run_congr hread m {}

/-- Of two carriage returns the reader takes one, and the other one is shown with
the rest of the padding. -/
theorem run_padded_define :
    let t := "define y\r\nprint a".toList
    let u := "\u3000define y\r\r\nprint a\u2003".toList
    let plain := run {} (.ofText t) {}
    let padded := run {} (.ofText u) {}
    Text.Padded t u ∧ padded.outcome = plain.outcome ∧ padded.machine = plain.machine ∧
      (Lines.cut newline padded.written).1[0]? =
        some (Utf8.encode ("error: malformed define, expected `name = value`: ".toList ++
          "\u3000define y\r".toList)) ∧
      (Lines.cut newline padded.written).1[1]? = (Lines.cut newline plain.written).1[1]? := by
  intro t u plain padded
  have ht : "define y\r".toList ++ ['\n'] ++ "print a".toList = t := by decide +kernel
  have hu : ['\u3000'] ++ "define y\r".toList ++ ['\r'] ++ ['\n'] ++
      ([] ++ "print a".toList ++ ['\u2003']) = u := by decide +kernel
  have h : Text.Padded t u := by
    rw [← ht, ← hu]
    exact .line { text := ['\u3000'] } { text := ['\r'] } (by decide) (.inl rfl)
      (.last {} { text := ['\u2003'] } (by decide))
  obtain ⟨⟨tally, hplain, hpadded⟩, -, hmachine, -, -, hshown⟩ := (run_padded {} t).1 u h
  have hfirst := hshown 0 "define y".toList "\u3000define y\r".toList (by decide +kernel)
    (by decide +kernel)
  have hsecond := hshown 1 "print a".toList "print a\u2003".toList (by decide +kernel)
    (by decide +kernel)
  exact ⟨h, hpadded.trans hplain.symm, hmachine, (hfirst.2 (by decide +kernel)).2,
    hsecond.1 (by decide +kernel)⟩

end Batch
end LineMachine
