/-
# One line of output for each line

What a run writes for a line ends with a newline and has no other, so the output
has a line for each line that was run, and at the same place: none is written
twice, none is left out, and an answer without text still has its line.  Cutting
the output at its newlines gives the replies back (`Batch.run_ofText`).
-/

import LineMachine.Proofs.Batch.Executed
import LineMachine.Proofs.Command.Response
import LineMachine.Proofs.Source.OfText

namespace LineMachine

open Source (newline)

/-- The bytes of a reply are those of its text, and a newline. -/
theorem Reply.bytes_eq (r : Reply) : Reply.bytes r = Utf8.encode (Reply.text r) ++ [newline] := by
  rw [Reply.bytes, Reply.line_eq, Utf8.encode_append]
  rfl

namespace Batch

variable {lines : List Text}

theorem output_eq_flatMap (lines : List Text) :
    output lines =
      (lines.map fun line => Utf8.encode (Reply.text (Reply.ofLine line))).flatMap
        (· ++ [newline]) := by
  rw [List.flatMap_map, output]
  exact congrArg (fun f => lines.flatMap f) (funext fun line => Reply.bytes_eq _)

/-- **The output of single lines is cut into their replies.** -/
theorem cut_output (h : ∀ line ∈ lines, '\n' ∉ line) :
    Lines.cut newline (output lines) =
      (lines.map fun line => Utf8.encode (Reply.text (Reply.ofLine line)), []) := by
  rw [output_eq_flatMap]
  refine Lines.cut_flatMap fun b hb => ?_
  obtain ⟨line, hl, rfl⟩ := List.mem_map.1 hb
  exact mt Source.newline_mem_encode_iff.1 (Reply.newline_not_mem_text (h line hl))

/-- It has as many newlines as there are lines. -/
theorem count_output (h : ∀ line ∈ lines, '\n' ∉ line) :
    (output lines).count newline = lines.length := by
  rw [← Lines.length_cut, cut_output h, List.length_map]

theorem getLast?_output (h : lines ≠ []) : (output lines).getLast? = some newline := by
  obtain ⟨last, hlast⟩ := Option.ne_none_iff_exists'.1 (mt List.getLast?_eq_none_iff.1 h)
  obtain ⟨init, rfl⟩ := List.getLast?_eq_some_iff.1 hlast
  rw [output_append, output_cons, output_nil, List.append_nil, Reply.bytes_eq,
    ← List.append_assoc, List.getLast?_concat]

/-- The tally of lines: all of them, and those that are malformed definitions. -/
theorem ofReplies_map_ofLine (lines : List Text) :
    Tally.ofReplies (lines.map Reply.ofLine) =
      { processed := lines.length
        failed := lines.countP fun line => Command.defineKey <:+: line ∧
          ¬ Command.printKey <:+: line ∧ '=' ∉ line } := by
  rw [Tally.ofReplies, List.length_map, List.countP_map]
  congr 1
  refine List.countP_congr fun line _ => ?_
  rw [decide_eq_true_iff]
  exact Reply.failed_ofLine_iff

/-- **One line of output for each line.**  A run over the bytes of a text runs the
lines of the text that are not blank, counts them, and counts among them those
with `define`, without `print` and without `=`.  The output has a newline for
each line, ends with one if there is a line at all, and is cut at them into what
the lines are answered with: the answer, or `error: ` and the message. -/
theorem run_ofText (m : Machine) (t : Text) :
    let lines := t.lines.filter fun line => !line.blank
    let r := run m (.ofText t) {}
    r.outcome = .ok
      { processed := lines.length
        failed := lines.countP fun line => Command.defineKey <:+: line ∧
          ¬ Command.printKey <:+: line ∧ '=' ∉ line } ∧
    r.written.count newline = lines.length ∧
    (lines ≠ [] → r.written.getLast? = some newline) ∧
    Lines.cut newline r.written =
      ((m.replies lines).map fun reply => Utf8.encode (Reply.text reply), []) := by
  intro lines r
  have hread := Source.read_ofText t
  have hr : r = _ := run_of_read_eq_none (by rw [hread]) m
  rw [hread] at hr
  have hsingle : ∀ line ∈ lines, '\n' ∉ line := fun line hl =>
    Text.not_mem_of_mem_lines (List.mem_of_mem_filter hl)
  rw [hr, Machine.replies_eq_map, List.map_map]
  refine ⟨?_, count_output hsingle, fun h => getLast?_output h, cut_output hsingle⟩
  exact congrArg Except.ok (ofReplies_map_ofLine lines)

/-- An answer without text has its line, a blank line has none. -/
example : (run {} (.ofText "print\n \ndefine y".toList) {}).written =
    Utf8.encode "\nerror: malformed define, expected `name = value`: define y\n".toList := by
  decide +kernel

end Batch
end LineMachine
