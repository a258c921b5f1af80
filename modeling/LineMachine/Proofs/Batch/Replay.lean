/-
# Bindings written out as lines

Bindings are written out as one definition for each name, in any order and with
any blanks around the parts, and read back from these lines by a new machine
(`Batch.run_written`).  Names and values may hold `define`, values also `=`, and
both may be empty; all that has to be kept out of them is what a line cannot
carry: blanks at their ends, newlines, `=` in a name, and `print`, with which a
line is no definition any more.
-/

import LineMachine.Proofs.Batch.Executed
import LineMachine.Proofs.Bindings.Lookup
import LineMachine.Proofs.Command.Spacing
import LineMachine.Proofs.Machine.Memory

namespace LineMachine
namespace Command

variable {line : Text} {d : Text × Text}

/-- A line that defines something is not blank. -/
theorem not_blank_of_definition (h : (ofLine line).definition? = some d) : ¬ line.blank := by
  obtain ⟨-, a, b, -, -, hcut, -⟩ := ofLine_eq_define_iff.1 (definition?_eq_some_iff.1 h)
  intro hb
  refine Text.not_mem_of_blank hb (c := 'd') (by decide) ?_
  rw [Text.eq_append_of_cut? hcut]
  exact List.mem_append_left b (List.mem_append_right a (by decide))

/-- It is answered. -/
theorem failed_of_definition (h : (ofLine line).definition? = some d) :
    (Reply.ofLine line).failed = false := by
  rw [Reply.ofLine, definition?_eq_some_iff.1 h]
  rfl

/-- A name and a value that a line can carry. -/
def Writable (name value : Text) : Prop :=
  (name.trim = name ∧ value.trim = value) ∧ ('\n' ∉ name ∧ '\n' ∉ value) ∧
    (¬ printKey <:+: name ∧ ¬ printKey <:+: value) ∧ '=' ∉ name

instance (name value : Text) : Decidable (Writable name value) :=
  inferInstanceAs (Decidable (_ ∧ _))

end Command

namespace Batch

open Command (Spacing Writable printKey)

/-- **A run over definitions** makes them all, in order. -/
theorem run_of_definitions {t : Text} {ds : List (Text × Text)}
    (h : (t.lines.map fun line => (Command.ofLine line).definition?) = ds.map some) (m : Machine) :
    let r := run m (.ofText t) {}
    r.outcome = .ok { processed := ds.length, failed := 0 } ∧
      r.machine.bindings = m.bindings.setAll ds := by
  intro r
  have hline : ∀ line ∈ t.lines, ∃ d, (Command.ofLine line).definition? = some d := by
    intro line hl
    have hm := List.mem_map_of_mem (f := fun line => (Command.ofLine line).definition?) hl
    rw [h] at hm
    obtain ⟨d, -, hd⟩ := List.mem_map.1 hm
    exact ⟨d, hd.symm⟩
  have hwork : work t.lines = t.lines := by
    refine List.filter_eq_self.2 fun line hl => ?_
    obtain ⟨d, hd⟩ := hline line hl
    simpa using Command.not_blank_of_definition hd
  have hfailed : (t.lines.map Reply.ofLine).countP Reply.failed = 0 := by
    rw [List.countP_map, List.countP_eq_zero]
    intro line hl
    obtain ⟨d, hd⟩ := hline line hl
    simpa using Command.failed_of_definition hd
  have hdefinitions : Machine.definitions t.lines = ds := by
    have hid := congrArg (List.filterMap id) h
    rw [List.filterMap_map, List.filterMap_map] at hid
    exact hid.trans List.filterMap_some
  have hlength : t.lines.length = ds.length := by
    simpa using congrArg List.length h
  have hr : r = _ := run_ofText_eq m t
  rw [hr, hwork, Machine.after_eq, hdefinitions, Tally.ofReplies, hfailed, List.length_map,
    hlength]
  exact ⟨rfl, rfl⟩

/-- The lines that define pairs of a name and a value, with blanks around the parts. -/
def definitionLines (spacing : Text × Text → Spacing) (ds : List (Text × Text)) : List Text :=
  ds.map fun d => (spacing d).define d.1 d.2

variable {ds : List (Text × Text)} (spacing : Text × Text → Spacing)

/-- Joined lines that define writable pairs are read as definitions of these pairs. -/
theorem definition?_lines_joinWith (h : ∀ d ∈ ds, Writable d.1 d.2) {sep : Text}
    (hsep : sep = ['\n'] ∨ sep = ['\r', '\n']) :
    ((Text.joinWith sep (definitionLines spacing ds)).lines.map fun line =>
      (Command.ofLine line).definition?) = ds.map some := by
  have hread : ∀ d ∈ ds, (Command.ofLine ((spacing d).define d.1 d.2)).definition? = some d := by
    intro d hd
    obtain ⟨⟨hname, hvalue⟩, -, ⟨hp, hp'⟩, heq⟩ := h d hd
    rw [(spacing d).ofLine_define hname hvalue heq hp hp']
    rfl
  have hsingle : ∀ line ∈ definitionLines spacing ds, line ≠ [] ∧ '\n' ∉ line := by
    intro line hl
    obtain ⟨d, hd, rfl⟩ := List.mem_map.1 hl
    obtain ⟨-, ⟨hname, hvalue⟩, -⟩ := h d hd
    refine ⟨fun hnil => Command.not_blank_of_definition (hread d hd) ?_,
      (spacing d).newline_not_mem_define hname hvalue⟩
    rw [hnil]
    rfl
  rw [Text.map_lines_joinWith Command.definition?_ofLine_dropReturn hsep hsingle, definitionLines,
    List.map_map]
  exact List.map_congr_left hread

/-- **Bindings that are written out are read back.**  If lines can carry all names
and values, then one definition for each name, in any order, with any blanks
around the parts, and with `\n` or `\r\n` between the lines, gives a new machine
the same bindings; every line counts and none fails.  A definition with `print`
in its name or its value leaves any machine's bindings as they are. -/
theorem run_written (corpus : Corpus) (b : Bindings) (spacing : Text × Text → Spacing) :
    ((∀ d ∈ b.toList, Writable d.1 d.2) → ∀ ds, ds.Perm b.toList →
      ∀ sep, sep = ['\n'] ∨ sep = ['\r', '\n'] →
        let r := run { corpus } (.ofText (Text.joinWith sep (definitionLines spacing ds))) {}
        r.outcome = .ok { processed := b.size, failed := 0 } ∧ r.machine.bindings = b) ∧
    ∀ d : Text × Text, printKey <:+: d.1 ∨ printKey <:+: d.2 → ∀ m : Machine,
      (m.process ((spacing d).define d.1 d.2)).2.bindings = m.bindings := by
  refine ⟨fun h ds hds sep hsep => ?_, fun d hd m => ?_⟩
  · have hw : ∀ d ∈ ds, Writable d.1 d.2 := fun d hd => h d (hds.subset hd)
    have hnames : (ds.map Prod.fst).Nodup := (hds.map Prod.fst).nodup_iff.2 b.nodup_map_fst
    obtain ⟨ho, hm⟩ := run_of_definitions (definition?_lines_joinWith spacing hw hsep) { corpus }
    rw [Bindings.setAll_eq_of_perm hds hnames, Bindings.setAll_toList] at hm
    rw [hds.length_eq] at ho
    exact ⟨ho, hm⟩
  · obtain ⟨payload, hline⟩ := (spacing d).exists_ofLine_define_eq_print hd
    rw [Machine.snd_process, hline]
    rfl

/-- A name and a value may hold `define`, and a value `=`; a name may be empty. -/
theorem run_written_two :
    let b := ((∅ : Bindings).set "define".toList "a = define".toList).set [] "b".toList
    let lines := ["definedefine\t\r=a = define".toList, "define\t\r=b".toList]
    (∀ d ∈ b.toList, Writable d.1 d.2) ∧
      (∃ r, r = run {} (.ofText (Text.joinWith ['\r', '\n'] lines)) {} ∧
        r.outcome = .ok { processed := 2, failed := 0 } ∧ r.machine.bindings = b) ∧
      ∀ m : Machine, (m.process "definex\t\r=print".toList).2.bindings = m.bindings := by
  intro b lines
  let spacing : Text × Text → Spacing := fun _ => { afterName := { text := ['\t', '\r'] } }
  let ds := [("define".toList, "a = define".toList), ([], "b".toList)]
  have hb : ∀ d ∈ b.toList, Writable d.1 d.2 := by decide +kernel
  have hds : ds.Perm b.toList := by decide +kernel
  have hlines : definitionLines spacing ds = lines := by decide +kernel
  have hsize : b.size = 2 := by decide +kernel
  have hline : (spacing ("x".toList, "print".toList)).define "x".toList "print".toList =
      "definex\t\r=print".toList := by decide +kernel
  obtain ⟨hread, hkeep⟩ := run_written {} b spacing
  have hwritten := hread hb ds hds ['\r', '\n'] (.inr rfl)
  have hprint := hkeep ("x".toList, "print".toList) (.inr (by decide))
  rw [hlines, hsize] at hwritten
  rw [hline] at hprint
  exact ⟨hb, ⟨_, rfl, hwritten⟩, hprint⟩

end Batch
end LineMachine
