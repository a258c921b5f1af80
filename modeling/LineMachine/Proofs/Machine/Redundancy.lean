/-
# Lines that do not count

Lines can be run in another order, as long as those that define the same name
stay in theirs, and lines can be left out that define nothing, or a name that a
later line defines: the bindings come out the same
(`Machine.reorder_and_leave_out`).  What is then left has one line for each
name, and its order does not count at all.

Lines define the same name if they are read so, however they are written:
`define x = 1`, `definex=2` and `x define = 3` do.
-/

import LineMachine.Proofs.Machine.Memory
import LineMachine.Proofs.Order

namespace LineMachine
namespace Command

/-- The name that a line defines, if it defines one. -/
def definedName? (line : Text) : Option Text := (ofLine line).definition?.map Prod.fst

/-- The lines define one and the same name. -/
def DefineSame (line line' : Text) : Prop :=
  (definedName? line).isSome ∧ definedName? line = definedName? line'

instance (line line' : Text) : Decidable (DefineSame line line') :=
  inferInstanceAs (Decidable (_ ∧ _))

end Command

namespace Machine

open Command (definedName? DefineSame)

variable {name : Text} {lines lines' : List Text}

/-- The names that lines define, in order. -/
theorem map_fst_definitions (lines : List Text) :
    (definitions lines).map Prod.fst = lines.filterMap definedName? :=
  List.map_filterMap ..

theorem definitions_cons_of_none {line : Text} (h : definedName? line = none)
    (lines : List Text) : definitions (line :: lines) = definitions lines :=
  List.filterMap_cons_none (Option.map_eq_none_iff.1 h)

theorem exists_definitions_cons {line : Text} (h : definedName? line = some name) :
    ∃ value, ∀ lines, definitions (line :: lines) = (name, value) :: definitions lines := by
  obtain ⟨⟨_, value⟩, hd, rfl⟩ := Option.map_eq_some_iff.1 h
  exact ⟨value, fun lines => List.filterMap_cons_some hd⟩

/-! ### Another order -/

/-- The lines that define a name, in order. -/
def defining (name : Text) (lines : List Text) : List Text :=
  lines.filter fun line => definedName? line = some name

/-- They define what is defined of the name. -/
theorem definitions_defining (name : Text) (lines : List Text) :
    definitions (defining name lines) = (definitions lines).filter fun d => d.1 = name := by
  rw [definitions, definitions, defining, List.filter_filterMap, List.filterMap_filter]
  refine List.filterMap_congr fun line _ => ?_
  rw [definedName?]
  cases h : (Command.ofLine line).definition? with
  | none => simp
  | some d => simp [Option.filter]

/-- **Lines that agree name by name** leave the same bindings. -/
theorem bindings_after_congr (h : ∀ name, defining name lines = defining name lines')
    (m : Machine) : (m.after lines).bindings = (m.after lines').bindings := by
  rw [after_eq, after_eq]
  refine Bindings.setAll_congr (fun name => ?_) m.bindings
  rw [← definitions_defining, ← definitions_defining, h]

/-- The other order leaves lines that define the same name in theirs. -/
def KeepsDefinitions (lines : List Text) (σ : Equiv.Perm (Fin lines.length)) : Prop :=
  ∀ i j, i < j → DefineSame (lines.get (σ i)) (lines.get (σ j)) → σ i < σ j

instance (lines : List Text) (σ : Equiv.Perm (Fin lines.length)) :
    Decidable (KeepsDefinitions lines σ) :=
  inferInstanceAs (Decidable (∀ _ _, _ → _ → _))

/-- The lines that define one name are the same, and in the same order. -/
theorem defining_permuted {σ : Equiv.Perm (Fin lines.length)} (h : KeepsDefinitions lines σ)
    (name : Text) : defining name (permuted lines σ) = defining name lines := by
  refine filter_permuted fun i j hij hi hj => h i j hij ?_
  have hi := of_decide_eq_true hi
  exact ⟨by rw [hi]; rfl, hi.trans (of_decide_eq_true hj).symm⟩

/-! ### Fewer lines -/

/-- The lines without those that define nothing, and without those that define the
same name as a later line. -/
def lasting : List Text → List Text
  | [] => []
  | line :: lines =>
    if (definedName? line).isNone ∨ ∃ later ∈ lines, DefineSame line later then lasting lines
    else line :: lasting lines

section

variable {line : Text}

theorem exists_defineSame_iff (h : definedName? line = some name) (lines : List Text) :
    (∃ later ∈ lines, DefineSame line later) ↔ name ∈ lines.filterMap definedName? := by
  simp [DefineSame, h, List.mem_filterMap, eq_comm]

theorem lasting_cons_of_none (h : definedName? line = none) (lines : List Text) :
    lasting (line :: lines) = lasting lines :=
  if_pos (.inl (Option.isNone_iff_eq_none.2 h))

theorem lasting_cons_of_mem (h : definedName? line = some name)
    (hmem : name ∈ lines.filterMap definedName?) : lasting (line :: lines) = lasting lines :=
  if_pos (.inr ((exists_defineSame_iff h lines).2 hmem))

theorem lasting_cons_of_not_mem (h : definedName? line = some name)
    (hmem : name ∉ lines.filterMap definedName?) :
    lasting (line :: lines) = line :: lasting lines := by
  refine if_neg (not_or.2 ⟨?_, mt (exists_defineSame_iff h lines).1 hmem⟩)
  simp [h]

end

/-- Lines are put in front one at a time: one that defines nothing, one whose name
is defined again, or one that lasts. -/
@[elab_as_elim]
theorem lasting_induction {motive : List Text → Prop} (nil : motive [])
    (nothing : ∀ line lines, definedName? line = none → motive lines → motive (line :: lines))
    (again : ∀ line lines name, definedName? line = some name →
      name ∈ lines.filterMap definedName? → motive lines → motive (line :: lines))
    (last : ∀ line lines name, definedName? line = some name →
      name ∉ lines.filterMap definedName? → motive lines → motive (line :: lines))
    (lines : List Text) : motive lines := by
  induction lines with
  | nil => exact nil
  | cons line lines ih =>
    cases hname : definedName? line with
    | none => exact nothing line lines hname ih
    | some name =>
      by_cases hmem : name ∈ lines.filterMap definedName?
      · exact again line lines name hname hmem ih
      · exact last line lines name hname hmem ih

theorem lasting_sublist (lines : List Text) : (lasting lines).Sublist lines := by
  induction lines using lasting_induction with
  | nil => exact List.Sublist.slnil
  | nothing line lines hnone ih =>
    rw [lasting_cons_of_none hnone]
    exact ih.cons line
  | again line lines name hname hmem ih =>
    rw [lasting_cons_of_mem hname hmem]
    exact ih.cons line
  | last line lines name hname hmem ih =>
    rw [lasting_cons_of_not_mem hname hmem]
    exact ih.cons_cons line

/-- **What is left out does not count.** -/
theorem setAll_definitions_lasting (lines : List Text) (b : Bindings) :
    b.setAll (definitions (lasting lines)) = b.setAll (definitions lines) := by
  induction lines using lasting_induction generalizing b with
  | nil => rfl
  | nothing line lines hnone ih =>
    rw [lasting_cons_of_none hnone, definitions_cons_of_none hnone, ih]
  | again line lines name hname hmem ih =>
    obtain ⟨value, hline⟩ := exists_definitions_cons hname
    have hlater : name ∈ (definitions lines).map Prod.fst := by rwa [map_fst_definitions]
    rw [lasting_cons_of_mem hname hmem, hline, ih, Bindings.setAll_cons,
      Bindings.setAll_set_of_mem hlater]
  | last line lines name hname hmem ih =>
    obtain ⟨value, hline⟩ := exists_definitions_cons hname
    rw [lasting_cons_of_not_mem hname hmem, hline, hline, Bindings.setAll_cons,
      Bindings.setAll_cons, ih]

/-- No name is defined twice by what is left. -/
theorem nodup_filterMap_lasting (lines : List Text) :
    ((lasting lines).filterMap definedName?).Nodup := by
  induction lines using lasting_induction with
  | nil => exact List.nodup_nil
  | nothing line lines hnone ih => rwa [lasting_cons_of_none hnone]
  | again line lines name hname hmem ih => rwa [lasting_cons_of_mem hname hmem]
  | last line lines name hname hmem ih =>
    rw [lasting_cons_of_not_mem hname hmem, List.filterMap_cons_some hname, List.nodup_cons]
    exact ⟨fun h => hmem (((lasting_sublist lines).filterMap definedName?).subset h), ih⟩

/-- **A line is left for each name that is defined.** -/
theorem length_lasting (lines : List Text) :
    (lasting lines).length = (lines.filterMap definedName?).toFinset.card := by
  induction lines using lasting_induction with
  | nil => rfl
  | nothing line lines hnone ih =>
    rw [lasting_cons_of_none hnone, ih, List.filterMap_cons_none hnone]
  | again line lines name hname hmem ih =>
    rw [lasting_cons_of_mem hname hmem, ih, List.filterMap_cons_some hname, List.toFinset_cons,
      Finset.insert_eq_of_mem (List.mem_toFinset.2 hmem)]
  | last line lines name hname hmem ih =>
    rw [lasting_cons_of_not_mem hname hmem, List.length_cons, ih, List.filterMap_cons_some hname,
      List.toFinset_cons, Finset.card_insert_of_notMem (mt List.mem_toFinset.1 hmem)]

/-- What is left comes to the same in any order. -/
theorem bindings_after_of_perm_lasting (h : lines'.Perm (lasting lines)) (m : Machine) :
    (m.after lines').bindings = (m.after lines).bindings := by
  have hp : (definitions (lasting lines)).Perm (definitions lines') := h.symm.filterMap _
  have hn : ((definitions (lasting lines)).map Prod.fst).Nodup := by
    rw [map_fst_definitions]
    exact nodup_filterMap_lasting lines
  rw [after_eq, after_eq]
  calc m.bindings.setAll (definitions lines')
      = m.bindings.setAll (definitions (lasting lines)) :=
        (Bindings.setAll_eq_of_perm hp hn m.bindings).symm
    _ = m.bindings.setAll (definitions lines) := setAll_definitions_lasting lines m.bindings

/-- **Which lines count, and when their order does.**  Whatever the machine holds,
lines leave the same bindings in another order that keeps lines in theirs which
define the same name, and without the lines that define nothing or a name that a
later line defines.  Of what is left then the order does not count, and if
nothing was bound at first there are as many lines as names that are bound. -/
theorem reorder_and_leave_out (m : Machine) (lines : List Text) :
    let bindings := (m.after lines).bindings
    (∀ σ, KeepsDefinitions lines σ → (m.after (permuted lines σ)).bindings = bindings) ∧
    (m.after (lasting lines)).bindings = bindings ∧
    (m.bindings = ∅ → (lasting lines).length = bindings.size) ∧
    ∀ lines', lines'.Perm (lasting lines) → (m.after lines').bindings = bindings := by
  intro bindings
  refine ⟨fun σ h => ?_, ?_, fun hm => ?_, fun lines' h => ?_⟩
  · exact bindings_after_congr (defining_permuted h) m
  · exact bindings_after_of_perm_lasting (List.Perm.refl _) m
  · have hb : bindings = Bindings.setAll ∅ (definitions lines) := by
      simp only [bindings, after_eq, hm]
    rw [hb, Bindings.size_setAll_empty, map_fst_definitions, length_lasting]
  · exact bindings_after_of_perm_lasting h m

/-- The line that prints can change places with one that defines another name,
though not the two that define `a`, and three of five lines can be left out. -/
theorem reorder_and_leave_out_five :
    let lines := ["define a = 1", "print a", "definea=2", "b define = 3", "define b"].map
      String.toList
    let swap (i j : Fin 5) : Equiv.Perm (Fin lines.length) := Equiv.swap i j
    KeepsDefinitions lines (swap 1 3) ∧ ¬ KeepsDefinitions lines (swap 0 2) ∧
      lasting lines = ["definea=2".toList, "b define = 3".toList] ∧
      (({} : Machine).after (permuted lines (swap 1 3))).bindings =
        (({} : Machine).after lines).bindings ∧
      (({} : Machine).after lines).bindings.size = 2 := by
  intro lines swap
  have hkeep : KeepsDefinitions lines (swap 1 3) := by decide +kernel
  have hnot : ¬ KeepsDefinitions lines (swap 0 2) := by decide +kernel
  have hleft : lasting lines = ["definea=2".toList, "b define = 3".toList] := by decide +kernel
  obtain ⟨horder, -, hsize, -⟩ := reorder_and_leave_out {} lines
  have hsize := hsize rfl
  rw [hleft] at hsize
  exact ⟨hkeep, hnot, hleft, horder _ hkeep, hsize.symm⟩

end Machine
end LineMachine
