/-
# Runs with a script

What a run with a script shows is told by the script and by two facts about the
rest: whether the corpus can be read, and whether the sample lines are asked
for.  The sample lines leave a name and a feedback in the machine that the
script then runs on, but no answer tells of either (`Program.runScript_eq`).

Of the failures the corpus comes first, and the sample lines stand between it
and the script: their output is there when the script cannot be opened, and
missing when the corpus cannot be read.
-/

import LineMachine.Proofs.Program.Stages

namespace LineMachine
namespace Program

open CommandLine

/-- **A run with a script** whose corpus, if there is one, can be read leaves the
same output, exit code and errors as any other run with the same script; with the
sample lines their output stands in front, and nothing else changes.  Without a
corpus that can be read there is no output, and without a script that can be
opened only that of the sample lines, if they are asked for; both runs fail.
How the two runs differ in their corpus, their prompt, and what is logged is of no
account. -/
theorem run_with_script {o o' : Options} {w w' : World} {args args' : List Text} {path : Text}
    (hargs : parse args = .ok (.run o)) (hargs' : parse args' = .ok (.run o'))
    (hpath : o.script = some path) (hpath' : o'.script = some path)
    (hscript : w.scriptAt path = w'.scriptAt path) :
    (ReadsCorpus o w → ReadsCorpus o' w' →
      (o.demo = o'.demo →
        (run args w).output = (run args' w').output ∧
        (run args w).exit = (run args' w').exit ∧
        (run args w).errors = (run args' w').errors) ∧
      (o.demo = false → o'.demo = true →
        (run args' w').output = Demo.output ++ (run args w).output ∧
        (run args' w').exit = (run args w).exit ∧
        (run args' w').errors = (run args w).errors)) ∧
    (¬ ReadsCorpus o w → (run args w).output = [] ∧ (run args w).exit = 1) ∧
    (ReadsCorpus o w → ∀ cause, w.scriptAt path = .error cause →
      (run args w).output = (if o.demo then Demo.output else []) ∧ (run args w).exit = 1) := by
  refine ⟨fun hreads hreads' => ?_, fun hreads => ?_, fun hreads cause hcause => ?_⟩
  · obtain ⟨hout, hexit, herrors⟩ := shows_of_script hargs hpath hreads
    obtain ⟨hout', hexit', herrors'⟩ := shows_of_script hargs' hpath' hreads'
    rw [← hscript] at hout' hexit' herrors'
    rw [hout, hexit, herrors, hout', hexit', herrors', demoOutput, demoOutput]
    refine ⟨fun hdemo => ?_, fun hdemo hdemo' => ?_⟩
    · rw [hdemo]
      exact ⟨rfl, rfl, rfl⟩
    · rw [hdemo, hdemo']
      exact ⟨rfl, rfl, rfl⟩
  · obtain ⟨e, hout, hexit, -⟩ := shows_of_not_readsCorpus hargs hreads
    exact ⟨hout, hexit⟩
  · obtain ⟨hout, hexit, -⟩ := shows_of_script hargs hpath hreads
    rw [hcause] at hout hexit
    exact ⟨hout.trans (List.append_nil _), hexit⟩

/-- Four runs among the same two files.  The script has a line that fails and ends
in a byte that is ill-formed; the second run has a corpus, the sample lines, a
prompt and a log besides; the third names a corpus that is missing, and the last a
script. -/
theorem run_with_script_four :
    let script := Utf8.encode "define x\nprint x\n".toList ++ [0xFF]
    let fs := FileSystem.ofList ["work".toList]
      [("c".toList, .file (Utf8.encode "reference\n".toList)), ("s".toList, .file script)]
    let plain := ["--script", "s"].map String.toList
    let more := ["-v", "--demo", "--corpus", "c", "--prompt", "> ", "--script", "s"].map String.toList
    let corpusGone := ["--demo", "--corpus", "gone", "--script", "s"].map String.toList
    let scriptGone := ["--demo", "--script", "gone"].map String.toList
    let w := World.ofFiles fs []
    ∃ a b c d, a = run plain (w plain) ∧
      b = run more { w more with logSetting := some "trace".toList } ∧
      c = run corpusGone (w corpusGone) ∧ d = run scriptGone (w scriptGone) ∧
      (b.output = Demo.output ++ a.output ∧ b.exit = a.exit ∧ b.errors = a.errors) ∧
      (c.output = [] ∧ c.exit = 1) ∧ d.output = Demo.output ∧ d.exit = 1 := by
  intro script fs plain more corpusGone scriptGone w
  let w' := { w more with logSetting := some "trace".toList }
  let o : Options := { script := some "s".toList }
  let o' : Options :=
    { o with corpus := some "c".toList, demo := true, prompt := some "> ".toList, verbose := true }
  let oc : Options := { o with corpus := some "gone".toList, demo := true }
  let od : Options := { script := some "gone".toList, demo := true }
  have ho : parse plain = .ok (.run o) := rfl
  have ho' : parse more = .ok (.run o') := rfl
  have hoc : parse corpusGone = .ok (.run oc) := rfl
  have hod : parse scriptGone = .ok (.run od) := rfl
  have hreads : ReadsCorpus o (w plain) := readsCorpus_of_none rfl
  have hreads' : ReadsCorpus o' w' := (readsCorpus_iff_of_some rfl).2 ⟨"reference\n".toList, rfl⟩
  have hreads_c : ¬ ReadsCorpus oc (w corpusGone) := by
    rw [readsCorpus_iff_of_some rfl]
    exact fun ⟨_, h⟩ => nomatch h
  have hreads_d : ReadsCorpus od (w scriptGone) := readsCorpus_of_none rfl
  have hscript : (w plain).scriptAt "s".toList = w'.scriptAt "s".toList := rfl
  have hscript_c : (w corpusGone).scriptAt "s".toList = w'.scriptAt "s".toList := rfl
  have hgone : (w scriptGone).scriptAt "gone".toList = .error .notFound := rfl
  obtain ⟨hdemo, -, -⟩ := run_with_script ho ho' rfl rfl hscript
  obtain ⟨-, hcorpus, -⟩ := run_with_script hoc ho' rfl rfl hscript_c
  obtain ⟨-, -, hopen⟩ := run_with_script hod hod rfl rfl (rfl : (w scriptGone).scriptAt _ = _)
  exact ⟨_, _, _, _, rfl, rfl, rfl, rfl, (hdemo hreads hreads').2 rfl rfl, hcorpus hreads_c,
    hopen hreads_d .notFound hgone⟩

end Program
end LineMachine
