/-
# Runs through a pipe

A run that reads bytes from a pipe and a run that has them for a script read
the same lines, skip the same ones as blank, and end the same way: a line goes
up to its newline and is checked when it is read, in either.  So both leave the
same output and the same exit code.

Three things can set them apart.  A terminal that does no editing has the prompt
shown between the responses.  A backspace is carried out in a session and kept in a
script; bytes without the one byte of a backspace have no line with one
(`Program.entered_lines`).  And a corpus that is the standard input is read before
the session, and leaves it nothing.

Neither run comes to its lines if a corpus is named that cannot be read
(`Program.piped_with_corpus`).
-/

import LineMachine.Proofs.Program.Stages
import LineMachine.Proofs.Source.OfText

namespace LineMachine
namespace FileSystem

variable {fs : FileSystem} {path : Text}

theorem openPath_of_isInput (h : fs.isInput path) (s : Source) : fs.openPath s path = .ok s := by
  rw [isInput] at h
  split at h
  · rename_i hpath
    rw [openPath, hpath]
    rfl
  · cases h

/-- What is left of the standard input counts for nothing else. -/
theorem openPath_of_not_isInput (h : ¬ fs.isInput path) (s s' : Source) :
    fs.openPath s path = fs.openPath s' path := by
  rw [isInput] at h
  rw [openPath, openPath]
  cases hpath : fs.resolve path with
  | error cause => rfl
  | ok entry =>
    cases entry with
    | file content => rfl
    | directory => rfl
    | input => simp [hpath] at h

end FileSystem

namespace Program

open CommandLine
open Utf8 (WellFormed encode)

/-- What a session enters is what it reads if the bytes that are read hold no backspace. -/
theorem entered_lines {b : Bytes} (hb : 0x08 ∉ b) {t : Text} (ht : Source.readable b = encode t) :
    Session.entered t.lines = t.lines := by
  have hkey : Backspace.key ∉ t := by
    intro hmem
    have hbyte : 0x08 ∈ encode t := (Utf8.mem_encode_iff (by decide)).2 hmem
    exact hb ((Source.readable_prefix b).subset (ht ▸ hbyte))
  exact Session.entered_of_not_mem fun line hl hm => hkey (Text.mem_of_mem_lines hl hm)

/-! ### What is left of the standard input -/

section

variable {o : Options} {fs : FileSystem} {b : Bytes}

theorem World.input_ofFiles {args : List Text} (hargs : parse args = .ok (.run o)) :
    (World.ofFiles fs b args).input =
      { bytes := if o.corpus.any fs.isInput then [] else b } := by
  have hnamed : corpusPath? args = o.corpus := by rw [corpusPath?, hargs]
  rw [← hnamed]
  rfl

/-- What is on the standard input counts for a corpus only if it is the corpus. -/
theorem openPath_corpus {input : Bytes} (hinput : o.corpus.any fs.isInput → input = b) :
    ∀ corpus ∈ o.corpus,
      fs.openPath { bytes := input } corpus = fs.openPath { bytes := b } corpus := by
  intro corpus hmem
  by_cases hin : fs.isInput corpus
  · rw [hinput (by rw [Option.mem_def.1 hmem]; exact hin)]
  · exact FileSystem.openPath_of_not_isInput hin _ _

/-- A corpus that is the standard input is the bytes on it, and they are well-formed if
it can be read. -/
theorem wellFormed_of_readsCorpus {w : World} (hreads : ReadsCorpus o w)
    (hin : o.corpus.any fs.isInput) (hopen : w.corpusAt = fs.openPath { bytes := b }) :
    WellFormed b := by
  obtain ⟨path, hpath, hin⟩ := (Option.any_eq_true ..).1 hin
  obtain ⟨text, htext⟩ := hreads path hpath
  rw [hopen, FileSystem.openPath_of_isInput hin] at htext
  cases htext
  exact Utf8.wellFormed_encode text

end

/-! ### Either run -/

section

variable {o : Options} {w : World} {args : List Text} {b : Bytes} {t : Text}
  (hargs : parse args = .ok (.run o)) (hreads : ReadsCorpus o w)
  (hread : Source.read { bytes := b } = (t.lines, if WellFormed b then none else some .illFormed))
include hargs hreads hread

/-- A session over bytes without a backspace. -/
theorem run_of_input (hnone : o.script = none) (hinput : w.input = { bytes := b })
    (hb : 0x08 ∉ b) (ht : Source.readable b = encode t) :
    let prompt := Session.shownPrompt w.terminal o.promptText
    (run args w).exit = (if WellFormed b then 0 else 1) ∧
      (run args w).output =
        demoOutput o ++ (t.lines.flatMap fun line => prompt ++ Session.response line) ++
          prompt := by
  obtain ⟨hout, hexit, -⟩ := shows_of_session hargs hnone hreads
  rw [hinput, sessionOutput, hread, entered_lines hb ht] at hout
  rw [hinput, hread] at hexit
  refine ⟨?_, hout.trans (List.append_assoc ..).symm⟩
  rw [hexit]
  split <;> rfl

/-- A script of these bytes. -/
theorem run_of_script {path : Text} (hpath : o.script = some path)
    (hscript : w.scriptAt path = .ok { bytes := b }) :
    (run args w).exit = (if WellFormed b then 0 else 1) ∧
      (run args w).output = demoOutput o ++ t.lines.flatMap Session.response := by
  obtain ⟨hout, hexit, -⟩ := shows_of_script hargs hpath hreads
  rw [hscript, scriptOutput, hread, ← Session.flatMap_response] at hout
  rw [hscript, scriptFailure?, hread] at hexit
  refine ⟨?_, hout⟩
  rw [hexit]
  split <;> rfl

end

/-- **Through a pipe or as a script** bytes without a backspace lead to the same exit
code, with all other options the same, the terminal and the log.  If the corpus can be
read, or none is named, the exit code tells whether the bytes are well-formed.  The
output of the script is the responses to the lines of the text before the first
ill-formed line, after that of the sample lines.  The session has the same output,
unless the terminal does no editing: then the prompt stands before every response, and
once more at the end.  A corpus that is the standard input leaves nothing to the
session, which then has no response and at most the last prompt.  If the corpus cannot
be read, both runs fail and have no output. -/
theorem run_piped {o : Options} {args args' : List Text} {path : Text} {fs : FileSystem}
    {b input : Bytes} (terminal : Text) (log : Option Text)
    (hargs : parse args = .ok (.run o)) (hnone : o.script = none)
    (hargs' : parse args' = .ok (.run { o with script := some path }))
    (hpath : fs.resolve path = .ok (.file b)) (hb : 0x08 ∉ b)
    (hinput : o.corpus.any fs.isInput → input = b) :
    let w := { World.ofFiles fs b args with terminal := terminal, logSetting := log }
    let w' := { World.ofFiles fs input args' with terminal := terminal, logSetting := log }
    let piped := run args w
    let scripted := run args' w'
    let prompt := encode o.promptText
    piped.exit = scripted.exit ∧
    (ReadsCorpus o w →
      scripted.exit = (if WellFormed b then 0 else 1) ∧
      ∃ t, Source.readable b = encode t ∧
        scripted.output = demoOutput o ++ t.lines.flatMap Session.response ∧
        (¬ o.corpus.any fs.isInput →
          piped.output =
            if Session.isPlain terminal then
              demoOutput o ++ (t.lines.flatMap fun line => prompt ++ Session.response line) ++ prompt
            else scripted.output) ∧
        (o.corpus.any fs.isInput →
          piped.output = demoOutput o ++ if Session.isPlain terminal then prompt else [])) ∧
    (¬ ReadsCorpus o w → piped.exit = 1 ∧ piped.output = [] ∧ scripted.output = []) := by
  intro w w' piped scripted prompt
  have hcorpus : ∀ corpus ∈ o.corpus, w'.corpusAt corpus = w.corpusAt corpus :=
    openPath_corpus hinput
  have hiff : ReadsCorpus { o with script := some path } w' ↔ ReadsCorpus o w :=
    forall₂_congr fun corpus hmem => by rw [hcorpus corpus hmem]
  have hleft : w.input = { bytes := if o.corpus.any fs.isInput then [] else b } :=
    World.input_ofFiles hargs
  have hscript : w'.scriptAt path = .ok { bytes := b } := congrArg (Except.map _) hpath
  by_cases hreads : ReadsCorpus o w
  · obtain ⟨t, ht, hread⟩ := Source.exists_read_eq b
    obtain ⟨hexit', hout'⟩ := run_of_script hargs' (hiff.2 hreads) hread rfl hscript
    by_cases hin : o.corpus.any fs.isInput
    · rw [if_pos hin] at hleft
      obtain ⟨hexit, hout⟩ := run_of_input hargs hreads (t := []) rfl hnone hleft List.not_mem_nil rfl
      have hwell : WellFormed b := wellFormed_of_readsCorpus hreads hin rfl
      refine ⟨?_, fun _ => ⟨hexit', t, ht, hout', fun h => absurd hin h, fun _ => ?_⟩,
        fun h => absurd hreads h⟩
      · rw [hexit, hexit', if_pos hwell, if_pos Utf8.wellFormed_nil]
      · rw [hout, List.append_assoc]
        rfl
    · rw [if_neg hin] at hleft
      obtain ⟨hexit, hout⟩ := run_of_input hargs hreads hread hnone hleft hb ht
      refine ⟨hexit.trans hexit'.symm, fun _ => ⟨hexit', t, ht, hout', fun _ => ?_,
        fun h => absurd h hin⟩, fun h => absurd hreads h⟩
      rw [hout, Session.shownPrompt]
      split
      · rfl
      · rw [hout', List.append_nil]
        rfl
  · obtain ⟨e, hout, hexit, -⟩ := shows_of_not_readsCorpus hargs hreads
    obtain ⟨e', hout', hexit', -⟩ := shows_of_not_readsCorpus hargs' (mt hiff.1 hreads)
    exact ⟨hexit.trans hexit'.symm, fun h => absurd h hreads, fun _ => ⟨hexit, hout, hout'⟩⟩

/-- The bytes have a carriage return and a blank line, and end in a byte that is
ill-formed.  The last run is on a terminal that does no editing. -/
theorem run_piped_three :
    let text : Text := "print a\r\n\nprint b\n".toList
    let bytes := encode text ++ [0xFF]
    let fs := FileSystem.ofList ["work".toList] [("s".toList, .file bytes)]
    let piped := ["--demo", "--prompt", "> "].map String.toList
    let scripted := ["--script", "s", "--demo", "--prompt", "> "].map String.toList
    let w := World.ofFiles fs bytes piped
    let plain := { w with terminal := "Emacs".toList }
    let w' := World.ofFiles fs [] scripted
    ∃ a b c, a = run piped w ∧ b = run scripted w' ∧ c = run piped plain ∧
      (a.output = b.output ∧ a.exit = b.exit ∧ a.exit = 1) ∧
      b.output = Demo.output ++ encode "a\nb\n".toList ∧
      c.output = Demo.output ++ encode "> a\n> > b\n> ".toList := by
  intro text bytes fs piped scripted w plain w'
  let o : Options := { demo := true, prompt := some "> ".toList }
  have ho : parse piped = .ok (.run o) := rfl
  have ho' : parse scripted = .ok (.run { o with script := some "s".toList }) := rfl
  have hpath : fs.resolve "s".toList = .ok (.file bytes) := rfl
  have hb : 0x08 ∉ bytes := by decide +kernel
  have hin : o.corpus.any fs.isInput → [] = bytes := nofun
  obtain ⟨hexit, hread, -⟩ := run_piped w.terminal none ho rfl ho' hpath hb hin
  obtain ⟨-, hread', -⟩ := run_piped plain.terminal none ho rfl ho' hpath hb hin
  obtain ⟨hcode, t, ht, hscripted, hpiped, -⟩ := hread (readsCorpus_of_none rfl)
  obtain ⟨-, t', ht', -, hprompts, -⟩ := hread' (readsCorpus_of_none rfl)
  have htext : Source.readable bytes = encode text := by decide +kernel
  obtain rfl : t = text := Utf8.encode_injective (ht.symm.trans htext)
  obtain rfl : t' = text := Utf8.encode_injective (ht'.symm.trans htext)
  have hresponses : demoOutput o ++ text.lines.flatMap Session.response =
      Demo.output ++ encode "a\nb\n".toList := by
    decide +kernel
  have hsession : demoOutput o ++
      (text.lines.flatMap fun line => encode o.promptText ++ Session.response line) ++
      encode o.promptText = Demo.output ++ encode "> a\n> > b\n> ".toList := by
    decide +kernel
  have hbad : ¬ WellFormed bytes := by decide +kernel
  have hcode := hcode.trans (if_neg hbad)
  have hpiped := (hpiped nofun).trans (if_neg (by decide))
  have hprompts := (hprompts nofun).trans (if_pos (by decide))
  exact ⟨_, _, _, rfl, rfl, rfl, ⟨hpiped, hexit, hexit.trans hcode⟩,
    hscripted.trans hresponses, hprompts.trans hsession⟩

/-- **A corpus counts for both runs.**  The bytes are well-formed, without a backspace,
and a script has them too.  Without a corpus that can be read the run through a pipe
fails all the same, and with a corpus that is the standard input it has no output while
the script has. -/
theorem piped_with_corpus :
    let b := encode "print a\n".toList
    let fs := FileSystem.ofList ["work".toList] [("s".toList, .file b)]
    let w := World.ofFiles fs b
    let gone := ["--corpus", "gone"].map String.toList
    let input := ["--corpus", "/dev/stdin"].map String.toList
    let scripted := ["--corpus", "/dev/stdin", "--script", "s"].map String.toList
    WellFormed b ∧ 0x08 ∉ b ∧ fs.resolve "s".toList = .ok (.file b) ∧
      ¬ Session.isPlain (w gone).terminal ∧
      (run gone (w gone)).exit = 1 ∧ (run gone (w gone)).output = [] ∧
      (run input (w input)).output = [] ∧
      (run scripted (w scripted)).output = encode "a\n".toList := by
  decide +kernel

end Program
end LineMachine
