import Mathlib
import LineShell.Proofs.Session.PipelineWork
import LineShell.Proofs.Session.AliasWords

/-!
# Pipelines that are put together

When the last stage of a pipeline writes no file, further stages go on with its output in the
session that it left.  So a stage with arguments cuts a pipeline in two, since it takes no
piped input, and `cat` without arguments may stand before or after any pipeline, since it
hands its input on and changes nothing.
-/

namespace LineShell
namespace Session

variable {s : Session} {r : Runner}

theorem runStages_append (s : Session) (r : Runner) (piped : String) (xs ys : List Stage) :
    s.runStages r piped (xs ++ ys) =
      (s.runStages r piped xs).next fun output t ↦ t.runStages r output ys := by
  induction xs generalizing s piped with
  | nil => rfl
  | cons x xs ih =>
      simp only [List.cons_append, runStages_cons, Outcome.next_assoc, ih]

theorem runStages_eq_runFrom (s : Session) (r : Runner) (piped : String) (first : Stage)
    (rest : List Stage) :
    s.runStages r piped (first :: rest) =
      s.runFrom r (if first.args = [] then some piped else none) first rest :=
  s.runStages_cons r piped first rest

theorem lastStage_append_cons (first next : Stage) (rest more : List Stage) :
    lastStage first (rest ++ next :: more) = lastStage next more := by
  simp [lastStage, List.getLast?_append, List.getLast?_cons]

section append

variable {first : Stage} {input : Option String} {rest : List Stage}

theorem runPipeline_of_sink?_eq_none (hread : s.readInput first = .ok (.text input))
    (hsink : (lastStage first rest).redirect.sink? = none) :
    s.runPipeline r (first :: rest) = s.runFrom r input first rest := by
  rw [runPipeline_eq_runFrom hread]
  simp only [delivered_of_sink?_eq_none hsink]
  exact Outcome.next_same _

/-- The stages after a pipeline that writes no file go on where it ended. -/
theorem runPipeline_append (hread : s.readInput first = .ok (.text input))
    (hsink : (lastStage first rest).redirect.sink? = none) (next : Stage) (more : List Stage) :
    s.runPipeline r (first :: rest ++ next :: more) =
      (s.runPipeline r (first :: rest)).next fun output t ↦
        (t.runStages r output (next :: more)).next fun text u ↦
          u.delivered r (lastStage next more).redirect text := by
  rw [List.cons_append, runPipeline_eq_runFrom hread, runPipeline_of_sink?_eq_none hread hsink,
    lastStage_append_cons]
  simp only [runFrom, runStages_append, Outcome.next_assoc]

end append

/-! ## A stage with arguments -/

/-- All stages of a pipeline are executed, and none of them fails. -/
def RunsThrough (s : Session) (r : Runner) (p : Pipeline) : Prop :=
  (s.executed r p).map (·.stage) = p ∧ ∃ output, (s.runPipeline r p).1 = .ok output

theorem RunsThrough.exists_readInput {first : Stage} {rest : List Stage}
    (h : s.RunsThrough r (first :: rest)) : ∃ input, s.readInput first = .ok (.text input) := by
  have hran := h.1
  rw [executed] at hran
  split at hran
  · rename_i input hinput
    exact ⟨input, hinput⟩
  · cases hran

/-- A stage with arguments cuts the pipe.  A pipeline that runs through and writes no file,
followed by stages of which the first has arguments and reads no file, comes to what these
stages come to alone, in the session that the pipeline leaves; its output is lost. -/
theorem runPipeline_append_of_args {p : Pipeline} {first : Stage} {rest : List Stage}
    (hp : s.RunsThrough r p) (hlast : ∀ last ∈ p.getLast?, last.redirect.kind.isOutput = false)
    (hargs : first.args ≠ []) (hinput : first.redirect.kind ≠ .input) :
    s.runPipeline r (p ++ first :: rest) =
      (s.runPipeline r p).2.runPipeline r (first :: rest) := by
  cases p with
  | nil => rfl
  | cons head tail =>
      obtain ⟨input, hread⟩ := hp.exists_readInput
      obtain ⟨output, houtput⟩ := hp.2
      have hsink : (lastStage head tail).redirect.sink? = none :=
        Redirect.sink?_eq_none (hlast _ (getLast?_cons_lastStage head tail))
      -- The stage with arguments gets no input, whatever session it starts in.
      have hunread : ∀ t : Session, t.readInput first = .ok (.text none) :=
        fun _ ↦ if_neg hinput
      rw [runPipeline_append hread hsink, runPipeline_eq_runFrom (hunread _)]
      cases hrun : s.runPipeline r (head :: tail) with
      | mk result t =>
          obtain rfl : result = .ok output := by simpa [hrun] using houtput
          rw [Outcome.next_ok, runStages_eq_runFrom, if_neg hargs]

/-- The first part gives a file to a program and moves; the second one writes what it is given
in the directory that the first one moved to. -/
theorem runPipeline_append_of_args_moving :
    let p : Pipeline := [⟨"./copier", [], ⟨.input, some "f"⟩⟩, ⟨"cd", ["d"], {}⟩]
    let q : Pipeline := [⟨"echo", ["a", "b"], ⟨.truncate, some "g"⟩⟩]
    besideFile.RunsThrough .silent p ∧
      besideFile.runPipeline .silent (p ++ q) =
        (besideFile.runPipeline .silent p).2.runPipeline .silent q ∧
      (besideFile.runPipeline .silent (p ++ q)).2.world.readText "/d/g" = .ok "a b" := by
  intro p q
  have hruns : besideFile.RunsThrough .silent p := ⟨by decide +kernel, "", by decide +kernel⟩
  have hcut : besideFile.runPipeline .silent (p ++ q) =
      (besideFile.runPipeline .silent p).2.runPipeline .silent q :=
    runPipeline_append_of_args hruns (by decide) (by decide) (by decide)
  exact ⟨hruns, hcut, by decide +kernel⟩

/-! ## A stage that hands its input on -/

/-- `cat` without arguments. -/
def copying (redirect : Redirect) : Stage :=
  ⟨"cat", [], redirect⟩

theorem runFrom_copying (hcat : s.registry.builtin? "cat" = some .cat) (redirect : Redirect)
    (text : String) (rest : List Stage) :
    s.runFrom r (some text) (copying redirect) rest = s.runStages r text rest := by
  have hstage : s.runStage r (copying redirect) (some text) = (.ok text, s) := by
    simp [runStage, copying, dispatch, handler?, hcat, runHandler, Builtin.run, Command.cat,
      Invocation.operands]
  rw [runFrom, hstage, Outcome.next_ok]

theorem runStages_copying (hcat : s.registry.builtin? "cat" = some .cat) (redirect : Redirect)
    (text : String) (rest : List Stage) :
    s.runStages r text (copying redirect :: rest) = s.runStages r text rest := by
  have hargs : (copying redirect).args = [] := rfl
  rw [runStages_eq_runFrom, if_pos hargs, runFrom_copying hcat]

/-- After a pipeline that writes no file, `cat` delivers its output as a pipeline of the same
commands and the same source does. -/
theorem runPipeline_append_copying (hcat : s.registry.builtin? "cat" = some .cat)
    {p q : Pipeline} (hp : p ≠ []) (hcommands : p.work.commands = q.work.commands)
    (hsource : p.work.source = q.work.source) (hsink : p.work.sink = none) {redirect : Redirect}
    (hredirect : redirect.sink? = q.work.sink) :
    s.runPipeline r (p ++ [copying redirect]) = s.runPipeline r q := by
  obtain ⟨a, xs, rfl⟩ := List.exists_cons_of_ne_nil hp
  obtain ⟨b, ys, rfl, hfirst, -⟩ := List.map_eq_cons_iff.mp hcommands.symm
  have hread : s.readInput a = s.readInput b := readInput_congr hfirst.symm hsource
  have hnone : (lastStage a xs).redirect.sink? = none := by
    simpa [Pipeline.work, getLast?_cons_lastStage] using hsink
  have hlast : redirect.sink? = (lastStage b ys).redirect.sink? := by
    simpa [Pipeline.work, getLast?_cons_lastStage] using hredirect
  have hregistry : (s.runPipeline r (a :: xs)).2.registry = s.registry :=
    ((invariant_untouched r s).runPipeline (.refl s) (a :: xs)).1.registry
  rw [List.cons_append]
  refine runPipeline_eq_of_read hread fun input hinput ↦ ?_
  have hinput' := hread.trans hinput
  rw [← List.cons_append, runPipeline_append hinput' hnone, runPipeline_eq_runFrom hinput,
    ← runFrom_congr hcommands, ← runPipeline_of_sink?_eq_none hinput' hnone]
  -- What is left is the same on both sides but for `cat`, which copies the output at hand.
  cases hrun : s.runPipeline r (a :: xs) with
  | mk result t =>
      cases result with
      | error e => rfl
      | ok output =>
          have hcat' : t.registry.builtin? "cat" = some .cat := by
            rw [hrun] at hregistry
            exact hregistry ▸ hcat
          rw [Outcome.next_ok, Outcome.next_ok, runStages_copying hcat']
          exact delivered_congr hlast output

/-- Before a pipeline whose first stage has no arguments, `cat` reads the file for it. -/
theorem runPipeline_copying_cons (hcat : s.registry.builtin? "cat" = some .cat) {first : Stage}
    (hargs : first.args = []) {target text : String}
    (hredirect : first.redirect = ⟨.input, some target⟩)
    (htext : s.world.readText (s.resolvePath target) = .ok text) (rest : List Stage) :
    s.runPipeline r (copying ⟨.input, some target⟩ :: { first with redirect := {} } :: rest) =
      s.runPipeline r (first :: rest) := by
  have hread : ∀ stage : Stage, stage.redirect = ⟨.input, some target⟩ →
      s.readInput stage = .ok (.text (some text)) := by
    intro stage hstage
    simp [readInput, hstage, htext]
  have hsink : (lastStage (copying ⟨.input, some target⟩)
      ({ first with redirect := {} } :: rest)).redirect.sink? =
        (lastStage first rest).redirect.sink? := by
    cases rest with
    | nil =>
        have hinput : first.redirect.kind.isOutput = false := by rw [hredirect]; rfl
        exact (Redirect.sink?_eq_none hinput).symm
    | cons next more => simp [lastStage, List.getLast?_cons]
  rw [runPipeline_eq_runFrom (hread _ rfl), runPipeline_eq_runFrom (hread first hredirect),
    runFrom_copying hcat, runStages_eq_runFrom, if_pos hargs]
  simp only [delivered_congr hsink]
  rfl

/-- `cat` without arguments may stand at either end of a pipeline.  After a pipeline that writes
no file it makes no difference; a file that the last stage writes may as well be written by a
`cat` after it; and a file that the first stage reads without arguments may as well be read by
a `cat` before it. -/
theorem runPipeline_copying (hcat : s.registry.builtin? "cat" = some .cat) (r : Runner) :
    (∀ p : Pipeline, p ≠ [] → (∀ last ∈ p.getLast?, last.redirect.kind.isOutput = false) →
      s.runPipeline r (p ++ [copying {}]) = s.runPipeline r p) ∧
    (∀ (init : List Stage) (last : Stage) (kind : RedirectKind) (target : String),
      last.redirect.kind = .none → kind.isOutput = true →
      s.runPipeline r (init ++ [{ last with redirect := ⟨kind, some target⟩ }]) =
        s.runPipeline r (init ++ [last] ++ [copying ⟨kind, some target⟩])) ∧
    (∀ (first : Stage) (rest : List Stage) (target text : String),
      first.args = [] → first.redirect = ⟨.input, some target⟩ →
      s.world.readText (s.resolvePath target) = .ok text →
      s.runPipeline r (first :: rest) = s.runPipeline r
        (copying ⟨.input, some target⟩ :: { first with redirect := {} } :: rest)) := by
  refine ⟨?_, ?_, ?_⟩
  · intro p hp hlast
    have hsink : p.work.sink = none := by
      rcases List.eq_nil_or_concat p with rfl | ⟨init, last, rfl⟩
      · rfl
      · simpa [Pipeline.work] using Redirect.sink?_eq_none (hlast last (by simp))
    exact runPipeline_append_copying hcat hp rfl rfl hsink hsink.symm
  · intro init last kind target hnone houtput
    have hsink : (Pipeline.work (init ++ [last])).sink = none := by
      simp [Pipeline.work, Redirect.sink?, hnone, RedirectKind.isOutput]
    have hsource : (Pipeline.work (init ++ [last])).source =
        (Pipeline.work (init ++ [{ last with redirect := ⟨kind, some target⟩ }])).source := by
      cases init with
      | cons first rest => rfl
      | nil =>
          have hoffer : kind ≠ .input := by
            rintro rfl
            cases houtput
          simp [Pipeline.work, Redirect.source?, hnone, hoffer]
    exact (runPipeline_append_copying hcat (by simp) (by simp [Pipeline.work, Stage.command])
      hsource hsink (by simp [Pipeline.work])).symm
  · intro first rest target text hargs hredirect htext
    exact (runPipeline_copying_cons hcat hargs hredirect htext rest).symm

theorem runPipeline_copying_besideFile :
    besideFile.registry.builtin? "cat" = some .cat ∧
      besideFile.runPipeline .silent
          ([⟨"cd", ["d"], {}⟩, ⟨"/copier", ["/f"], {}⟩] ++ [copying {}]) =
        besideFile.runPipeline .silent [⟨"cd", ["d"], {}⟩, ⟨"/copier", ["/f"], {}⟩] ∧
      (besideFile.runPipeline .silent [⟨"cd", ["d"], {}⟩, ⟨"/copier", ["/f"], {}⟩]).1 =
        .ok "hi" ∧
      besideFile.runPipeline .silent [⟨"cd", ["d"], {}⟩, ⟨"pwd", [], ⟨.append, some "g"⟩⟩] =
        besideFile.runPipeline .silent
          [⟨"cd", ["d"], {}⟩, ⟨"pwd", [], {}⟩, copying ⟨.append, some "g"⟩] ∧
      besideFile.world.readText (besideFile.resolvePath "f") = .ok "hi" ∧
      besideFile.runPipeline .silent [⟨"cat", [], ⟨.input, some "f"⟩⟩, ⟨"cat", [], {}⟩] =
        besideFile.runPipeline .silent
          [copying ⟨.input, some "f"⟩, ⟨"cat", [], {}⟩, ⟨"cat", [], {}⟩] := by
  have hcat : besideFile.registry.builtin? "cat" = some .cat := by decide
  have htext : besideFile.world.readText (besideFile.resolvePath "f") = .ok "hi" := by
    decide +kernel
  obtain ⟨hafter, hwriting, hreading⟩ := runPipeline_copying hcat .silent
  refine ⟨hcat, hafter _ (by simp) (by decide), by decide +kernel, ?_, htext, ?_⟩
  · exact hwriting [⟨"cd", ["d"], {}⟩] ⟨"pwd", [], {}⟩ .append "g" rfl rfl
  · exact hreading ⟨"cat", [], ⟨.input, some "f"⟩⟩ [⟨"cat", [], {}⟩] "f" "hi" rfl rfl htext

end Session
end LineShell
