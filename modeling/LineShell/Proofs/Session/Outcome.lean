import Mathlib
import LineShell.Session.Run

/-!
# Runs that follow one another

Stages, pipelines and sequences are all run in the same way: what comes next gets
the result and the session that were left, unless there was an error.  The laws of
this succession are those of a sequence of steps.
-/

namespace LineShell

/-- Outputs as they are shown: one after the other on lines of their own, and nothing for
an empty one. -/
def shownOutputs (outputs : List String) : String :=
  Text.joinWith "\n" (outputs.filter (· ≠ ""))

namespace Session

variable {α β γ : Type}

/-- Goes on with the result and the session, unless there was an error. -/
def Outcome.next (o : Outcome α) (f : α → Session → Outcome β) : Outcome β :=
  match o with
  | (.ok a, s) => f a s
  | (.error e, s) => (.error e, s)

namespace Outcome

@[simp] theorem next_ok (a : α) (s : Session) (f : α → Session → Outcome β) :
    next (.ok a, s) f = f a s := rfl

@[simp] theorem next_error (e : ShellError) (s : Session) (f : α → Session → Outcome β) :
    next (.error e, s) f = (.error e, s) := rfl

theorem next_assoc (o : Outcome α) (f : α → Session → Outcome β) (g : β → Session → Outcome γ) :
    (o.next f).next g = o.next fun a s ↦ (f a s).next g := by
  obtain ⟨result, s⟩ := o
  cases result <;> rfl

/-- Going on with the same result changes nothing. -/
theorem next_same (o : Outcome α) : (o.next fun a s ↦ (.ok a, s)) = o := by
  obtain ⟨result, s⟩ := o
  cases result <;> rfl

/-- A function of the result does not touch the session. -/
theorem snd_next_ok (o : Outcome α) (f : α → β) : (o.next fun a s ↦ (.ok (f a), s)).2 = o.2 := by
  obtain ⟨result, s⟩ := o
  cases result <;> rfl

end Outcome

variable (s : Session) (r : Runner)

theorem runStages_cons (piped : String) (stage : Stage) (rest : List Stage) :
    s.runStages r piped (stage :: rest) =
      (s.runStage r stage (if stage.args = [] then some piped else none)).next
        fun output t ↦ t.runStages r output rest := by
  rw [runStages]
  cases s.runStage r stage (if stage.args = [] then some piped else none) with
  | mk result t => cases result <;> rfl

theorem runPipeline_cons {first : Stage} {input : Option String}
    (h : s.readInput first = .ok (.text input)) (rest : List Stage) :
    s.runPipeline r (first :: rest) =
      (s.runStage r first input).next fun output t ↦
        (t.runStages r output rest).next fun text u ↦
          (.ok (u.deliver r (lastStage first rest).redirect text).1,
            (u.deliver r (lastStage first rest).redirect text).2) := by
  simp only [runPipeline, h]
  cases s.runStage r first input with
  | mk result t =>
      cases result with
      | error e => rfl
      | ok output =>
          simp only [Outcome.next_ok]
          cases t.runStages r output rest with
          | mk result u => cases result <;> rfl

theorem runPipelines_cons (pipeline : Pipeline) (rest : List Pipeline) :
    s.runPipelines r (pipeline :: rest) =
      (s.runPipeline r pipeline).next fun output t ↦
        (t.runPipelines r rest).next fun outputs u ↦ (.ok (output :: outputs), u) := by
  rw [runPipelines]
  cases s.runPipeline r pipeline with
  | mk result t =>
      cases result with
      | error e => rfl
      | ok output =>
          simp only [Outcome.next_ok]
          cases t.runPipelines r rest with
          | mk result u => cases result <;> rfl

theorem runSequence_eq (sequence : Sequence) :
    s.runSequence r sequence =
      (s.runPipelines r sequence).next fun outputs t ↦ (.ok (shownOutputs outputs), t) := by
  rw [runSequence]
  cases s.runPipelines r sequence with
  | mk result t => cases result <;> rfl

end Session
end LineShell
