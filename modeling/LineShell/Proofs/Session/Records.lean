import Mathlib
import LineShell.Proofs.Session.Outcome

/-!
# Records do not matter

Nothing that a line does depends on the records that a session has kept.  Where
records leave no trace in the world, two sessions that differ in their records at
most give the same results and again sessions that differ in their records at most.
-/

namespace LineShell
namespace Session

def withLog (s : Session) (log : List Notice) : Session :=
  { s with log := log }

section withLog

variable (s : Session) (log : List Notice)

@[simp] theorem withLog_world : (s.withLog log).world = s.world := rfl
@[simp] theorem withLog_current : (s.withLog log).current = s.current := rfl
@[simp] theorem withLog_previous : (s.withLog log).previous = s.previous := rfl
@[simp] theorem withLog_aliases : (s.withLog log).aliases = s.aliases := rfl
@[simp] theorem withLog_registry : (s.withLog log).registry = s.registry := rfl
@[simp] theorem withLog_external : (s.withLog log).external = s.external := rfl

@[simp] theorem withLog_resolvePath (path : String) :
    (s.withLog log).resolvePath path = s.resolvePath path := rfl

@[simp] theorem withLog_changeDirectory (directory : String) :
    (s.withLog log).changeDirectory directory = (s.changeDirectory directory).withLog log := rfl

end withLog

/-- The sessions differ in their records at most. -/
def SameButLog (s t : Session) : Prop :=
  ∃ log, s = t.withLog log

theorem SameButLog.symm {s t : Session} (h : s.SameButLog t) : t.SameButLog s := by
  obtain ⟨log, rfl⟩ := h
  exact ⟨t.log, rfl⟩

theorem SameButLog.trans {s t u : Session} (h : s.SameButLog t) (h' : t.SameButLog u) :
    s.SameButLog u := by
  obtain ⟨log, rfl⟩ := h
  obtain ⟨log', rfl⟩ := h'
  exact ⟨log, rfl⟩

theorem sameButLog_note (s : Session) (l : Launcher) (notices : List Notice) :
    (s.note (.unrecorded l) notices).SameButLog s :=
  ⟨s.log ++ notices, rfl⟩

end Session

namespace Command

theorem changeEach_withLog {one : Change}
    (hone : ∀ (s : Session) log operand, one (s.withLog log) operand = one s operand)
    (s : Session) (log : List Notice) (operands : List String) :
    changeEach one (s.withLog log) operands =
      ((changeEach one s operands).1, (changeEach one s operands).2.withLog log) := by
  induction operands generalizing s with
  | nil => rfl
  | cons operand rest ih =>
      rw [changeEach, changeEach, hone]
      cases one s operand with
      | mk message w =>
          cases message with
          | none => exact ih (s.setWorld w)
          | some text => rfl

theorem changeOperands_withLog {one : Change}
    (hone : ∀ (s : Session) log operand, one (s.withLog log) operand = one s operand)
    (name : String) (s : Session) (log : List Notice) (call : Invocation) :
    changeOperands name one (s.withLog log) call =
      ((changeOperands name one s call).1, (changeOperands name one s call).2.withLog log) := by
  unfold changeOperands
  split_ifs
  · rfl
  · exact changeEach_withLog hone s log call.operands

theorem readAll_withLog (s : Session) (log : List Notice) (files : List String) :
    readAll (s.withLog log) files = readAll s files := by
  induction files with
  | nil => rfl
  | cons file rest ih =>
      have hfailure : readFailure (s.withLog log) = readFailure s := rfl
      simp only [readAll, ih, hfailure, Session.withLog_world, Session.withLog_resolvePath]

theorem defineAlias_withLog (s : Session) (log : List Notice) (name expansion : String) :
    defineAlias (s.withLog log) name expansion =
      ((defineAlias s name expansion).1, (defineAlias s name expansion).2.withLog log) := by
  by_cases h : name = "" ∨ expansion = ""
  · simp only [defineAlias, if_pos h]
  · simp only [defineAlias, if_neg h, Session.withLog_registry, Session.withLog_aliases]
    rfl

theorem aliases_withLog (s : Session) (log : List Notice) (call : Invocation) :
    aliases (s.withLog log) call = ((aliases s call).1, (aliases s call).2.withLog log) := by
  cases hargs : call.args with
  | nil => simp [aliases, hargs]
  | cons first rest =>
      cases hcut : Text.cutOnce '=' first with
      | some cut => simp [aliases, hargs, hcut, defineAlias_withLog]
      | none =>
          by_cases hrest : rest = []
          · cases hfound : s.aliases.get? first <;> simp [aliases, hargs, hcut, hrest, hfound]
          · simp [aliases, hargs, hcut, hrest, defineAlias_withLog]

theorem cdTarget_withLog (s : Session) (log : List Notice) (arg : Option String) :
    cdTarget (s.withLog log) arg = cdTarget s arg := by
  cases arg with
  | none => rfl
  | some path => simp only [cdTarget, Session.withLog_previous, Session.withLog_resolvePath]

theorem cd_withLog (s : Session) (log : List Notice) (call : Invocation) :
    cd (s.withLog log) call = ((cd s call).1, (cd s call).2.withLog log) := by
  by_cases h : s.world.isDirectory (cdTarget s call.args.head?) = true
  · simp [cd, cdTarget_withLog, h]
  · simp [cd, cdTarget_withLog, h]

end Command

/-- What a built-in command does does not depend on the records. -/
theorem Builtin.run_withLog (b : Builtin) (s : Session) (log : List Notice) (call : Invocation) :
    b.run (s.withLog log) call = ((b.run s call).1, (b.run s call).2.withLog log) := by
  match b with
  | .cd => exact Command.cd_withLog s log call
  | .cat => simp [Builtin.run, Command.cat, Command.readAll_withLog]
  | .touch => exact Command.changeOperands_withLog (fun _ _ _ ↦ rfl) "touch" s log call
  | .rm => exact Command.changeOperands_withLog (fun _ _ _ ↦ rfl) "rm" s log call
  | .mkdir => exact Command.changeOperands_withLog (fun _ _ _ ↦ rfl) "mkdir" s log call
  | .rmdir => exact Command.changeOperands_withLog (fun _ _ _ ↦ rfl) "rmdir" s log call
  | .alias => exact Command.aliases_withLog s log call
  | .unalias =>
      by_cases h : call.args = []
      · simp [Builtin.run, Command.unalias, h]
      · simp [Builtin.run, Command.unalias, h, Session.withLog]
  | .help | .clear | .ls | .pwd | .echo | .which | .history | .edit => rfl

namespace Session

theorem expandAliasFrom_withLog (s : Session) (log : List Notice) (steps : Nat)
    (chain : List String) (expansion : String) (args : List String) :
    (s.withLog log).expandAliasFrom steps chain expansion args =
      s.expandAliasFrom steps chain expansion args := by
  induction steps generalizing chain expansion args with
  | zero => rfl
  | succ steps ih => simp only [expandAliasFrom, ih, withLog_registry, withLog_aliases]

theorem runAlias_withLog (s : Session) (log : List Notice) (call : Invocation) :
    (s.withLog log).runAlias call = ((s.runAlias call).1, (s.runAlias call).2.withLog log) := by
  have hexpand : (s.withLog log).expandAlias call.name call.args =
      s.expandAlias call.name call.args := by
    simp only [expandAlias, expandAliasFrom_withLog, withLog_aliases]
  rw [runAlias, runAlias, hexpand]
  cases s.expandAlias call.name call.args with
  | error e => rfl
  | ok target => exact target.builtin.run_withLog s log _

theorem runHandler_withLog (s : Session) (log : List Notice) (h : Handler) (call : Invocation) :
    (s.withLog log).runHandler h call =
      ((s.runHandler h call).1, (s.runHandler h call).2.withLog log) := by
  match h with
  | .builtin b => exact b.run_withLog s log call
  | .alias _ => exact s.runAlias_withLog log call

theorem dispatch_withLog (s : Session) (log : List Notice) (name : String) :
    (s.withLog log).dispatch name = s.dispatch name := rfl

/-- The outcomes are the same, but for the records of the sessions. -/
inductive Alike {α : Type} : Outcome α → Outcome α → Prop
  | ok (a : α) {s t : Session} (h : s.SameButLog t) : Alike (.ok a, s) (.ok a, t)
  | error (e : ShellError) {s t : Session} (h : s.SameButLog t) : Alike (.error e, s) (.error e, t)

theorem Alike.exists_eq_ok {α : Type} {o : Outcome α} {a : α} {t : Session}
    (h : Alike o (.ok a, t)) : ∃ s, o = (.ok a, s) ∧ s.SameButLog t := by
  cases h with
  | ok _ h' => exact ⟨_, rfl, h'⟩

theorem Alike.exists_eq_error {α : Type} {o : Outcome α} {e : ShellError} {t : Session}
    (h : Alike o (.error e, t)) : ∃ s, o = (.error e, s) ∧ s.SameButLog t := by
  cases h with
  | error _ h' => exact ⟨_, rfl, h'⟩

theorem Alike.next {α β : Type} {o o' : Outcome α} {f g : α → Session → Outcome β}
    (h : Alike o o') (hfg : ∀ a (s t : Session), s.SameButLog t → Alike (f a s) (g a t)) :
    Alike (o.next f) (o'.next g) := by
  cases h with
  | ok a h' => exact hfg a _ _ h'
  | error e h' => exact .error e h'

variable {l : Launcher}

theorem alike_runProgram {s t : Session} (h : s.SameButLog t) (path : String)
    (args : List String) (input : Option String) :
    Alike (s.runProgram (.unrecorded l) path args input)
      (t.runProgram (.unrecorded l) path args input) := by
  obtain ⟨log, rfl⟩ := h
  simp only [runProgram, note, Runner.unrecorded, withLog_world, withLog_current,
    withLog_external]
  cases (l.start t.world (CommandLine.ofPath t.external.interpreters path args).1 t.current
      (input.map Text.encode)).result path with
  | error e => exact .error e ⟨_, rfl⟩
  | ok output => exact .ok output ⟨_, rfl⟩

theorem alike_runStage {s t : Session} (h : s.SameButLog t) (stage : Stage)
    (input : Option String) :
    Alike (s.runStage (.unrecorded l) stage input) (t.runStage (.unrecorded l) stage input) := by
  have hprogram := fun path ↦ alike_runProgram (l := l) h path stage.args input
  obtain ⟨log, rfl⟩ := h
  rw [runStage, runStage, dispatch_withLog]
  cases t.dispatch stage.name with
  | handler h =>
      simp only [runHandler_withLog]
      exact .ok _ ⟨log, rfl⟩
  | program path => exact hprogram path
  | unknown => exact .ok _ ⟨log, rfl⟩

theorem sameButLog_deliver {s t : Session} (h : s.SameButLog t) (redirect : Redirect)
    (output : String) :
    (s.deliver (.unrecorded l) redirect output).1 =
        (t.deliver (.unrecorded l) redirect output).1 ∧
      (s.deliver (.unrecorded l) redirect output).2.SameButLog
        (t.deliver (.unrecorded l) redirect output).2 := by
  obtain ⟨log, rfl⟩ := h
  unfold deliver
  cases redirect.path with
  | none => exact ⟨rfl, log, rfl⟩
  | some target =>
      by_cases hkind : redirect.kind.isOutput = true
      · simp only [hkind, if_true, withLog_world, withLog_resolvePath]
        cases writeOutput t.world (t.resolvePath target) redirect.kind output with
        | ok w => exact ⟨rfl, log, rfl⟩
        | error cause => exact ⟨rfl, _, rfl⟩
      · simp only [if_neg hkind]
        exact ⟨trivial, log, rfl⟩

theorem alike_runStages {s t : Session} (h : s.SameButLog t) (piped : String)
    (stages : List Stage) :
    Alike (s.runStages (.unrecorded l) piped stages)
      (t.runStages (.unrecorded l) piped stages) := by
  induction stages generalizing s t piped with
  | nil => exact .ok piped h
  | cons stage rest ih =>
      rw [runStages_cons, runStages_cons]
      exact (alike_runStage h stage _).next fun output _ _ h' ↦ ih h' output

theorem alike_runPipeline {s t : Session} (h : s.SameButLog t) (pipeline : Pipeline) :
    Alike (s.runPipeline (.unrecorded l) pipeline) (t.runPipeline (.unrecorded l) pipeline) := by
  cases pipeline with
  | nil => exact .ok "" h
  | cons first rest =>
      have hread : s.readInput first = t.readInput first := by
        obtain ⟨log, rfl⟩ := h
        rfl
      cases hinput : t.readInput first with
      | error e =>
          simp only [runPipeline, hread, hinput]
          exact .error e h
      | ok read =>
          cases read with
          | message text =>
              simp only [runPipeline, hread, hinput]
              exact .ok text h
          | text input =>
              rw [runPipeline_cons _ _ (hread.trans hinput), runPipeline_cons _ _ hinput]
              refine (alike_runStage h first input).next fun output _ _ h' ↦ ?_
              refine (alike_runStages h' output rest).next fun text _ _ h'' ↦ ?_
              obtain ⟨hshown, hsession⟩ :=
                sameButLog_deliver h'' (lastStage first rest).redirect text
              rw [hshown]
              exact .ok _ hsession

theorem alike_runPipelines {s t : Session} (h : s.SameButLog t) (pipelines : List Pipeline) :
    Alike (s.runPipelines (.unrecorded l) pipelines)
      (t.runPipelines (.unrecorded l) pipelines) := by
  induction pipelines generalizing s t with
  | nil => exact .ok [] h
  | cons pipeline rest ih =>
      rw [runPipelines_cons, runPipelines_cons]
      refine (alike_runPipeline h pipeline).next fun output _ _ h' ↦ ?_
      exact (ih h').next fun outputs _ _ h'' ↦ .ok (output :: outputs) h''

theorem alike_runSequence {s t : Session} (h : s.SameButLog t) (sequence : Sequence) :
    Alike (s.runSequence (.unrecorded l) sequence) (t.runSequence (.unrecorded l) sequence) := by
  rw [runSequence_eq, runSequence_eq]
  exact (alike_runPipelines h sequence).next fun outputs _ _ h' ↦ .ok (shownOutputs outputs) h'

end Session
end LineShell
