import Mathlib
import LineShell.Proofs.Session.Effect

/-!
# The stages that a line executes

A pipeline executes its stages one after the other, each in the session that the
one before it left, up to the first error; only then is the output delivered.  The
executed stages are kept here together with the sessions in which they ran.  What
every stage, every delivery and every record keeps is kept along whole pipelines,
lines and rows of lines, and it holds in between as well.
-/

namespace LineShell
namespace Session

/-- A stage as it was executed: the session before it, and its input. -/
structure Executed where
  before : Session
  stage : Stage
  input : Option String

namespace Executed

def after (r : Runner) (e : Executed) : Session :=
  (e.before.runStage r e.stage e.input).2

def LeadsTo (e : Executed) (b : Builtin) : Prop :=
  e.before.Leads e.stage.name b

/-- The stage is a command that is there to change files, or a program. -/
def MayChangeFiles (e : Executed) : Prop :=
  (∃ b, b.changesFiles = true ∧ e.LeadsTo b) ∨
    ∃ path, e.before.dispatch e.stage.name = .program path

theorem stageEffect_after (r : Runner) (e : Executed) :
    e.before.StageEffect r e.stage.name (e.after r) :=
  e.before.stageEffect_runStage r e.stage e.input

end Executed

/-- The executed stages lead from one session to another, each to the next. -/
def Linked (r : Runner) : Session → List Executed → Session → Prop
  | s, [], t => t = s
  | s, e :: rest, t => e.before = s ∧ Linked r (e.after r) rest t

theorem Linked.exists_of_ne {r : Runner} {s t : Session} {ran : List Executed} {α : Type}
    {f : Session → α} (h : Linked r s ran t) (hne : f t ≠ f s) :
    ∃ e ∈ ran, f (e.after r) ≠ f e.before := by
  induction ran generalizing s with
  | nil => exact absurd (congrArg f h) hne
  | cons e rest ih =>
      obtain ⟨rfl, hrest⟩ := h
      by_cases he : f (e.after r) = f e.before
      · obtain ⟨e', he', hne'⟩ := ih hrest (he ▸ hne)
        exact ⟨e', List.mem_cons_of_mem e he', hne'⟩
      · exact ⟨e, List.mem_cons_self, he⟩

/-- The stages that are executed after the first one. -/
def executedStages (s : Session) (r : Runner) (piped : String) : List Stage → List Executed
  | [] => []
  | stage :: rest =>
      let input := if stage.args = [] then some piped else none
      ⟨s, stage, input⟩ ::
        match s.runStage r stage input with
        | (.ok output, s') => executedStages s' r output rest
        | (.error _, _) => []

/-- The stages of a pipeline that are executed. -/
def executed (s : Session) (r : Runner) : Pipeline → List Executed
  | [] => []
  | first :: rest =>
      match s.readInput first with
      | .ok (.text input) =>
          ⟨s, first, input⟩ ::
            match s.runStage r first input with
            | (.ok output, s') => executedStages s' r output rest
            | (.error _, _) => []
      | _ => []

theorem linked_executedStages (s : Session) (r : Runner) (piped : String)
    (stages : List Stage) :
    Linked r s (s.executedStages r piped stages) (s.runStages r piped stages).2 := by
  induction stages generalizing s piped with
  | nil => rfl
  | cons stage rest ih =>
      refine ⟨rfl, ?_⟩
      rw [runStages, Executed.after]
      cases hrun : s.runStage r stage (if stage.args = [] then some piped else none) with
      | mk result s' =>
          cases result with
          | ok output => exact ih s' output
          | error e => rfl

theorem stage_executedStages (s : Session) (r : Runner) (piped : String)
    (stages : List Stage) :
    (s.executedStages r piped stages).map (·.stage) <+: stages := by
  induction stages generalizing s piped with
  | nil => exact List.prefix_refl []
  | cons stage rest ih =>
      simp only [executedStages, List.map_cons, List.cons_prefix_cons, true_and]
      cases hrun : s.runStage r stage (if stage.args = [] then some piped else none) with
      | mk result s' =>
          cases result with
          | ok output => exact ih s' output
          | error e => exact List.nil_prefix

/-- What is executed of a pipeline is an initial part of it. -/
theorem stage_executed (s : Session) (r : Runner) (pipeline : Pipeline) :
    (s.executed r pipeline).map (·.stage) <+: pipeline := by
  cases pipeline with
  | nil => exact List.prefix_refl []
  | cons first rest =>
      rw [executed]
      split
      · rename_i input _
        simp only [List.map_cons, List.cons_prefix_cons, true_and]
        cases hrun : s.runStage r first input with
        | mk result s' =>
            cases result with
            | ok output => exact stage_executedStages s' r output rest
            | error e => exact List.nil_prefix
      · exact List.nil_prefix

theorem getLast?_cons_lastStage (first : Stage) (rest : List Stage) :
    (first :: rest).getLast? = some (lastStage first rest) :=
  List.getLast?_cons

/-- A pipeline executes stages, and delivers its output if nothing stopped it. -/
theorem exists_linked_executed (s : Session) (r : Runner) (pipeline : Pipeline) :
    ∃ t, Linked r s (s.executed r pipeline) t ∧
      ((s.runPipeline r pipeline).2 = t ∨ ∃ last, pipeline.getLast? = some last ∧
        t.Delivery r last.redirect (s.runPipeline r pipeline).2) := by
  cases pipeline with
  | nil => exact ⟨s, rfl, .inl rfl⟩
  | cons first rest =>
      rw [executed, runPipeline]
      cases hinput : s.readInput first with
      | error e => exact ⟨s, rfl, .inl rfl⟩
      | ok read =>
          cases read with
          | message text => exact ⟨s, rfl, .inl rfl⟩
          | text input =>
              simp only [Linked, Executed.after, true_and]
              cases hfirst : s.runStage r first input with
              | mk result s' =>
                  cases result with
                  | error e => exact ⟨s', rfl, .inl rfl⟩
                  | ok output =>
                      refine ⟨_, s'.linked_executedStages r output rest, ?_⟩
                      simp only
                      cases hrest : s'.runStages r output rest with
                      | mk result s'' =>
                          cases result with
                          | error e => exact .inl rfl
                          | ok text =>
                              exact .inr ⟨_, getLast?_cons_lastStage first rest,
                                s''.delivery_deliver r _ text⟩

/-- The stages that are executed of pipelines that run one after the other. -/
def executedAll (s : Session) (r : Runner) : List Pipeline → List Executed
  | [] => []
  | pipeline :: rest =>
      s.executed r pipeline ++
        match s.runPipeline r pipeline with
        | (.ok _, s') => executedAll s' r rest
        | (.error _, _) => []

/-- The line that is recorded and run for a given one, if there is one. -/
def entered (s : Session) (line : String) : Option String :=
  if s.mode = .normal ∧ Text.trim line ≠ "" then (s.expandLine (Text.trim line)).toOption
  else none

theorem run_of_entered {s : Session} {line entry : String} (h : s.entered line = some entry)
    (r : Runner) : s.run r line = s.runRecorded r entry := by
  unfold entered at h
  split_ifs at h with hentered
  cases hexpand : s.expandLine (Text.trim line) with
  | error e => simp [hexpand, Except.toOption] at h
  | ok expanded =>
      obtain rfl : expanded = entry := by simpa [hexpand, Except.toOption] using h
      simp [run, hentered.1, hentered.2, hexpand]

/-- A line that is not recorded changes nothing, but for the edit buffer's sake. -/
theorem run_of_not_entered {s : Session} {line : String} (h : s.entered line = none)
    (r : Runner) : (s.run r line).2 = if s.mode = .edit then (s.editLine line).2 else s := by
  cases hmode : s.mode with
  | edit => simp [run, hmode]
  | normal =>
      by_cases hblank : Text.trim line = ""
      · simp [run, hmode, hblank]
      · cases hexpand : s.expandLine (Text.trim line) with
        | error e => simp [run, hmode, hblank, hexpand]
        | ok expanded => simp [entered, hmode, hblank, hexpand, Except.toOption] at h

/-- The stages that a line executes. -/
def executedIn (s : Session) (r : Runner) (line : String) : List Executed :=
  match s.entered line with
  | none => []
  | some entry =>
      let recorded : Session := { s with history := s.history ++ [entry] }
      let parsed := Sequence.parse recorded.world.lookup entry
      (recorded.note r parsed.2).executedAll r parsed.1

/-- The session after lines that are taken one after the other. -/
def runAll (s : Session) (r : Runner) (lines : List String) : Session :=
  lines.foldl (fun t line ↦ (t.run r line).2) s

/-- A property that stages, deliveries and records keep. -/
structure Invariant (r : Runner) (P : Session → Prop) : Prop where
  stage : ∀ {s s' : Session} {name : String}, s.StageEffect r name s' → P s → P s'
  delivery : ∀ {s s' : Session} {redirect : Redirect}, s.Delivery r redirect s' → P s → P s'
  note : ∀ {s : Session} (notices : List Notice), P s → P (s.note r notices)

namespace Invariant

variable {r : Runner} {P : Session → Prop}

theorem linked (hP : Invariant r P) {s t : Session} {ran : List Executed}
    (h : Linked r s ran t) (hs : P s) : P t ∧ ∀ e ∈ ran, P e.before ∧ P (e.after r) := by
  induction ran generalizing s with
  | nil =>
      obtain rfl := h
      exact ⟨hs, by simp⟩
  | cons e rest ih =>
      obtain ⟨rfl, hrest⟩ := h
      have hafter : P (e.after r) := hP.stage (e.stageEffect_after r) hs
      obtain ⟨ht, hran⟩ := ih hrest hafter
      exact ⟨ht, List.forall_mem_cons.mpr ⟨⟨hs, hafter⟩, hran⟩⟩

theorem runPipeline (hP : Invariant r P) {s : Session} (hs : P s) (pipeline : Pipeline) :
    P (s.runPipeline r pipeline).2 ∧
      ∀ e ∈ s.executed r pipeline, P e.before ∧ P (e.after r) := by
  obtain ⟨t, hlinked, hend⟩ := s.exists_linked_executed r pipeline
  obtain ⟨ht, hran⟩ := hP.linked hlinked hs
  refine ⟨?_, hran⟩
  rcases hend with heq | ⟨last, -, hdelivery⟩
  · exact heq ▸ ht
  · exact hP.delivery hdelivery ht

theorem runPipelines (hP : Invariant r P) {s : Session} (hs : P s) (pipelines : List Pipeline) :
    P (s.runPipelines r pipelines).2 ∧
      ∀ e ∈ s.executedAll r pipelines, P e.before ∧ P (e.after r) := by
  induction pipelines generalizing s with
  | nil => exact ⟨hs, by simp [executedAll]⟩
  | cons pipeline rest ih =>
      obtain ⟨hfirst, hran⟩ := hP.runPipeline hs pipeline
      rw [Session.runPipelines, executedAll]
      cases hrun : s.runPipeline r pipeline with
      | mk result s' =>
          rw [hrun] at hfirst
          cases result with
          | error e => exact ⟨hfirst, by simpa using hran⟩
          | ok output =>
              obtain ⟨hend, hrest⟩ := ih hfirst
              refine ⟨?_, fun e he ↦ (List.mem_append.mp he).elim (hran e) (hrest e)⟩
              simp only
              cases hrestRun : s'.runPipelines r rest with
              | mk result s'' =>
                  rw [hrestRun] at hend
                  cases result <;> exact hend

theorem runSequence (hP : Invariant r P) {s : Session} (hs : P s) (sequence : Sequence) :
    P (s.runSequence r sequence).2 := by
  have hend := (hP.runPipelines hs sequence).1
  rw [Session.runSequence]
  cases hrun : s.runPipelines r sequence with
  | mk result s' =>
      rw [hrun] at hend
      cases result <;> exact hend

theorem interpret (hP : Invariant r P) {s : Session} (hs : P s) (line : String) :
    P (s.interpret r line).2 :=
  hP.runSequence (hP.note _ hs) _

end Invariant

/-- The parts of a session that no stage touches. -/
structure Untouched (s t : Session) : Prop where
  history : t.history = s.history
  buffer : t.buffer = s.buffer
  registry : t.registry = s.registry
  external : t.external = s.external
  historyExpansion : t.historyExpansion = s.historyExpansion

theorem Untouched.refl (s : Session) : s.Untouched s := ⟨rfl, rfl, rfl, rfl, rfl⟩

theorem invariant_untouched (r : Runner) (s : Session) : Invariant r s.Untouched where
  stage h ht := by
    cases h with
    | nothing => exact ht
    | command _ he => cases he <;> exact ⟨ht.1, ht.2, ht.3, ht.4, ht.5⟩
    | program => exact ⟨ht.1, ht.2, ht.3, ht.4, ht.5⟩
  delivery h ht := by cases h <;> exact ⟨ht.1, ht.2, ht.3, ht.4, ht.5⟩
  note _ ht := ⟨ht.1, ht.2, ht.3, ht.4, ht.5⟩

/-- Edit mode is left and its buffer changed, and a file may be written. -/
theorem editLine_eq_with (s : Session) (line : String) :
    ∃ mode buffer w,
      (s.editLine line).2 = { s with mode := mode, buffer := buffer, world := w } := by
  unfold editLine
  split
  · exact ⟨.normal, s.buffer, s.world, rfl⟩
  · exact ⟨s.mode, s.buffer, s.world, rfl⟩
  · exact ⟨s.mode, [], s.world, rfl⟩
  · rename_i target _
    unfold writeBuffer
    split_ifs
    · exact ⟨s.mode, s.buffer, s.world, rfl⟩
    · split
      · rename_i w _
        exact ⟨s.mode, s.buffer, w, rfl⟩
      · exact ⟨s.mode, s.buffer, s.world, rfl⟩
  · exact ⟨s.mode, s.buffer ++ [line], s.world, rfl⟩

/-- A property that lines keep, in either mode. -/
structure LineInvariant (r : Runner) (P : Session → Prop) : Prop extends Invariant r P where
  record : ∀ {s : Session} (entry : String), P s → P { s with history := s.history ++ [entry] }
  edit : ∀ {s : Session} (line : String), P s → P (s.editLine line).2

theorem runRecorded_eq (s : Session) (r : Runner) (entry : String) :
    (s.runRecorded r entry).2 =
      (({ s with history := s.history ++ [entry] } : Session).interpret r entry).2 := by
  rw [runRecorded]
  cases ({ s with history := s.history ++ [entry] } : Session).interpret r entry with
  | mk result s' => cases result <;> rfl

namespace LineInvariant

variable {r : Runner} {P : Session → Prop}

theorem run (hP : LineInvariant r P) {s : Session} (hs : P s) (line : String) :
    P (s.run r line).2 := by
  cases hentered : s.entered line with
  | some entry =>
      rw [run_of_entered hentered, runRecorded_eq]
      exact hP.interpret (hP.record entry hs) entry
  | none =>
      rw [run_of_not_entered hentered]
      split_ifs
      · exact hP.edit line hs
      · exact hs

theorem runAll (hP : LineInvariant r P) {s : Session} (hs : P s) (lines : List String) :
    P (s.runAll r lines) := by
  induction lines generalizing s with
  | nil => exact hs
  | cons line rest ih => exact ih (hP.run hs line)

theorem executedIn (hP : LineInvariant r P) {s : Session} (hs : P s) (line : String) :
    ∀ e ∈ s.executedIn r line, P e.before ∧ P (e.after r) := by
  rw [Session.executedIn]
  cases s.entered line with
  | none => simp
  | some entry => exact (hP.runPipelines (hP.note _ (hP.record entry hs)) _).2

end LineInvariant

end Session
end LineShell
