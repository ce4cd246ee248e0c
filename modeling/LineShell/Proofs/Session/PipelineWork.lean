import Mathlib
import LineShell.Session.Start
import LineShell.Proofs.Session.Executed
import LineShell.Proofs.Session.Outcome
import LineShell.Proofs.Session.AliasWords

/-!
# What counts of a pipeline

A run looks at the words of all stages, at the file that the first stage reads, and at the
file that the last stage writes.  Pipelines that agree in these run alike, stage by stage.
All other redirects are out of place: an input redirect after the first stage and an output
redirect before the last one are as good as none.
-/

namespace LineShell

namespace Redirect

/-- What an input redirect asks for; the file may be missing in it. -/
def source? (redirect : Redirect) : Option (Option String) :=
  if redirect.kind = .input then some redirect.path else none

/-- The file that an output redirect writes, and the way in which it does. -/
def sink? (redirect : Redirect) : Option (RedirectKind × String) :=
  if redirect.kind.isOutput then redirect.path.map (redirect.kind, ·) else none

theorem source?_eq_none {redirect : Redirect} (h : redirect.kind ≠ .input) :
    redirect.source? = none :=
  if_neg h

theorem sink?_eq_none {redirect : Redirect} (h : redirect.kind.isOutput = false) :
    redirect.sink? = none := by
  simp [sink?, h]

end Redirect

/-- The words of a stage, without its redirect. -/
def Stage.command (stage : Stage) : SimpleCommand :=
  ⟨stage.name, stage.args⟩

namespace Pipeline

/-- What counts of a pipeline. -/
structure Work where
  commands : List SimpleCommand
  source : Option (Option String)
  sink : Option (RedirectKind × String)

def work (p : Pipeline) : Work where
  commands := p.map Stage.command
  source := p.head?.bind (·.redirect.source?)
  sink := p.getLast?.bind (·.redirect.sink?)

/-- A redirect that is out of place at a stage: it reads after the first stage, or writes
before the last one. -/
def Misplaced (length i : Nat) (redirect : Redirect) : Prop :=
  redirect.kind = .input ∧ i ≠ 0 ∨ redirect.kind.isOutput = true ∧ i + 1 ≠ length

instance (length i : Nat) (redirect : Redirect) : Decidable (Misplaced length i redirect) :=
  inferInstanceAs (Decidable (_ ∨ _))

/-- The stage at a place of a pipeline, without a redirect if that is out of place. -/
def placed (length i : Nat) (stage : Stage) : Stage :=
  if Misplaced length i stage.redirect then { stage with redirect := {} } else stage

/-- The pipeline without the redirects that are out of place. -/
def withoutMisplaced (p : Pipeline) : Pipeline :=
  p.mapIdx (placed p.length)

@[simp] theorem command_placed (length i : Nat) (stage : Stage) :
    (placed length i stage).command = stage.command := by
  unfold placed
  split_ifs <;> rfl

theorem source?_placed_zero (length : Nat) (stage : Stage) :
    (placed length 0 stage).redirect.source? = stage.redirect.source? := by
  unfold placed
  split_ifs with h
  -- At the first stage only an output redirect is out of place, and that reads nothing.
  · obtain ⟨hkind, -⟩ : stage.redirect.kind.isOutput = true ∧ 0 + 1 ≠ length := by
      simpa [Misplaced] using h
    have hinput : stage.redirect.kind ≠ .input := by
      intro heq
      simp [heq, RedirectKind.isOutput] at hkind
    rw [Redirect.source?_eq_none hinput]
    rfl
  · rfl

theorem sink?_placed_last {length i : Nat} (hlast : i + 1 = length) (stage : Stage) :
    (placed length i stage).redirect.sink? = stage.redirect.sink? := by
  unfold placed
  split_ifs with h
  · obtain ⟨hkind, -⟩ : stage.redirect.kind = .input ∧ i ≠ 0 := by
      simpa [Misplaced, hlast] using h
    have houtput : stage.redirect.kind.isOutput = false := by rw [hkind]; rfl
    rw [Redirect.sink?_eq_none houtput]
    rfl
  · rfl

theorem work_withoutMisplaced (p : Pipeline) : p.withoutMisplaced.work = p.work := by
  have hcommands : p.withoutMisplaced.map Stage.command = p.map Stage.command :=
    List.ext_getElem (by simp [withoutMisplaced]) fun i _ _ ↦ by simp [withoutMisplaced]
  have hsource : p.withoutMisplaced.head?.bind (·.redirect.source?) =
      p.head?.bind (·.redirect.source?) := by
    cases p with
    | nil => rfl
    | cons first rest => simp [withoutMisplaced, List.mapIdx_cons, source?_placed_zero]
  have hsink : p.withoutMisplaced.getLast?.bind (·.redirect.sink?) =
      p.getLast?.bind (·.redirect.sink?) := by
    rcases List.eq_nil_or_concat p with rfl | ⟨init, last, rfl⟩
    · rfl
    · simp [withoutMisplaced, List.mapIdx_append, sink?_placed_last]
  rw [work, hcommands, hsource, hsink]
  rfl

end Pipeline

namespace Session

/-- What a stage gets to do: its words and its input, and the session in which it starts. -/
def Executed.task (e : Executed) : Session × SimpleCommand × Option String :=
  (e.before, e.stage.command, e.input)

variable (s : Session) (r : Runner)

def delivered (redirect : Redirect) (output : String) : Outcome String :=
  (.ok (s.deliver r redirect output).1, (s.deliver r redirect output).2)

/-- Runs all stages of a pipeline, of which the first one gets an input. -/
def runFrom (input : Option String) (first : Stage) (rest : List Stage) : Outcome String :=
  (s.runStage r first input).next fun output t ↦ t.runStages r output rest

variable {s r}

theorem runPipeline_eq_runFrom {first : Stage} {input : Option String}
    (h : s.readInput first = .ok (.text input)) (rest : List Stage) :
    s.runPipeline r (first :: rest) = (s.runFrom r input first rest).next fun output t ↦
      t.delivered r (lastStage first rest).redirect output := by
  rw [runPipeline_cons s r h, runFrom, Outcome.next_assoc]
  rfl

/-- Pipelines that read the same may be compared on the input that they read: where there is
none, neither comes to a stage. -/
theorem runPipeline_eq_of_read {a b : Stage} {xs ys : List Stage}
    (hread : s.readInput a = s.readInput b)
    (h : ∀ input, s.readInput b = .ok (.text input) →
      s.runPipeline r (a :: xs) = s.runPipeline r (b :: ys)) :
    s.runPipeline r (a :: xs) = s.runPipeline r (b :: ys) := by
  cases hinput : s.readInput b with
  | error e => rw [runPipeline, runPipeline, hread, hinput]
  | ok read =>
      cases read with
      | message text => rw [runPipeline, runPipeline, hread, hinput]
      | text input => exact h input hinput

theorem readInput_congr {a b : Stage} (hcommand : a.command = b.command)
    (hsource : a.redirect.source? = b.redirect.source?) : s.readInput a = s.readInput b := by
  have hname : a.name = b.name := congrArg SimpleCommand.name hcommand
  unfold Redirect.source? at hsource
  unfold readInput
  split_ifs at hsource ⊢
  · rw [Option.some.inj hsource, hname]
  · rfl

theorem delivered_of_sink?_eq_none {redirect : Redirect} (h : redirect.sink? = none)
    (output : String) : s.delivered r redirect output = (.ok output, s) := by
  unfold Redirect.sink? at h
  unfold delivered deliver
  cases hpath : redirect.path with
  | none => rfl
  | some target =>
      have hkind : ¬redirect.kind.isOutput = true := by
        intro hkind
        simp [hkind, hpath] at h
      simp [hkind]

theorem delivered_congr {a b : Redirect} (h : a.sink? = b.sink?) (output : String) :
    s.delivered r a output = s.delivered r b output := by
  cases hsink : a.sink? with
  | none =>
      rw [delivered_of_sink?_eq_none hsink, delivered_of_sink?_eq_none (h ▸ hsink)]
  | some sink =>
      obtain ⟨kind, target⟩ := sink
      -- An output redirect with a file is known from what it writes.
      have hparts : ∀ c : Redirect, c.sink? = some (kind, target) →
          c.kind = kind ∧ c.path = some target := by
        intro c hc
        unfold Redirect.sink? at hc
        split_ifs at hc
        simpa [and_comm] using hc
      obtain ⟨hkinda, hpatha⟩ := hparts a hsink
      obtain ⟨hkindb, hpathb⟩ := hparts b (h ▸ hsink)
      simp only [delivered, deliver, hkinda, hpatha, hkindb, hpathb]

theorem runStage_congr {a b : Stage} (h : a.command = b.command) (input : Option String) :
    s.runStage r a input = s.runStage r b input := by
  obtain ⟨hname, hargs⟩ := SimpleCommand.mk.inj h
  simp only [runStage, hname, hargs]

theorem runStages_congr {xs ys : List Stage} (h : xs.map Stage.command = ys.map Stage.command)
    (piped : String) : s.runStages r piped xs = s.runStages r piped ys := by
  induction xs generalizing s piped ys with
  | nil =>
      obtain rfl : ys = [] := by simpa using h.symm
      rfl
  | cons x xs ih =>
      obtain ⟨y, ys, rfl, hfirst, hrest⟩ := List.map_eq_cons_iff.mp h.symm
      have hargs : x.args = y.args := congrArg SimpleCommand.args hfirst.symm
      simp only [runStages_cons, runStage_congr hfirst.symm, hargs, ih hrest.symm]

theorem runFrom_congr {a b : Stage} {xs ys : List Stage}
    (h : (a :: xs).map Stage.command = (b :: ys).map Stage.command) (input : Option String) :
    s.runFrom r input a xs = s.runFrom r input b ys := by
  obtain ⟨hfirst, hrest⟩ := List.cons.inj h
  simp only [runFrom, runStage_congr hfirst, runStages_congr hrest]

theorem task_executedStages_congr {xs ys : List Stage}
    (h : xs.map Stage.command = ys.map Stage.command) (piped : String) :
    (s.executedStages r piped xs).map Executed.task =
      (s.executedStages r piped ys).map Executed.task := by
  induction xs generalizing s piped ys with
  | nil =>
      obtain rfl : ys = [] := by simpa using h.symm
      rfl
  | cons x xs ih =>
      obtain ⟨y, ys, rfl, hfirst, hrest⟩ := List.map_eq_cons_iff.mp h.symm
      have hargs : x.args = y.args := congrArg SimpleCommand.args hfirst.symm
      simp only [executedStages, List.map_cons, Executed.task, hfirst, hargs,
        runStage_congr hfirst.symm]
      cases s.runStage r y (if y.args = [] then some piped else none) with
      | mk result t =>
          cases result with
          | ok output => exact congrArg _ (ih hrest.symm output)
          | error e => rfl

/-- Pipelines of the same work have the same outcome. -/
theorem runPipeline_congr {p q : Pipeline} (h : p.work = q.work) :
    s.runPipeline r p = s.runPipeline r q := by
  obtain ⟨hcommands, hsource, hsink⟩ := Pipeline.Work.mk.inj h
  cases p with
  | nil =>
      obtain rfl : q = [] := by simpa using hcommands.symm
      rfl
  | cons a xs =>
      obtain ⟨b, ys, rfl, hfirst, -⟩ := List.map_eq_cons_iff.mp hcommands.symm
      have hread : s.readInput a = s.readInput b := readInput_congr hfirst.symm hsource
      have hlast : (lastStage a xs).redirect.sink? = (lastStage b ys).redirect.sink? := by
        simpa [getLast?_cons_lastStage] using hsink
      refine runPipeline_eq_of_read hread fun input hinput ↦ ?_
      rw [runPipeline_eq_runFrom (hread.trans hinput), runPipeline_eq_runFrom hinput,
        runFrom_congr hcommands]
      simp only [delivered_congr hlast]

/-- The stages of pipelines of the same work get to do the same. -/
theorem task_executed_congr {p q : Pipeline} (h : p.work = q.work) :
    (s.executed r p).map Executed.task = (s.executed r q).map Executed.task := by
  obtain ⟨hcommands, hsource, -⟩ := Pipeline.Work.mk.inj h
  cases p with
  | nil =>
      obtain rfl : q = [] := by simpa using hcommands.symm
      rfl
  | cons a xs =>
      obtain ⟨b, ys, rfl, hfirst, hrest⟩ := List.map_eq_cons_iff.mp hcommands.symm
      have hread : s.readInput a = s.readInput b := readInput_congr hfirst.symm hsource
      rw [executed, executed, hread]
      split
      · rename_i input _
        simp only [List.map_cons, Executed.task, hfirst, runStage_congr hfirst.symm]
        cases s.runStage r b input with
        | mk result t =>
            cases result with
            | ok output => exact congrArg _ (task_executedStages_congr hrest.symm output)
            | error e => rfl
      · rfl

/-- Redirects that are out of place do nothing.  Without them a pipeline has the same outcome,
each of its stages runs in the same session with the same words and input, and so does every
pipeline that has other such redirects instead. -/
theorem runPipeline_withoutMisplaced (s : Session) (r : Runner) (p : Pipeline) :
    s.runPipeline r p.withoutMisplaced = s.runPipeline r p ∧
      (s.executed r p.withoutMisplaced).map Executed.task =
        (s.executed r p).map Executed.task ∧
      ∀ q : Pipeline, q.withoutMisplaced = p.withoutMisplaced →
        s.runPipeline r q = s.runPipeline r p := by
  have hwork := p.work_withoutMisplaced
  refine ⟨runPipeline_congr hwork, task_executed_congr hwork, ?_⟩
  intro q hq
  have hsame : q.work = p.work := by
    rw [← q.work_withoutMisplaced, hq, hwork]
  exact runPipeline_congr hsame

/-- A session at the root of a tree with a directory, a file, and a program that copies. -/
def besideFile : Session :=
  { inEmptyWorld with
    world := { inEmptyWorld.world with
      tree := ⟨[(["d"], .newDirectory 0), (["f"], .newFile (Text.encode "hi") 0),
        (["copier"], .program .cat)]⟩ } }

/-- Neither the file that a first stage would write nor the one that a program after it would
read matters, be they named or not: the one that is there stays, and no other comes into being. -/
theorem runPipeline_withoutMisplaced_middle :
    let p : Pipeline :=
      [⟨"echo", ["x"], ⟨.truncate, some "f"⟩⟩, ⟨"./copier", [], ⟨.input, some "g"⟩⟩]
    let q : Pipeline :=
      [⟨"echo", ["x"], ⟨.append, some "h"⟩⟩, ⟨"./copier", [], ⟨.input, none⟩⟩]
    q.withoutMisplaced = p.withoutMisplaced ∧
      besideFile.runPipeline .silent q = besideFile.runPipeline .silent p ∧
      (besideFile.runPipeline .silent p).1 = .ok "x" ∧
      (besideFile.runPipeline .silent p).2.world = besideFile.world := by
  intro p q
  have hsame : q.withoutMisplaced = p.withoutMisplaced := by decide
  obtain ⟨-, -, hothers⟩ := runPipeline_withoutMisplaced besideFile .silent p
  exact ⟨hsame, hothers q hsame, by decide +kernel, by decide +kernel⟩

end Session
end LineShell
