import Mathlib
import LineShell.Session.Start
import LineShell.Proofs.Session.Executed
import LineShell.Proofs.Session.AliasWords

/-!
# The frame of a pipeline

Whether it succeeds or fails, a pipeline leaves the history and the edit buffer
alone.  Directories, aliases and mode change only if an executed stage leads to the
command that is there for it, and files only through the commands that change
files, through programs, and at the target of the last stage's redirect.
-/

namespace LineShell
namespace Session

namespace StageEffect

variable {r : Runner} {s s' : Session} {name : String}

theorem leads_cd (h : s.StageEffect r name s')
    (hne : (s'.current, s'.previous) ≠ (s.current, s.previous)) : s.Leads name .cd := by
  cases h with
  | nothing => exact absurd rfl hne
  | program => exact absurd rfl hne
  | command hleads he =>
      cases he with
      | move => exact hleads
      | nothing | enterEdit | define | files => exact absurd rfl hne

theorem leads_alias (h : s.StageEffect r name s') (hne : s'.aliases ≠ s.aliases) :
    s.Leads name .alias ∨ s.Leads name .unalias := by
  cases h with
  | nothing => exact absurd rfl hne
  | program => exact absurd rfl hne
  | command hleads he =>
      cases he with
      | define hb =>
          rcases hb with rfl | rfl
          · exact .inl hleads
          · exact .inr hleads
      | nothing | enterEdit | move | files => exact absurd rfl hne

theorem leads_edit (h : s.StageEffect r name s') (hne : s'.mode ≠ s.mode) :
    s.Leads name .edit := by
  cases h with
  | nothing => exact absurd rfl hne
  | program => exact absurd rfl hne
  | command hleads he =>
      cases he with
      | enterEdit => exact hleads
      | nothing | move | define | files => exact absurd rfl hne

theorem leads_changesFiles (h : s.StageEffect r name s') (hne : s'.world ≠ s.world) :
    (∃ b, b.changesFiles = true ∧ s.Leads name b) ∨ ∃ path, s.dispatch name = .program path := by
  cases h with
  | nothing => exact absurd rfl hne
  | program hname => exact .inr ⟨_, hname⟩
  | command hleads he =>
      cases he with
      | files hb => exact .inl ⟨_, hb, hleads⟩
      | nothing | enterEdit | move | define => exact absurd rfl hne

end StageEffect

/-- A delivery changes nothing but files and records. -/
theorem Delivery.eq_with {r : Runner} {s s' : Session} {redirect : Redirect}
    (h : s.Delivery r redirect s') : s' = { s with world := s'.world, log := s'.log } := by
  cases h <;> rfl

theorem dispatch_builtin {s : Session} {name : String} {b : Builtin}
    (h : s.registry.builtin? name = some b) : s.dispatch name = .handler (.builtin b) := by
  simp [dispatch, handler?, h]

/-- What a part of the session outside files and records is after a pipeline, it is
after the stages. -/
theorem exists_executed_of_ne {r : Runner} {s : Session} {pipeline : Pipeline} {α : Type}
    {f : Session → α} (hf : ∀ t w log, f { t with world := w, log := log } = f t)
    (hne : f (s.runPipeline r pipeline).2 ≠ f s) :
    ∃ e ∈ s.executed r pipeline, f (e.after r) ≠ f e.before := by
  obtain ⟨t, hlinked, hend⟩ := s.exists_linked_executed r pipeline
  have hstages : f (s.runPipeline r pipeline).2 = f t := by
    rcases hend with heq | ⟨last, -, hdelivery⟩
    · rw [heq]
    · rw [hdelivery.eq_with, hf]
  exact hlinked.exists_of_ne (hstages ▸ hne)

/-- The frame of a pipeline, with the executed stages as the only cause of changes:
history and edit buffer stay; directories, aliases and mode change only by a stage that
leads to the command for it; files change only by stages that may change them and by
the delivery of the output; and no alias hides a built-in command. -/
theorem runPipeline_frame (s : Session) (r : Runner) (pipeline : Pipeline) :
    let s' := (s.runPipeline r pipeline).2
    let ran := s.executed r pipeline
    ran.map (·.stage) <+: pipeline ∧
    s'.history = s.history ∧ s'.buffer = s.buffer ∧
    (s'.current ≠ s.current ∨ s'.previous ≠ s.previous → ∃ e ∈ ran, e.LeadsTo .cd) ∧
    (s'.aliases ≠ s.aliases → ∃ e ∈ ran, e.LeadsTo .alias ∨ e.LeadsTo .unalias) ∧
    (s'.mode ≠ s.mode → ∃ e ∈ ran, e.LeadsTo .edit) ∧
    (∃ t, Linked r s ran t ∧
      (∀ e ∈ ran, (e.after r).world ≠ e.before.world → e.MayChangeFiles) ∧
      (s' = t ∨ ∃ last, pipeline.getLast? = some last ∧ t.Delivery r last.redirect s')) ∧
    (∀ name b, s.registry.builtin? name = some b →
      (∀ e ∈ ran, e.before.dispatch name = .handler (.builtin b)) ∧
      ∀ aliases, ({ s' with aliases := aliases } : Session).dispatch name =
        .handler (.builtin b)) := by
  intro s' ran
  obtain ⟨huntouched, hran⟩ := (invariant_untouched r s).runPipeline (.refl s) pipeline
  refine ⟨s.stage_executed r pipeline, huntouched.history, huntouched.buffer, ?_, ?_, ?_, ?_, ?_⟩
  · intro hne
    have hpair : (s'.current, s'.previous) ≠ (s.current, s.previous) := by
      rintro heq
      obtain ⟨hcurrent, hprevious⟩ := Prod.mk.inj heq
      exact hne.elim (absurd hcurrent) (absurd hprevious)
    obtain ⟨e, he, hchanged⟩ :=
      exists_executed_of_ne (f := fun t ↦ (t.current, t.previous)) (fun _ _ _ ↦ rfl) hpair
    exact ⟨e, he, (e.stageEffect_after r).leads_cd hchanged⟩
  · intro hne
    obtain ⟨e, he, hchanged⟩ :=
      exists_executed_of_ne (f := fun t ↦ t.aliases) (fun _ _ _ ↦ rfl) hne
    exact ⟨e, he, (e.stageEffect_after r).leads_alias hchanged⟩
  · intro hne
    obtain ⟨e, he, hchanged⟩ :=
      exists_executed_of_ne (f := fun t ↦ t.mode) (fun _ _ _ ↦ rfl) hne
    exact ⟨e, he, (e.stageEffect_after r).leads_edit hchanged⟩
  · obtain ⟨t, hlinked, hend⟩ := s.exists_linked_executed r pipeline
    exact ⟨t, hlinked, fun e _ hchanged ↦ (e.stageEffect_after r).leads_changesFiles hchanged,
      hend⟩
  · intro name b hb
    constructor
    · intro e he
      exact dispatch_builtin ((hran e he).1.registry ▸ hb)
    · intro aliases
      have hregistry : s'.registry.builtin? name = some b := huntouched.registry ▸ hb
      exact dispatch_builtin hregistry

/-- A session at the root of a tree with one directory, and an alias that leads there. -/
def besideDirectory : Session :=
  { inEmptyWorld with
    world := { inEmptyWorld.world with tree := ⟨[(["d"], .newDirectory 0)]⟩ }
    aliases := Table.ofList [("go", "cd d")] }

/-- A pipeline that moves through an alias, removes this alias, and enters edit mode. -/
def leavingPipeline : Pipeline :=
  [⟨"go", [], {}⟩, ⟨"unalias", ["go"], {}⟩, ⟨"edit", [], ⟨.truncate, some "f"⟩⟩]

theorem runPipeline_frame_leavingPipeline :
    let s' := (besideDirectory.runPipeline .silent leavingPipeline).2
    let ran := besideDirectory.executed .silent leavingPipeline
    (s'.current ≠ besideDirectory.current ∧ ∃ e ∈ ran, e.LeadsTo .cd) ∧
    (s'.aliases ≠ besideDirectory.aliases ∧ ∃ e ∈ ran, e.LeadsTo .alias ∨ e.LeadsTo .unalias) ∧
    (s'.mode ≠ besideDirectory.mode ∧ ∃ e ∈ ran, e.LeadsTo .edit) ∧
    besideDirectory.registry.builtin? "cd" = some .cd ∧
    ∀ e ∈ ran, e.before.dispatch "cd" = .handler (.builtin .cd) := by
  intro s' ran
  obtain ⟨-, -, -, hmoved, haliases, hmode, -, hbuiltin⟩ :=
    runPipeline_frame besideDirectory .silent leavingPipeline
  have hcurrent : s'.current ≠ besideDirectory.current := by decide +kernel
  have htable : s'.aliases ≠ besideDirectory.aliases := by decide +kernel
  have hentered : s'.mode ≠ besideDirectory.mode := by decide +kernel
  have hcd : besideDirectory.registry.builtin? "cd" = some .cd := by decide
  exact ⟨⟨hcurrent, hmoved (.inl hcurrent)⟩, ⟨htable, haliases htable⟩, ⟨hentered, hmode hentered⟩,
    hcd, (hbuiltin "cd" .cd hcd).1⟩

end Session
end LineShell
