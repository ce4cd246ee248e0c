import Mathlib
import LineShell.Session.Run
import LineShell.Proofs.World.Changes

/-!
# What a stage can do to a session

Each built-in command changes at most one thing: `cd` the directories, `edit` the
mode, `alias` and `unalias` the table of aliases, and four commands the files.  A
stage does what the command does that its name leads to, directly or through
aliases; a program changes files and leaves a record.  Everything that is said
about longer runs rests on this account of a single stage.
-/

namespace LineShell

/-- Whether a command is there to change files. -/
def Builtin.changesFiles : Builtin → Bool
  | .touch | .mkdir | .rm | .rmdir => true
  | _ => false

namespace Session

/-- What running a built-in command may make of a session. -/
inductive Effect (s : Session) : Builtin → Session → Prop
  | nothing (b : Builtin) : Effect s b s
  | move (arg : Option String) (h : s.world.isDirectory (Command.cdTarget s arg) = true) :
      Effect s .cd (s.changeDirectory (Command.cdTarget s arg))
  | enterEdit : Effect s .edit { s with mode := .edit }
  | define {b : Builtin} (h : b = .alias ∨ b = .unalias) (aliases : Table String) :
      Effect s b { s with aliases := aliases }
  | files {b : Builtin} (h : b.changesFiles = true) {w : World} (hw : s.world.FilesOnly w) :
      Effect s b (s.setWorld w)

end Session

namespace Command

theorem filesOnly_change {s : Session} {name : String} {result : Except SystemError World}
    (h : ∀ w, result = .ok w → s.world.FilesOnly w) :
    s.world.FilesOnly (change s name result).2 := by
  cases result with
  | ok w => exact h w rfl
  | error e => exact .refl s.world

theorem filesOnly_touchOne (s : Session) (file : String) :
    s.world.FilesOnly (touchOne s file).2 :=
  filesOnly_change fun _ h ↦ World.filesOnly_touch h

theorem filesOnly_mkdirOne (s : Session) (directory : String) :
    s.world.FilesOnly (mkdirOne s directory).2 := by
  unfold mkdirOne
  simp only
  exact s.world.filesOnly_makeDirectories (s.resolvePath directory)

theorem filesOnly_rmOne (s : Session) (file : String) :
    s.world.FilesOnly (rmOne s file).2 := by
  unfold rmOne
  simp only
  split_ifs
  · exact .refl s.world
  · exact .refl s.world
  · exact filesOnly_change fun _ h ↦ World.filesOnly_removeFile h

theorem filesOnly_rmdirOne (s : Session) (directory : String) :
    s.world.FilesOnly (rmdirOne s directory).2 := by
  unfold rmdirOne
  simp only
  split_ifs
  · exact .refl s.world
  · exact filesOnly_change fun _ h ↦ World.filesOnly_removeDirectory h

theorem changeEach_eq_setWorld {one : Change}
    (hone : ∀ (s : Session) operand, s.world.FilesOnly (one s operand).2) (s : Session)
    (operands : List String) :
    ∃ w, s.world.FilesOnly w ∧ (changeEach one s operands).2 = s.setWorld w := by
  induction operands generalizing s with
  | nil => exact ⟨s.world, .refl s.world, rfl⟩
  | cons operand rest ih =>
      have hfirst := hone s operand
      cases hresult : one s operand with
      | mk message w =>
          rw [hresult] at hfirst
          cases message with
          | none =>
              obtain ⟨w', hw', hrest⟩ := ih (s.setWorld w)
              refine ⟨w', hfirst.trans hw', ?_⟩
              rw [changeEach, hresult]
              exact hrest
          | some text => exact ⟨w, hfirst, by rw [changeEach, hresult]⟩

theorem effect_changeOperands {b : Builtin} (hb : b.changesFiles = true) {name : String}
    {one : Change} (hone : ∀ (s : Session) operand, s.world.FilesOnly (one s operand).2)
    (s : Session) (call : Invocation) : s.Effect b (changeOperands name one s call).2 := by
  unfold changeOperands
  split_ifs
  · exact .nothing b
  · obtain ⟨w, hw, heq⟩ := changeEach_eq_setWorld hone s call.operands
    rw [heq]
    exact .files hb hw

theorem effect_defineAlias (s : Session) (name expansion : String) :
    s.Effect .alias (defineAlias s name expansion).2 := by
  unfold defineAlias
  split_ifs
  · exact .nothing _
  · exact .define (.inl rfl) _
  · exact .define (.inl rfl) _

theorem effect_aliases (s : Session) (call : Invocation) :
    s.Effect .alias (aliases s call).2 := by
  unfold aliases
  split
  · exact .nothing _
  · split
    · exact effect_defineAlias s _ _
    · split_ifs
      · split <;> exact .nothing _
      · exact effect_defineAlias s _ _

end Command

theorem Builtin.effect_run (b : Builtin) (s : Session) (call : Invocation) :
    s.Effect b (b.run s call).2 := by
  match b with
  | .cd =>
      by_cases h : s.world.isDirectory (Command.cdTarget s call.args.head?) = true
      · simpa [Builtin.run, Command.cd, h] using Session.Effect.move _ h
      · simpa [Builtin.run, Command.cd, h] using Session.Effect.nothing .cd
  | .edit => exact .enterEdit
  | .touch => exact Command.effect_changeOperands rfl Command.filesOnly_touchOne s call
  | .rm => exact Command.effect_changeOperands rfl Command.filesOnly_rmOne s call
  | .mkdir => exact Command.effect_changeOperands rfl Command.filesOnly_mkdirOne s call
  | .rmdir => exact Command.effect_changeOperands rfl Command.filesOnly_rmdirOne s call
  | .alias => exact Command.effect_aliases s call
  | .unalias =>
      by_cases h : call.args = []
      · simpa [Builtin.run, Command.unalias, h] using Session.Effect.nothing .unalias
      · simpa [Builtin.run, Command.unalias, h] using Session.Effect.define (.inr rfl) _
  | .help | .clear | .ls | .pwd | .echo | .cat | .which | .history => exact .nothing _

namespace Session

/-- A name leads to a built-in command: it is its name, or that of an alias whose first
word leads there. -/
inductive Leads (s : Session) : String → Builtin → Prop
  | direct {name : String} {b : Builtin} (h : s.registry.builtin? name = some b) : Leads s name b
  | through {name expansion : String} {b : Builtin} (hname : s.registry.builtin? name = none)
      (h : s.aliases.get? name = some expansion)
      (hrest : Leads s (SimpleCommand.ofText expansion).name b) : Leads s name b

theorem leads_of_expandAliasFrom {s : Session} {steps : Nat} {chain : List String}
    {expansion : String} {args : List String} {target : AliasTarget}
    (h : s.expandAliasFrom steps chain expansion args = .ok target) :
    s.Leads (SimpleCommand.ofText expansion).name target.builtin := by
  induction steps generalizing chain expansion args with
  | zero => cases h
  | succ steps ih =>
      rw [expandAliasFrom] at h
      cases hb : s.registry.builtin? (SimpleCommand.ofText expansion).name with
      | some b =>
          simp only [hb] at h
          obtain rfl := Except.ok.inj h
          exact .direct hb
      | none =>
          simp only [hb] at h
          split_ifs at h
          cases hnext : s.aliases.get? (SimpleCommand.ofText expansion).name with
          | some next =>
              simp only [hnext] at h
              exact .through hb hnext (ih h)
          | none => simp [hnext] at h

/-- What a stage with this name may make of a session. -/
inductive StageEffect (r : Runner) (s : Session) (name : String) : Session → Prop
  | nothing : StageEffect r s name s
  | command {b : Builtin} {s' : Session} (hname : s.Leads name b) (h : s.Effect b s') :
      StageEffect r s name s'
  | program {path : String} (hname : s.dispatch name = .program path) (notices : List Notice)
      {w : World} (h : (r.keep notices s.world).FilesOnly w) :
      StageEffect r s name { s with world := w, log := s.log ++ notices }

theorem stageEffect_runAlias {s : Session} (r : Runner) (call : Invocation) {expansion : String}
    (hname : s.registry.builtin? call.name = none)
    (halias : s.aliases.get? call.name = some expansion) :
    s.StageEffect r call.name (s.runAlias call).2 := by
  unfold runAlias
  cases h : s.expandAlias call.name call.args with
  | error e => exact .nothing
  | ok target =>
      rw [expandAlias, halias] at h
      have hleads : s.Leads call.name target.builtin :=
        .through hname halias (leads_of_expandAliasFrom h)
      exact .command hleads (target.builtin.effect_run s _)

theorem stageEffect_runProgram {s : Session} (r : Runner) {name path : String}
    (hname : s.dispatch name = .program path) (args : List String) (input : Option String) :
    s.StageEffect r name (s.runProgram r path args input).2 :=
  .program hname _ (r.filesOnly _ _ _ _)

theorem stageEffect_runStage (s : Session) (r : Runner) (stage : Stage)
    (input : Option String) :
    s.StageEffect r stage.name (s.runStage r stage input).2 := by
  unfold runStage
  cases hname : s.dispatch stage.name with
  | unknown => exact .nothing
  | program path => exact stageEffect_runProgram r hname stage.args input
  | handler h =>
      have hhandler : s.handler? stage.name = some h := by
        unfold dispatch at hname
        cases hh : s.handler? stage.name with
        | some h' => simpa [hh] using hname
        | none =>
            simp only [hh] at hname
            split at hname <;> cases hname
      unfold handler? at hhandler
      cases hb : s.registry.builtin? stage.name with
      | some b =>
          obtain rfl : Handler.builtin b = h := by simpa [hb] using hhandler
          exact .command (.direct hb) (b.effect_run s _)
      | none =>
          simp only [hb] at hhandler
          obtain ⟨expansion, halias, rfl⟩ := Option.map_eq_some_iff.mp hhandler
          exact stageEffect_runAlias r ⟨stage.name, stage.args, input⟩ hb halias

/-- What delivering the output of a pipeline may make of a session. -/
inductive Delivery (r : Runner) (s : Session) (redirect : Redirect) : Session → Prop
  | kept : Delivery r s redirect s
  | written {target : String} {loc : Location} {w : World} (hpath : redirect.path = some target)
      (hkind : redirect.kind.isOutput = true) (hnames : s.world.Names (s.resolvePath target) loc)
      (hw : s.world.DiffersAt loc w) : Delivery r s redirect (s.setWorld w)
  | failed {target : String} (hpath : redirect.path = some target)
      (hkind : redirect.kind.isOutput = true) (cause : SystemError) :
      Delivery r s redirect (s.note r [.redirectFailed (s.resolvePath target) cause])

theorem differsAt_writeOutput {w w' : World} {path output : String} {kind : RedirectKind}
    (hkind : kind.isOutput = true) (h : writeOutput w path kind output = .ok w') :
    ∃ loc, w.Names path loc ∧ w.DiffersAt loc w' := by
  cases kind with
  | truncate =>
      rw [writeOutput, World.write] at h
      exact World.differsAt_modifyFile h
  | append =>
      rw [writeOutput] at h
      exact World.differsAt_modifyFile h
  | input => simp [RedirectKind.isOutput] at hkind
  | none => simp [RedirectKind.isOutput] at hkind

theorem delivery_deliver (s : Session) (r : Runner) (redirect : Redirect) (output : String) :
    s.Delivery r redirect (s.deliver r redirect output).2 := by
  unfold deliver
  cases hpath : redirect.path with
  | none => exact .kept
  | some target =>
      by_cases hkind : redirect.kind.isOutput = true
      · simp only [hkind, if_true]
        cases hwrite : writeOutput s.world (s.resolvePath target) redirect.kind output with
        | ok w =>
            obtain ⟨loc, hnames, hdiffers⟩ := differsAt_writeOutput hkind hwrite
            exact .written hpath hkind hnames hdiffers
        | error cause => exact .failed hpath hkind cause
      · simpa [hkind] using Delivery.kept

end Session
end LineShell
