import Mathlib
import LineShell.Session.Start
import LineShell.Proofs.Session.Executed
import LineShell.Proofs.Session.AliasWords

/-!
# What a name stands for

`which` and the stages decide separately what a name stands for.  Each looks among the
built-in commands first, then among the aliases, and last for a program, with a resolver
of its own.  Both resolvers are made of the same settings and no line touches them, so
that the two decisions agree in every session that lines lead to.
-/

namespace LineShell
namespace Session

/-- `which` finds the programs that stages find. -/
def Consistent (s : Session) : Prop :=
  s.whichResolver = s.resolver

theorem consistent_start (c : Config) (w : World) (directory : String) :
    ((start c w).startAt directory).Consistent := rfl

theorem lineInvariant_consistent (r : Runner) : LineInvariant r Consistent where
  stage h hs := by
    cases h with
    | nothing => exact hs
    | program => exact hs
    | command _ he => cases he <;> exact hs
  delivery h hs := by cases h <;> exact hs
  note _ hs := hs
  record _ hs := hs
  edit {s} line hs := by
    obtain ⟨mode, buffer, w, heq⟩ := s.editLine_eq_with line
    rw [heq]
    exact hs

/-- The four ways in which a stage's name is decided, each with what the session knows of
the name. -/
inductive Decided (s : Session) (name : String) : Dispatch → Prop
  | command {b : Builtin} (hname : b.name = name) (h : s.registry.builtin? name = some b) :
      Decided s name (.handler (.builtin b))
  | aliased {expansion : String} (hbuiltin : s.registry.builtin? name = none)
      (h : s.aliases.get? name = some expansion) : Decided s name (.handler (.alias expansion))
  | found {path : String} (hbuiltin : s.registry.builtin? name = none)
      (halias : s.aliases.get? name = none) (h : s.findProgram name = some path) :
      Decided s name (.program path)
  | unknown (hbuiltin : s.registry.builtin? name = none) (halias : s.aliases.get? name = none)
      (h : s.findProgram name = none) : Decided s name .unknown

theorem decided_dispatch (s : Session) (name : String) : s.Decided name (s.dispatch name) := by
  unfold dispatch handler?
  cases hbuiltin : s.registry.builtin? name with
  | some b => exact .command (Registry.name_of_builtin? hbuiltin) hbuiltin
  | none =>
      cases halias : s.aliases.get? name with
      | some expansion => exact .aliased hbuiltin halias
      | none =>
          cases hfound : s.findProgram name with
          | some path => exact .found hbuiltin halias hfound
          | none => exact .unknown hbuiltin halias hfound

namespace Dispatch

/-- What a decision takes a name to stand for. -/
def meaning : Dispatch → Command.Meaning
  | .handler (.builtin _) => .builtin
  | .handler (.alias expansion) => .alias expansion
  | .program path => .program path
  | .unknown => .unknown

theorem meaning_eq_builtin_iff (d : Dispatch) :
    d.meaning = .builtin ↔ ∃ b, d = .handler (.builtin b) := by
  match d with
  | .handler (.builtin b) => simp [meaning]
  | .handler (.alias _) | .program _ | .unknown => simp [meaning]

theorem meaning_eq_alias_iff (d : Dispatch) (expansion : String) :
    d.meaning = .alias expansion ↔ d = .handler (.alias expansion) := by
  match d with
  | .handler (.builtin _) | .handler (.alias _) | .program _ | .unknown => simp [meaning]

theorem meaning_eq_program_iff (d : Dispatch) (path : String) :
    d.meaning = .program path ↔ d = .program path := by
  match d with
  | .handler (.builtin _) | .handler (.alias _) | .program _ | .unknown => simp [meaning]

theorem meaning_eq_unknown_iff (d : Dispatch) : d.meaning = .unknown ↔ d = .unknown := by
  match d with
  | .handler (.builtin _) | .handler (.alias _) | .program _ | .unknown => simp [meaning]

end Dispatch

variable {s : Session}

/-- `which` takes a name to stand for what a stage does. -/
theorem Consistent.meaning_eq (h : s.Consistent) (name : String) :
    Command.meaning s name = (s.dispatch name).meaning := by
  have hprogram : s.whichResolver.resolve s.world s.current name = s.findProgram name := by
    rw [findProgram, h]
  have hdecided := s.decided_dispatch name
  rw [Command.meaning, Registry.contains, hprogram]
  generalize s.dispatch name = d at hdecided ⊢
  cases hdecided with
  | command _ hbuiltin => simp [hbuiltin, Dispatch.meaning]
  | aliased hbuiltin halias => simp [hbuiltin, halias, Dispatch.meaning]
  | found hbuiltin halias hfound => simp [hbuiltin, halias, hfound, Dispatch.meaning]
  | unknown hbuiltin halias hfound => simp [hbuiltin, halias, hfound, Dispatch.meaning]

/-- A stage does what its name stands for: it runs the command of this name, or the handler of
the alias, which begins with the expansion, or the program at the path, or nothing. -/
inductive CarriedOut (s : Session) (r : Runner) (stage : Stage) (input : Option String) :
    Command.Meaning → Prop
  | command {b : Builtin} (hname : b.name = stage.name)
      (hrun : s.runStage r stage input = (.ok (b.run s ⟨stage.name, stage.args, input⟩).1,
        (b.run s ⟨stage.name, stage.args, input⟩).2)) : CarriedOut s r stage input .builtin
  | aliased {expansion : String}
      (hfirst : s.expandAlias stage.name stage.args =
        s.expandAliasFrom s.aliases.size [stage.name] expansion stage.args)
      (hrun : s.runStage r stage input = (.ok (s.runAlias ⟨stage.name, stage.args, input⟩).1,
        (s.runAlias ⟨stage.name, stage.args, input⟩).2)) :
      CarriedOut s r stage input (.alias expansion)
  | started {path : String}
      (hrun : s.runStage r stage input = s.runProgram r path stage.args input) :
      CarriedOut s r stage input (.program path)
  | refused (hrun : s.runStage r stage input = (.ok ("Unknown command: " ++ stage.name), s)) :
      CarriedOut s r stage input .unknown

theorem carriedOut_dispatch (s : Session) (r : Runner) (stage : Stage) (input : Option String) :
    s.CarriedOut r stage input (s.dispatch stage.name).meaning := by
  have hdecided := s.decided_dispatch stage.name
  generalize hdispatch : s.dispatch stage.name = d at hdecided ⊢
  cases hdecided with
  | command hname _ => exact .command hname (by simp only [runStage, hdispatch, runHandler])
  | aliased _ halias =>
      exact .aliased (by simp only [expandAlias, halias])
        (by simp only [runStage, hdispatch, runHandler])
  | found => exact .started (by simp only [runStage, hdispatch])
  | unknown => exact .refused (by simp only [runStage, hdispatch])

/-- What `which` tells of a name, a stage of this name is decided by and does. -/
structure Truthful (s : Session) (r : Runner) (name : String) : Prop where
  tells_line : ∀ input, Builtin.which.run s ⟨"which", [name], input⟩ =
    ((Command.meaning s name).line name, s)
  tells_builtin : Command.meaning s name = .builtin ↔
    ∃ b : Builtin, b.name = name ∧ s.dispatch name = .handler (.builtin b)
  tells_alias : ∀ expansion, Command.meaning s name = .alias expansion ↔
    s.dispatch name = .handler (.alias expansion)
  tells_program : ∀ path, Command.meaning s name = .program path ↔
    s.dispatch name = .program path
  tells_unknown : Command.meaning s name = .unknown ↔ s.dispatch name = .unknown
  does : ∀ args redirect input,
    s.CarriedOut r ⟨name, args, redirect⟩ input (Command.meaning s name)

theorem Consistent.truthful (h : s.Consistent) (r : Runner) (name : String) :
    s.Truthful r name := by
  have hmeaning := h.meaning_eq name
  refine ⟨fun _ ↦ ?_, ?_, fun expansion ↦ ?_, fun path ↦ ?_, ?_, fun args redirect input ↦ ?_⟩
  · simp [Builtin.run, Command.which, Command.whichLine, Text.joinWith]
  · rw [hmeaning, Dispatch.meaning_eq_builtin_iff]
    constructor
    · rintro ⟨b, hb⟩
      have hdecided := hb ▸ s.decided_dispatch name
      cases hdecided with
      | command hname _ => exact ⟨b, hname, hb⟩
    · rintro ⟨b, -, hb⟩
      exact ⟨b, hb⟩
  · rw [hmeaning, Dispatch.meaning_eq_alias_iff]
  · rw [hmeaning, Dispatch.meaning_eq_program_iff]
  · rw [hmeaning, Dispatch.meaning_eq_unknown_iff]
  · rw [hmeaning]
    exact s.carriedOut_dispatch r ⟨name, args, redirect⟩ input

/-- In a session that was started with some settings, after any lines and at any stage of the
next one, `which` tells of every name what a stage of this name is carried out by. -/
theorem truthful_runAll (c : Config) (w : World) (directory : String) (r : Runner)
    (lines : List String) (name : String) :
    let t := ((start c w).startAt directory).runAll r lines
    t.Truthful r name ∧ ∀ line, ∀ e ∈ t.executedIn r line, e.before.Truthful r name := by
  intro t
  have ht : t.Consistent :=
    (lineInvariant_consistent r).runAll (consistent_start c w directory) lines
  refine ⟨ht.truthful r name, fun line e he ↦ ?_⟩
  exact ((lineInvariant_consistent r).executedIn ht line e he).1.truthful r name

/-- A world with a program on its search path. -/
def withProgram : World where
  tree := ⟨[(["bin"], .newDirectory 0), (["bin", "tool"], .file [] ⟨0o755, 0⟩)]⟩
  here := []
  clock := 0
  environment := .ofList [("PATH", "/bin")]
  accountHome := "/"

theorem truthful_runAll_withProgram :
    let t := ((start Config.default withProgram).startAt "/").runAll .silent
      ["alias tool 'echo a'"]
    (Command.meaning t "tool" = .alias "echo a" ∧
      t.dispatch "tool" = .handler (.alias "echo a")) ∧
      ∃ e ∈ t.executedIn .silent "unalias tool; which tool",
        Command.meaning e.before "tool" = .program "/bin/tool" ∧
        e.before.dispatch "tool" = .program "/bin/tool" ∧
        e.before.runStage .silent ⟨"tool", ["b"], {}⟩ none =
          e.before.runProgram .silent "/bin/tool" ["b"] none := by
  intro t
  obtain ⟨hafter, hwithin⟩ := truthful_runAll Config.default withProgram "/" .silent
    ["alias tool 'echo a'"] "tool"
  have halias : Command.meaning t "tool" = .alias "echo a" := by decide +kernel
  have hran : (t.executedIn .silent "unalias tool; which tool").map (fun e ↦
      Command.meaning e.before "tool") = [.alias "echo a", .program "/bin/tool"] := by
    decide +kernel
  have hmem : Command.Meaning.program "/bin/tool" ∈
      (t.executedIn .silent "unalias tool; which tool").map fun e ↦
        Command.meaning e.before "tool" := by simp [hran]
  obtain ⟨e, he, hprogram⟩ := List.mem_map.mp hmem
  have htruthful := hwithin "unalias tool; which tool" e he
  have hdoes := htruthful.does ["b"] {} none
  rw [hprogram] at hdoes
  cases hdoes with
  | started hrun =>
      exact ⟨⟨halias, (hafter.tells_alias _).mp halias⟩, e, he, hprogram,
        (htruthful.tells_program _).mp hprogram, hrun⟩

end Session
end LineShell
