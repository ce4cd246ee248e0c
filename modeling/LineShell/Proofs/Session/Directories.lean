import Mathlib
import LineShell.Proofs.Session.PipelineFrame
import LineShell.Proofs.Path.Normal

/-!
# The directories of a session

From an absolute directory on, both directories of a session are absolute and in
normal form, whatever is typed and whatever the home directory is: every target of
`cd` is one of them or is taken from the current one.  As the previous directory is
its own normal form, going back twice ends where it began.
-/

namespace LineShell
namespace Session

/-- Both directories are absolute and in normal form. -/
structure Rooted (s : Session) : Prop where
  current : Path.Rooted s.current
  previous : Path.Rooted s.previous

theorem Rooted.resolvePath {s : Session} (h : s.Rooted) (path : String) :
    Path.Rooted (s.resolvePath path) :=
  Path.rooted_normalize (by simp [h.current.absolute])

theorem Rooted.cdTarget {s : Session} (h : s.Rooted) (arg : Option String) :
    Path.Rooted (Command.cdTarget s arg) := by
  unfold Command.cdTarget
  split
  · exact h.resolvePath "~"
  · split_ifs
    · exact h.previous
    · exact h.resolvePath _

theorem rooted_startAt (s : Session) {directory : String}
    (h : Path.isAbsolute directory = true) : (s.startAt directory).Rooted :=
  ⟨Path.rooted_normalize h, Path.rooted_normalize h⟩

theorem changeDirectory_of_rooted {s : Session} {directory : String}
    (h : Path.Rooted directory) :
    s.changeDirectory directory = { s with current := directory, previous := s.current } := by
  rw [changeDirectory, h.normal]

theorem lineInvariant_rooted (r : Runner) : LineInvariant r Rooted where
  stage h hs := by
    cases h with
    | nothing => exact hs
    | program => exact ⟨hs.current, hs.previous⟩
    | command _ he =>
        cases he with
        | move arg =>
            rw [changeDirectory_of_rooted (hs.cdTarget arg)]
            exact ⟨hs.cdTarget arg, hs.current⟩
        | nothing => exact hs
        | enterEdit | define | files => exact ⟨hs.current, hs.previous⟩
  delivery h hs := by cases h <;> exact ⟨hs.current, hs.previous⟩
  note _ hs := ⟨hs.current, hs.previous⟩
  record _ hs := ⟨hs.current, hs.previous⟩
  edit {s} line hs := by
    obtain ⟨mode, buffer, w, heq⟩ := s.editLine_eq_with line
    rw [heq]
    exact ⟨hs.current, hs.previous⟩

namespace Executed

/-- The stage runs a built-in command with a call: its own, or the one that its alias
stands for. -/
inductive Calls (e : Executed) : Builtin → Invocation → Prop
  | direct {b : Builtin} (h : e.before.registry.builtin? e.stage.name = some b) :
      Calls e b ⟨e.stage.name, e.stage.args, e.input⟩
  | through {target : AliasTarget} (hname : e.before.registry.builtin? e.stage.name = none)
      (h : e.before.expandAlias e.stage.name e.stage.args = .ok target) :
      Calls e target.builtin ⟨target.builtin.name, target.args, e.input⟩

variable {e : Executed} {b : Builtin} {call : Invocation}

theorem Calls.runStage_eq (h : e.Calls b call) (r : Runner) :
    e.before.runStage r e.stage e.input =
      (.ok (b.run e.before call).1, (b.run e.before call).2) := by
  cases h with
  | direct h => simp [runStage, dispatch, handler?, h, runHandler]
  | through hname h =>
      cases halias : e.before.aliases.get? e.stage.name with
      | none => simp [expandAlias, halias] at h
      | some expansion =>
          simp [runStage, dispatch, handler?, hname, halias, runHandler, runAlias, h]

theorem Calls.after_eq (h : e.Calls b call) (r : Runner) :
    e.after r = (b.run e.before call).2 := by
  rw [after, h.runStage_eq]

/-- The stage goes back to the previous directory. -/
def GoesBack (e : Executed) : Prop :=
  ∃ call, e.Calls .cd call ∧ call.args.head? = some "-"

/-- Going back swaps the directories, if the previous one exists. -/
theorem GoesBack.after_eq (h : e.GoesBack) (hrooted : Path.Rooted e.before.previous)
    (hexists : e.before.world.isDirectory e.before.previous = true) (r : Runner) :
    e.after r =
      { e.before with current := e.before.previous, previous := e.before.current } := by
  obtain ⟨call, hcalls, hdash⟩ := h
  have htarget : Command.cdTarget e.before call.args.head? = e.before.previous := by
    simp [hdash, Command.cdTarget]
  rw [hcalls.after_eq, ← changeDirectory_of_rooted hrooted]
  simp [Builtin.run, Command.cd, htarget, hexists]

/-- `cd` moves without a word to a directory that exists, or says why it stays. -/
theorem Calls.cd_cases (h : e.Calls .cd call) (hrooted : e.before.Rooted) (r : Runner) :
    let target := Command.cdTarget e.before call.args.head?
    (e.before.world.isDirectory target = true ∧ e.before.runStage r e.stage e.input =
        (.ok "", { e.before with current := target, previous := e.before.current })) ∨
      (e.before.world.isDirectory target = false ∧ ∃ message, message ≠ "" ∧
        e.before.runStage r e.stage e.input = (.ok message, e.before)) := by
  intro target
  rw [h.runStage_eq, ← changeDirectory_of_rooted (hrooted.cdTarget call.args.head?)]
  cases hexists : e.before.world.isDirectory target with
  | true =>
      left
      simp [Builtin.run, Command.cd, target, hexists]
  | false =>
      right
      refine ⟨rfl, "cd: no such file or directory: " ++ call.args.head?.getD "~", ?_, ?_⟩
      · simp
      · simp [Builtin.run, Command.cd, target, hexists]

end Executed

/-- The directories of a session that was started at an absolute one.  They stay absolute
and in normal form, before and after every stage.  An executed `cd` moves without a word
to a target that is a directory at that moment, or says something and moves nothing.
Going back twice restores both directories, if both exist. -/
theorem directories_runAll (s : Session) {directory : String}
    (habsolute : Path.isAbsolute directory = true) (r : Runner) (lines : List String) :
    let t := (s.startAt directory).runAll r lines
    t.Rooted ∧ ∀ line, ∀ e ∈ t.executedIn r line,
      e.before.Rooted ∧ (e.after r).Rooted ∧
      (∀ call, e.Calls .cd call →
        let target := Command.cdTarget e.before call.args.head?
        Path.normalize target = target ∧
        ((e.before.world.isDirectory target = true ∧ e.before.runStage r e.stage e.input =
            (.ok "", { e.before with current := target, previous := e.before.current })) ∨
          (e.before.world.isDirectory target = false ∧ ∃ message, message ≠ "" ∧
            e.before.runStage r e.stage e.input = (.ok message, e.before)))) ∧
      (e.GoesBack → e.before.world.isDirectory e.before.previous = true →
        ∀ e' : Executed, e'.GoesBack → e'.before.current = (e.after r).current →
          e'.before.previous = (e.after r).previous →
          e'.before.world.isDirectory e.before.current = true →
          (e'.after r).current = e.before.current ∧
            (e'.after r).previous = e.before.previous) := by
  intro t
  have ht : t.Rooted := (lineInvariant_rooted r).runAll (s.rooted_startAt habsolute) lines
  refine ⟨ht, fun line e he ↦ ?_⟩
  obtain ⟨hbefore, hafter⟩ := (lineInvariant_rooted r).executedIn ht line e he
  refine ⟨hbefore, hafter, fun call hcall ↦ ?_, ?_⟩
  · exact ⟨(hbefore.cdTarget call.args.head?).normal, hcall.cd_cases hbefore r⟩
  · intro hback hexists e' hback' hcurrent' hprevious' hexists'
    -- Each way back swaps the two directories, which are normal already.
    rw [hback.after_eq hbefore.previous hexists r] at hcurrent' hprevious'
    have hrooted' : Path.Rooted e'.before.previous := hprevious' ▸ hbefore.current
    rw [hback'.after_eq hrooted' (hprevious' ▸ hexists') r]
    exact ⟨hprevious', hcurrent'⟩

/-- A session in the one directory of its tree, to which an alias has led. -/
def insideDirectory : Session :=
  (besideDirectory.startAt "/d/..").runAll .silent ["go"]

theorem directories_runAll_back_and_forth :
    Path.isAbsolute "/d/.." = true ∧ insideDirectory.current = "/d" ∧ insideDirectory.Rooted ∧
      ∃ e e' : Executed, insideDirectory.executedIn .silent "cd - | cd -" = [e, e'] ∧
        (e.GoesBack ∧ e.before.world.isDirectory e.before.previous = true) ∧
        (e'.GoesBack ∧ e'.before.current = (e.after .silent).current ∧
          e'.before.previous = (e.after .silent).previous ∧
          e'.before.world.isDirectory e.before.current = true) ∧
        (e'.after .silent).current = e.before.current ∧
          (e'.after .silent).previous = e.before.previous := by
  have habsolute : Path.isAbsolute "/d/.." = true := by decide
  have hcurrent : insideDirectory.current = "/d" := by decide +kernel
  have hlength : (insideDirectory.executedIn .silent "cd - | cd -").length = 2 := by
    decide +kernel
  have hcalls : (insideDirectory.executedIn .silent "cd - | cd -").map (fun e ↦
      (e.before.registry.builtin? e.stage.name, e.stage.args.head?)) =
        [(some .cd, some "-"), (some .cd, some "-")] := by decide +kernel
  have hdirectories : (insideDirectory.executedIn .silent "cd - | cd -").map (fun e ↦
      (e.before.current, e.before.previous, (e.after .silent).current,
        (e.after .silent).previous)) =
        [("/d", "/", "/", "/d"), ("/", "/d", "/d", "/")] := by decide +kernel
  have hexist : (insideDirectory.executedIn .silent "cd - | cd -").map (fun e ↦
      (e.before.world.isDirectory "/", e.before.world.isDirectory "/d")) =
        [(true, true), (true, true)] := by decide +kernel
  obtain ⟨hrooted, hexecuted⟩ := directories_runAll besideDirectory habsolute .silent ["go"]
  obtain ⟨e, e', hran⟩ := List.length_eq_two.mp hlength
  simp only [hran, List.map_cons, List.map_nil, List.cons.injEq, Prod.mk.injEq, and_true]
    at hcalls hdirectories hexist
  obtain ⟨⟨hcd, hdash⟩, hcd', hdash'⟩ := hcalls
  obtain ⟨⟨hfrom, hback, hto, hleft⟩, hfrom', hback', -, -⟩ := hdirectories
  obtain ⟨⟨hroot, -⟩, -, hsub⟩ := hexist
  have hgoes : e.GoesBack := ⟨_, .direct hcd, hdash⟩
  have hgoes' : e'.GoesBack := ⟨_, .direct hcd', hdash'⟩
  have hmem : e ∈ insideDirectory.executedIn .silent "cd - | cd -" := by simp [hran]
  have hexists : e.before.world.isDirectory e.before.previous = true := hback ▸ hroot
  have hexists' : e'.before.world.isDirectory e.before.current = true := hfrom ▸ hsub
  have hcurrent' := hfrom'.trans hto.symm
  have hprevious' := hback'.trans hleft.symm
  have hrestored := (hexecuted _ e hmem).2.2.2 hgoes hexists e' hgoes' hcurrent' hprevious' hexists'
  exact ⟨habsolute, hcurrent, hrooted, e, e', hran, ⟨hgoes, hexists⟩,
    ⟨hgoes', hcurrent', hprevious', hexists'⟩, hrestored⟩

end Session
end LineShell
