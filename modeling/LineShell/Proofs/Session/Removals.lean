import Mathlib
import LineShell.Command.Run
import LineShell.Proofs.World.Removal
import LineShell.Proofs.Session.AliasWords

/-!
# Operands that are removed in turn

`rm` and `rmdir` remove their operands one after the other, and each removal is judged in
the world that the ones before it left.  The first operand that is refused gives the
output, and nothing changes there or after it.
-/

namespace LineShell

theorem World.FilesOnly.expandHome {w w' : World} (h : w.FilesOnly w') :
    w'.expandHome = w.expandHome := by
  unfold FilesOnly at h
  rw [h]
  rfl

theorem Session.resolvePath_setWorld {s : Session} {w : World} (h : s.world.FilesOnly w) :
    (s.setWorld w).resolvePath = s.resolvePath := by
  funext path
  have hhome : (s.setWorld w).world.expandHome = s.world.expandHome := h.expandHome
  rw [resolvePath, hhome]
  rfl

namespace Command

/-- The first world becomes the second one when the paths are removed one after the other. -/
inductive RemovedInTurn (removes : World → String → World → Prop) :
    World → List String → World → Prop
  | done {w : World} : RemovedInTurn removes w [] w
  | next {w w' w'' : World} {path : String} {rest : List String} (h : removes w path w')
      (hrest : RemovedInTurn removes w' rest w'') : RemovedInTurn removes w (path :: rest) w''

/-- Why `rm` leaves an operand that means a path where it is, and what it says. -/
inductive RmRefuses (w : World) (path operand : String) : String → Prop
  | directory (h : w.isDirectory path = true) :
      RmRefuses w path operand ("rm: is a directory: " ++ operand)
  | missing (h : w.isPresent path = false) :
      RmRefuses w path operand ("rm: no such file: " ++ operand)
  | failed {cause : SystemError} (hdirectory : w.isDirectory path = false)
      (hpresent : w.isPresent path = true) (h : w.removeFile path = .error cause) :
      RmRefuses w path operand ("rm: error: " ++ cause.message)

/-- Why `rmdir` leaves an operand that means a path where it is, and what it says. -/
inductive RmdirRefuses (w : World) (path operand : String) : String → Prop
  | missing (h : w.isDirectory path = false) :
      RmdirRefuses w path operand ("rmdir: no such directory: " ++ operand)
  | failed {cause : SystemError} (hdirectory : w.isDirectory path = true)
      (h : w.removeDirectory path = .error cause) :
      RmdirRefuses w path operand ("rmdir: error: " ++ cause.message)

/-- The operands were removed in turn up to the first one that is refused in the world at
that point: the result is that world with the reason, or the empty text if there is none. -/
def StopsAtRefusal (removes : World → String → World → Prop)
    (refuses : World → String → String → String → Prop) (s : Session) (operands : List String)
    (result : String × Session) : Prop :=
  ∃ k ≤ operands.length, ∃ w, result.2 = s.setWorld w ∧
    RemovedInTurn removes s.world ((operands.take k).map s.resolvePath) w ∧
    (result.1 = "" ↔ k = operands.length) ∧
    ∀ operand, operands[k]? = some operand →
      refuses w (s.resolvePath operand) operand result.1

/-- A change either removes what its operand means, or refuses to and leaves the world. -/
structure RemovesOrRefuses (removes : World → String → World → Prop)
    (refuses : World → String → String → String → Prop) (one : Change) : Prop where
  step : ∀ s operand,
    (∃ w, one s operand = (none, w) ∧ removes s.world (s.resolvePath operand) w) ∨
      ∃ message, one s operand = (some message, s.world) ∧
        refuses s.world (s.resolvePath operand) operand message
  filesOnly : ∀ w path w', removes w path w' → w.FilesOnly w'
  message_ne : ∀ w path operand message, refuses w path operand message → message ≠ ""

variable {removes : World → String → World → Prop}
  {refuses : World → String → String → String → Prop} {one : Change}

theorem RemovesOrRefuses.stopsAtRefusal (h : RemovesOrRefuses removes refuses one)
    (s : Session) (operands : List String) :
    StopsAtRefusal removes refuses s operands (changeEach one s operands) := by
  induction operands generalizing s with
  | nil => exact ⟨0, le_rfl, s.world, rfl, .done, by simp [changeEach], by simp⟩
  | cons operand rest ih =>
      rw [changeEach]
      rcases h.step s operand with ⟨w, hone, hremoved⟩ | ⟨message, hone, hrefuses⟩
      · -- The paths of the other operands are the same in the world that is left.
        have hpaths := Session.resolvePath_setWorld (h.filesOnly _ _ _ hremoved)
        obtain ⟨k, hk, w', hresult, hturn, hempty, hrefused⟩ := ih (s.setWorld w)
        rw [hpaths] at hturn hrefused
        rw [hone]
        refine ⟨k + 1, Nat.succ_le_succ hk, w', hresult, .next hremoved hturn, ?_, ?_⟩
        · rw [hempty, List.length_cons, Nat.add_right_cancel_iff]
        · simpa using hrefused
      · have hmessage := h.message_ne _ _ _ _ hrefuses
        rw [hone]
        refine ⟨0, Nat.zero_le _, s.world, rfl, .done, by simpa using hmessage, ?_⟩
        intro first hfirst
        obtain rfl : operand = first := by simpa using hfirst
        exact hrefuses

theorem RemovesOrRefuses.changeOperands (h : RemovesOrRefuses removes refuses one)
    (name : String) (s : Session) {call : Invocation} (hcall : call.operands ≠ []) :
    StopsAtRefusal removes refuses s call.operands (changeOperands name one s call) := by
  rw [Command.changeOperands, if_neg hcall]
  exact h.stopsAtRefusal s call.operands

theorem rmOne_removesOrRefuses : RemovesOrRefuses World.RemovesFile RmRefuses rmOne where
  step s operand := by
    rw [rmOne]
    cases hdirectory : s.world.isDirectory (s.resolvePath operand) with
    | true => exact .inr ⟨_, rfl, .directory hdirectory⟩
    | false =>
        cases hpresent : s.world.isPresent (s.resolvePath operand) with
        | false => exact .inr ⟨_, rfl, .missing hpresent⟩
        | true =>
            cases hremove : s.world.removeFile (s.resolvePath operand) with
            | ok w =>
                exact .inl ⟨w, rfl, World.removesFile_of_removeFile hdirectory hpresent hremove⟩
            | error cause => exact .inr ⟨_, rfl, .failed hdirectory hpresent hremove⟩
  filesOnly := by
    rintro w path w' ⟨loc, node, hremoves, -⟩
    exact hremoves.surroundings
  message_ne := by
    rintro w path operand message (_ | _ | _) <;> simp

theorem rmdirOne_removesOrRefuses :
    RemovesOrRefuses World.RemovesDirectory RmdirRefuses rmdirOne where
  step s operand := by
    rw [rmdirOne]
    cases hdirectory : s.world.isDirectory (s.resolvePath operand) with
    | false => exact .inr ⟨_, rfl, .missing hdirectory⟩
    | true =>
        cases hremove : s.world.removeDirectory (s.resolvePath operand) with
        | ok w => exact .inl ⟨w, rfl, World.removesDirectory_of_removeDirectory hremove⟩
        | error cause => exact .inr ⟨_, rfl, .failed hdirectory hremove⟩
  filesOnly := by
    rintro w path w' ⟨loc, node, hremoves, -⟩
    exact hremoves.surroundings
  message_ne := by
    rintro w path operand message (_ | _) <;> simp

/-- `rm` removes its operands in turn, each of them an entry that leads to no directory, and
`rmdir` the empty directories that are its operands; both stop at the first operand that
they refuse, and say why. -/
theorem removals_stop_at_refusal (s : Session) {call : Invocation} (hcall : call.operands ≠ []) :
    StopsAtRefusal World.RemovesFile RmRefuses s call.operands (Builtin.rm.run s call) ∧
      StopsAtRefusal World.RemovesDirectory RmdirRefuses s call.operands
        (Builtin.rmdir.run s call) := by
  refine ⟨?_, ?_⟩
  · exact rmOne_removesOrRefuses.changeOperands "rm" s hcall
  · exact rmdirOne_removesOrRefuses.changeOperands "rmdir" s hcall

/-- A session at the root of a tree with a file, an empty and another directory, and links to
a file, to a directory, to nothing and to itself. -/
def besideLinks : Session :=
  { Session.inEmptyWorld with
    world :=
      { Session.inEmptyWorld.world with
        tree :=
          ⟨[(["d"], .newDirectory 0), (["d", "f"], .newFile [120] 0), (["e"], .newDirectory 0),
            (["l"], .link "d/../f" ⟨0o777, 0⟩), (["f"], .newFile [121] 0),
            (["m"], .link "d" ⟨0o777, 0⟩), (["n"], .link "gone" ⟨0o777, 0⟩),
            (["o"], .link "o" ⟨0o777, 0⟩)]⟩ } }

theorem removals_stop_at_refusal_besideLinks :
    let rmCall : Invocation := ⟨"rm", ["-f", "l", "d/../d/f", "l", "e"], none⟩
    let rmdirCall : Invocation := ⟨"rmdir", ["e", "m"], none⟩
    let removed := Builtin.rm.run besideLinks rmCall
    let removed' := Builtin.rmdir.run besideLinks rmdirCall
    (rmCall.operands ≠ [] ∧
      StopsAtRefusal World.RemovesFile RmRefuses besideLinks rmCall.operands removed ∧
      removed.1 = "rm: no such file: l" ∧
      removed.2.world.tree.entries.map Prod.fst = [["d"], ["e"], ["f"], ["m"], ["n"], ["o"]]) ∧
    rmdirCall.operands ≠ [] ∧
      StopsAtRefusal World.RemovesDirectory RmdirRefuses besideLinks rmdirCall.operands removed' ∧
      removed'.1 = "rmdir: error: Not a directory (os error 20)" ∧
      removed'.2.world.tree.entries.map Prod.fst =
        [["d"], ["d", "f"], ["l"], ["f"], ["m"], ["n"], ["o"]] := by
  intro rmCall rmdirCall removed removed'
  have hcall : rmCall.operands ≠ [] := by decide
  have hcall' : rmdirCall.operands ≠ [] := by decide
  have hrm := (removals_stop_at_refusal besideLinks hcall).1
  have hrmdir := (removals_stop_at_refusal besideLinks hcall').2
  have hout : removed.1 = "rm: no such file: l" := by decide +kernel
  have hleft : removed.2.world.tree.entries.map Prod.fst =
      [["d"], ["e"], ["f"], ["m"], ["n"], ["o"]] := by decide +kernel
  have hout' : removed'.1 = "rmdir: error: Not a directory (os error 20)" := by decide +kernel
  have hleft' : removed'.2.world.tree.entries.map Prod.fst =
      [["d"], ["d", "f"], ["l"], ["f"], ["m"], ["n"], ["o"]] := by decide +kernel
  exact ⟨⟨hcall, hrm, hout, hleft⟩, hcall', hrmdir, hout', hleft'⟩

end Command
end LineShell
