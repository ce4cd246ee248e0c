import Mathlib
import LineShell.Proofs.World.Walks
import LineShell.Proofs.Path.Composition

/-!
# What a removal takes away

A removal takes away the one entry that its path names; a link that stands last in the
path is not followed, so that the link goes and what it leads to stays.  The last part of
a normal path is a name, the root, `.` or `..`, and only a name leads to an entry that
can go.
-/

namespace LineShell
namespace FileTree

variable {tree : FileTree} {loc : Location} {node : Node}

theorem mem_of_node? (h : tree.node? loc = some node) : (loc, node) ∈ tree.entries := by
  obtain ⟨es⟩ := tree
  simp only [node?] at h
  induction es with
  | nil => cases h
  | cons e rest ih =>
      rw [find?] at h
      split_ifs at h with he
      · obtain rfl := Option.some.inj h
        exact he ▸ List.mem_cons_self
      · exact List.mem_cons_of_mem e (ih h)

theorem node?_child_of_isEmptyAt (h : tree.isEmptyAt loc = true) (name : String) :
    tree.node? (loc ++ [name]) = none := by
  cases hnode : tree.node? (loc ++ [name]) with
  | none => rfl
  | some node =>
      have hmem : (name, node) ∈ tree.children loc := by
        refine List.mem_filterMap.mpr ⟨_, mem_of_node? hnode, ?_⟩
        simp [childName?]
      rw [List.isEmpty_iff.mp h] at hmem
      cases hmem

theorem node?_of_standing (h : tree.standing loc = node) (hnode : node.isDirectory = false) :
    tree.node? loc = some node := by
  have hget : tree.get? loc = some node := by
    cases hfound : tree.get? loc with
    | none =>
        rw [standing, hfound] at h
        subst h
        cases hnode
    | some found =>
        rw [standing, hfound] at h
        exact congrArg some h
  have hne : loc ≠ [] := by
    rintro rfl
    obtain rfl := Option.some.inj hget
    cases hnode
  exact get?_of_ne_nil hne tree ▸ hget

/-- A walk that stops at a last link ends at an entry of the tree, if the last part of the
path is a name. -/
theorem Walks.node?_of_name {links : Nat} {start : Location} {parts : List String} {spot : Spot}
    (h : Walks tree .keep links start parts spot) (hspot : spot = .present loc node)
    {name : String} (hlast : parts.getLast? = some name) (hstep : Path.IsStep name)
    (hdown : name ≠ "..") : tree.node? loc = some node := by
  -- A part with others behind it does not matter to the last one.
  have hbehind : ∀ {part : String} {rest : List String}, rest ≠ [] →
      (part :: rest).getLast? = some name → rest.getLast? = some name := by
    intro part rest hrest hlast
    obtain ⟨next, rest, rfl⟩ := List.exists_cons_of_ne_nil hrest
    rwa [List.getLast?_cons_cons] at hlast
  induction h with
  | here => cases hlast
  | @stay _ _ part rest _ hpart _ ih =>
      by_cases hrest : rest = []
      · subst hrest
        obtain rfl : part = name := by simpa using hlast
        exact absurd hpart (by simp [hstep.nonempty, hstep.ne_dot])
      · exact ih hspot (hbehind hrest hlast)
  | @up _ _ rest _ _ ih =>
      by_cases hrest : rest = []
      · subst hrest
        exact absurd (by simpa using hlast) hdown.symm
      · exact ih hspot (hbehind hrest hlast)
  | @down _ start part rest _ a hpart hnode hrest ih =>
      by_cases hnil : rest = []
      · subst hnil
        cases hrest with
        | here =>
            obtain ⟨rfl, rfl⟩ := Spot.present.inj hspot
            rw [standing, get?_of_ne_nil (by simp), hnode, Option.getD_some]
      · exact ih hspot (hbehind hnil hlast)
  | @link _ _ part target rest _ _ _ _ hfollow _ ih =>
      have hrest : rest ≠ [] := fun hnil ↦ hfollow ⟨hnil, rfl⟩
      refine ih hspot ?_
      rw [List.getLast?_append_of_ne_nil _ hrest]
      exact hbehind hrest hlast
  | kept _ hnode | leaf _ hnode =>
      obtain ⟨rfl, rfl⟩ := Spot.present.inj hspot
      exact hnode
  | free => cases hspot

theorem getLast?_walkParts (path : String) :
    (walkParts path).getLast? = (Text.parts '/' path).getLast? := by
  obtain ⟨last, hlast⟩ := Option.isSome_iff_exists.mp
    (List.getLast?_isSome.mpr (Text.parts_ne_nil '/' path))
  simp [walkParts, hlast]

/-- The last part of a normal path, apart from the root and `.`, is one of its steps. -/
theorem exists_last_step_normalize (path : String) :
    Path.normalize path = "/" ∨ Path.normalize path = "." ∨
      ∃ name, Path.IsStep name ∧ (walkParts (Path.normalize path)).getLast? = some name := by
  have hsteps := Path.isStep_normalParts_parts path
  rw [Path.normalize, getLast?_walkParts]
  generalize Path.normalParts (Path.isAbsolute path) (Path.parts path) = ps at hsteps ⊢
  by_cases hps : ps = []
  · subst hps
    cases Path.isAbsolute path with
    | true => exact .inl (by decide)
    | false => exact .inr (.inl (by decide))
  · refine .inr (.inr ⟨ps.getLast hps, hsteps _ (List.getLast_mem hps), ?_⟩)
    rw [Path.textParts_ofParts hps hsteps, List.getLast?_append_of_ne_nil _ hps]
    exact List.getLast?_eq_some_getLast hps

end FileTree

namespace World

open FileTree

variable {w w' : World} {path : String} {loc : Location} {node : Node}

/-- The second world lacks the entry that the path names in the first.  The directory that
held the entry counts as modified, a process that stood in it stands elsewhere and a log
that was written there has no file; nothing else differs. -/
structure Removes (w : World) (path : String) (loc : Location) (node : Node) (w' : World) :
    Prop where
  named : w.find .keep path = .ok (loc, node)
  was : w.tree.node? loc = some node
  entries : w'.tree.entries = w.tree.entries.filter (·.1 != loc)
  directories : ∀ d, d ≠ loc → d ≠ loc.dropLast → (d ∈ w'.changed ↔ d ∈ w.changed)
  here : w.here ≠ loc → w'.here = w.here
  log : w.logFile ≠ some loc → w'.logFile = w.logFile
  surroundings : w.FilesOnly w'

theorem removes_erase (hnamed : w.find .keep path = .ok (loc, node))
    (hwas : w.tree.node? loc = some node) : w.Removes path loc node (w.erase loc) where
  named := hnamed
  was := hwas
  entries := rfl
  directories d hd hparent := by simp [erase, hd, hparent]
  here hhere := if_neg hhere
  log hlog := by
    cases hfile : w.logFile with
    | none => simp [erase, hfile]
    | some file =>
        have hne : file ≠ loc := fun heq ↦ hlog (heq ▸ hfile)
        simp [erase, hfile, hne]
  surroundings := w.filesOnly_erase loc

theorem Removes.node?_of_ne (h : w.Removes path loc node w') {k : Location} (hk : k ≠ loc) :
    w'.tree.node? k = w.tree.node? k := by
  have htree : w'.tree = w.tree.erase loc := congrArg FileTree.mk h.entries
  rw [htree, node?_erase, if_neg hk.symm]

theorem walk_of_find {ending : Ending} (h : w.find ending path = .ok (loc, node)) :
    walk w.tree w.here ending path = .ok (.present loc node) := by
  obtain ⟨spot, hwalk, hspot⟩ := Except.exists_of_bind_eq_ok h
  cases spot with
  | present found there =>
      obtain ⟨rfl, rfl⟩ := Prod.mk.inj (Except.ok.inj hspot)
      exact hwalk
  | absent parent name slash => cases hspot

theorem standing_of_find {ending : Ending} (h : w.find ending path = .ok (loc, node)) :
    w.tree.standing loc = node :=
  isIn_of_walk (walk_of_find h)

theorem node?_of_find (h : w.find .keep path = .ok (loc, node)) {name : String}
    (hlast : (walkParts path).getLast? = some name) (hstep : Path.IsStep name)
    (hdown : name ≠ "..") : w.tree.node? loc = some node := by
  obtain ⟨start, hwalks⟩ := walks_of_walk (walk_of_find h)
  exact hwalks.node?_of_name rfl hlast hstep hdown

/-- The path loses its entry, which is no directory and leads to none; where it is a link,
what it leads to stays. -/
def RemovesFile (w : World) (path : String) (w' : World) : Prop :=
  ∃ loc node, w.Removes path loc node w' ∧ node.isDirectory = false ∧
    ∃ target led, w.find .follow path = .ok (target, led) ∧ led.isDirectory = false ∧
      (led ≠ node → w'.tree.node? target = some led)

/-- The path loses its entry, which is a directory without entries. -/
def RemovesDirectory (w : World) (path : String) (w' : World) : Prop :=
  ∃ loc node, w.Removes path loc node w' ∧ node.isDirectory = true ∧
    ∀ name, w.tree.node? (loc ++ [name]) = none

theorem removes_of_removeFile (h : w.removeFile path = .ok w') :
    ∃ loc node, w.Removes path loc node w' ∧ node.isDirectory = false := by
  obtain ⟨⟨loc, node⟩, hfind, hremove⟩ := Except.exists_of_bind_eq_ok h
  have hdirectory : node.isDirectory = false ∧ w.erase loc = w' := by
    cases node with
    | directory a => cases hremove
    | file content a | link target a | null | program p => exact ⟨rfl, Except.ok.inj hremove⟩
  obtain ⟨hdirectory, rfl⟩ := hdirectory
  have hwas := node?_of_standing (standing_of_find hfind) hdirectory
  exact ⟨loc, node, removes_erase hfind hwas, hdirectory⟩

theorem removesFile_of_removeFile (hdirectory : w.isDirectory path = false)
    (hpresent : w.isPresent path = true) (h : w.removeFile path = .ok w') :
    w.RemovesFile path w' := by
  obtain ⟨loc, node, hremoves, hnode⟩ := removes_of_removeFile h
  obtain ⟨target, led, hfollow, -⟩ := holds_eq_true_iff.mp hpresent
  have hled : led.isDirectory = false := by
    rw [isDirectory, holds, hfollow] at hdirectory
    exact hdirectory
  refine ⟨loc, node, hremoves, hnode, target, led, hfollow, hled, fun hne ↦ ?_⟩
  have hthere := node?_of_standing (standing_of_find hfollow) hled
  have htarget : target ≠ loc := by
    rintro rfl
    exact hne (Option.some.inj (hthere.symm.trans hremoves.was))
  rw [hremoves.node?_of_ne htarget, hthere]

theorem find_root (w : World) (ending : Ending) :
    w.find ending "/" = .ok ([], .directory ⟨0o755, 0⟩) := by
  have hparts : walkParts "/" = [""] := by decide
  have hwalk : walk w.tree w.here ending "/" = .ok (.present [] (w.tree.standing [])) := by
    unfold walk
    rw [if_neg (by decide), if_neg (by decide), if_neg (by decide), hparts, if_pos (by decide),
      walkLinks_eq_ok_iff]
    exact .stay (.inl rfl) .here
  rw [find, hwalk]
  rfl

theorem removesDirectory_of_removeDirectory
    (h : w.removeDirectory (Path.normalize path) = .ok w') :
    w.RemovesDirectory (Path.normalize path) w' := by
  obtain ⟨⟨loc, node⟩, hfind, hremove⟩ := Except.exists_of_bind_eq_ok h
  cases node with
  | file content a | link target a | null | program p => cases hremove
  | directory a =>
      simp only at hremove
      split_ifs at hremove with hroot hdot hdotdot hempty
      obtain rfl := Except.ok.inj hremove
      have hwas : w.tree.node? loc = some (.directory a) := by
        rcases exists_last_step_normalize path with heq | heq | ⟨name, hstep, hlast⟩
        · rw [heq, find_root] at hfind
          exact absurd (Prod.mk.inj (Except.ok.inj hfind)).1.symm hroot
        · rw [heq] at hdot
          exact absurd (by decide) hdot
        · have hdown : name ≠ ".." := fun heq ↦ hdotdot (heq ▸ hlast)
          exact node?_of_find hfind hlast hstep hdown
      exact ⟨loc, _, removes_erase hfind hwas, rfl, node?_child_of_isEmptyAt hempty⟩

end World
end LineShell
