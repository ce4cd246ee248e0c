import Mathlib
import LineShell.World

/-!
# What operations change in a world

Commands and programs change files and leave the rest of the world alone: the
clock, the environment and the home of the account.  Writing to a path changes
one entry, the one that the path names when links are followed, and the only
directory that counts as modified is the one that holds it.
-/

namespace LineShell

namespace World

open FileTree

theorem FilesOnly.refl (w : World) : w.FilesOnly w := rfl

theorem FilesOnly.trans {w w' w'' : World} (h : w.FilesOnly w') (h' : w'.FilesOnly w'') :
    w.FilesOnly w'' := by
  unfold FilesOnly at h h' ⊢
  rw [h] at h'
  exact h'

theorem FilesOnly.lookup {w w' : World} (h : w.FilesOnly w') : w'.lookup = w.lookup := by
  unfold FilesOnly at h
  rw [h]
  rfl

/-- A path names the entry that it leads to, or the place of a file that can be made there;
a link that stands last is followed. -/
def Names (w : World) (path : String) (loc : Location) : Prop :=
  (∃ node, walk w.tree w.here .create path = .ok (.present loc node)) ∨
    ∃ parent name, walk w.tree w.here .create path = .ok (.absent parent name false) ∧
      loc = parent ++ [name]

/-- The second world has another entry at a location than the first; the directory
that holds it may count as modified, and nothing else differs. -/
structure DiffersAt (loc : Location) (w w' : World) : Prop where
  elsewhere : ∀ k, k ≠ loc → w'.tree.node? k = w.tree.node? k
  directories : ∀ d ∈ w'.changed, d ∈ w.changed ∨ d = loc.dropLast
  surroundings : w' = { w with tree := w'.tree, changed := w'.changed }

theorem DiffersAt.filesOnly {loc : Location} {w w' : World} (h : w.DiffersAt loc w') :
    w.FilesOnly w' := by
  unfold FilesOnly
  rw [h.surroundings]

theorem DiffersAt.refl (loc : Location) (w : World) : w.DiffersAt loc w :=
  ⟨fun _ _ ↦ rfl, fun _ hd ↦ .inl hd, rfl⟩

theorem differsAt_insert (w : World) (loc : Location) (node : Node) :
    w.DiffersAt loc (w.insert loc node) where
  elsewhere k hk := by simp [insert, setTree, Ne.symm hk]
  directories _ hd := .inl hd
  surroundings := rfl

theorem differsAt_add (w : World) (loc : Location) (node : Node) :
    w.DiffersAt loc (w.add loc node) where
  elsewhere k hk := (w.differsAt_insert loc node).elsewhere k hk
  directories d hd := by
    simp only [add, noteChange] at hd
    split_ifs at hd
    · exact .inl hd
    · rcases List.mem_cons.mp hd with rfl | hold
      · exact .inr rfl
      · exact .inl hold
  surroundings := rfl

theorem names_of_openForWriting {w : World} {path : String} {loc : Location} {old : Option Node}
    (h : w.openForWriting path = .ok (loc, old)) : w.Names path loc := by
  obtain ⟨spot, hwalk, hspot⟩ := Except.exists_of_bind_eq_ok h
  cases spot with
  | present loc' node =>
      have hloc : loc' = loc := by
        cases node <;> simp_all
      exact .inl ⟨node, hloc ▸ hwalk⟩
  | absent parent name slash =>
      simp only at hspot
      split_ifs at hspot with hslash
      obtain ⟨rfl, -⟩ := Prod.mk.inj (Except.ok.inj hspot)
      exact .inr ⟨parent, name, by simpa [hslash] using hwalk, rfl⟩

/-- Writing changes the entry that the path names and no other. -/
theorem differsAt_modifyFile {w w' : World} {path : String}
    {f : Option (List UInt8) → List UInt8} (h : w.modifyFile path f = .ok w') :
    ∃ loc, w.Names path loc ∧ w.DiffersAt loc w' := by
  obtain ⟨⟨loc, old⟩, hopen, hmodify⟩ := Except.exists_of_bind_eq_ok h
  refine ⟨loc, names_of_openForWriting hopen, ?_⟩
  match old with
  | none =>
      obtain rfl := Except.ok.inj hmodify
      exact w.differsAt_add loc _
  | some (.file content a) =>
      obtain rfl := Except.ok.inj hmodify
      exact w.differsAt_insert loc _
  | some (.directory _) | some (.link _ _) | some .null | some (.program _) =>
      obtain rfl := Except.ok.inj hmodify
      exact .refl loc w

theorem filesOnly_modifyFile {w w' : World} {path : String}
    {f : Option (List UInt8) → List UInt8} (h : w.modifyFile path f = .ok w') :
    w.FilesOnly w' := by
  obtain ⟨loc, -, hdiffers⟩ := differsAt_modifyFile h
  exact hdiffers.filesOnly

theorem filesOnly_touch {w w' : World} {path : String} (h : w.touch path = .ok w') :
    w.FilesOnly w' := by
  unfold touch at h
  exact filesOnly_modifyFile h

theorem filesOnly_makeDirectory {w w' : World} {path : String}
    (h : w.makeDirectory path = .ok w') : w.FilesOnly w' := by
  obtain ⟨spot, -, hspot⟩ := Except.exists_of_bind_eq_ok h
  cases spot with
  | present loc node => cases hspot
  | absent parent name slash =>
      simp only at hspot
      split_ifs at hspot
      obtain rfl := Except.ok.inj hspot
      exact (w.differsAt_add _ _).filesOnly

theorem filesOnly_ensureDirectory (w : World) (path : String) :
    w.FilesOnly (w.ensureDirectory path).2 := by
  unfold ensureDirectory
  cases h : w.makeDirectory path with
  | ok w' => exact filesOnly_makeDirectory h
  | error e => exact .refl w

theorem filesOnly_makeDirectoriesWithin (w : World) (depth : Nat) (path : String) :
    w.FilesOnly (w.makeDirectoriesWithin depth path).2 := by
  induction depth generalizing path with
  | zero => exact .refl w
  | succ depth ih =>
      unfold makeDirectoriesWithin
      split_ifs with hpath
      · exact .refl w
      · split
        · exact .refl w
        · rename_i parent _ _
          have hparent := ih parent
          split
          · rename_i w' hmade
            rw [hmade] at hparent
            exact hparent.trans (w'.filesOnly_ensureDirectory path)
          · exact hparent
        · exact w.filesOnly_ensureDirectory path

theorem filesOnly_makeDirectories (w : World) (path : String) :
    w.FilesOnly (w.makeDirectories path).2 :=
  w.filesOnly_makeDirectoriesWithin _ path

theorem filesOnly_erase (w : World) (loc : Location) : w.FilesOnly (w.erase loc) := rfl

theorem filesOnly_removeFile {w w' : World} {path : String} (h : w.removeFile path = .ok w') :
    w.FilesOnly w' := by
  obtain ⟨⟨loc, node⟩, -, hremove⟩ := Except.exists_of_bind_eq_ok h
  cases node with
  | directory a => cases hremove
  | file content a | link target a | null | program p =>
      obtain rfl := Except.ok.inj hremove
      exact w.filesOnly_erase loc

theorem filesOnly_removeDirectory {w w' : World} {path : String}
    (h : w.removeDirectory path = .ok w') : w.FilesOnly w' := by
  obtain ⟨⟨loc, node⟩, -, hremove⟩ := Except.exists_of_bind_eq_ok h
  cases node with
  | directory a =>
      simp only at hremove
      split_ifs at hremove
      obtain rfl := Except.ok.inj hremove
      exact w.filesOnly_erase loc
  | file content a | link target a | null | program p => cases hremove

end World

end LineShell
