import Mathlib
import LineShell.Proofs.World.Walks

/-!
# What a path stores

A path stores the content of the file that it leads to, or nothing yet where a file can
be made.  Modifying a file replaces what its path stores, and another file is not touched.
-/

namespace LineShell
namespace World

open FileTree

variable {w w' w'' : World} {path : String} {loc : Location} {content : Option (List UInt8)}

theorem DiffersAt.trans (h : w.DiffersAt loc w') (h' : w'.DiffersAt loc w'') :
    w.DiffersAt loc w'' where
  elsewhere k hk := (h'.elsewhere k hk).trans (h.elsewhere k hk)
  directories d hd := by
    rcases h'.directories d hd with hold | hparent
    · exact h.directories d hold
    · exact .inr hparent
  surroundings := by
    rw [h'.surroundings, h.surroundings]

/-- The path leads to a file with this content, or else to a free name in a directory. -/
inductive Stores (w : World) (path : String) : Location → Option (List UInt8) → Prop
  | file {loc : Location} {bytes : List UInt8} {a : Attributes}
      (h : walk w.tree w.here .create path = .ok (.present loc (.file bytes a))) :
      Stores w path loc (some bytes)
  | free {parent : Location} {name : String}
      (h : walk w.tree w.here .create path = .ok (.absent parent name false))
      (hparent : (w.tree.get? parent).isSome = true) : Stores w path (parent ++ [name]) none

theorem Stores.exists_spot (h : w.Stores path loc content) :
    ∃ spot, walk w.tree w.here .create path = .ok spot ∧ spot.IsWritable loc := by
  cases h with
  | file h => exact ⟨_, h, rfl, _, _, rfl⟩
  | free h _ => exact ⟨_, h, rfl, rfl⟩

/-- The file that is at the place now is the one that the path leads to. -/
theorem Stores.of_differsAt (h : w.Stores path loc content) (hdiffers : w.DiffersAt loc w')
    {bytes : List UInt8} {a : Attributes} (hfile : w'.tree.node? loc = some (.file bytes a)) :
    w'.Stores path loc (some bytes) := by
  obtain ⟨spot, hwalk, hspot⟩ := h.exists_spot
  have hhere : w'.here = w.here := by rw [hdiffers.surroundings]
  have hcreate : Ending.create ≠ .keep := by decide
  have hagain := walk_again hwalk hspot hdiffers.elsewhere hfile hcreate
  exact .file (hhere ▸ hagain)

/-- What is stored is what a reader of the path is given. -/
theorem Stores.readBytes_eq {bytes : List UInt8} (h : w.Stores path loc (some bytes)) :
    w.readBytes path = .ok bytes := by
  cases h with
  | @file _ _ a h =>
      have hspot : (Spot.present loc (.file bytes a)).IsWritable loc := ⟨rfl, _, _, rfl⟩
      have hfile := hspot.node?_eq (isIn_of_walk h)
      have hfollow : Ending.follow ≠ .keep := by decide
      have hread := walk_again h hspot (fun _ _ ↦ rfl) hfile hfollow
      rw [readBytes, find, hread]
      rfl

/-- A file that can be written is modified, and nothing else is. -/
theorem Stores.modifyFile (h : w.Stores path loc content)
    (f : Option (List UInt8) → List UInt8) :
    ∃ w', w.modifyFile path f = .ok w' ∧ w'.Stores path loc (some (f content)) ∧
      w.DiffersAt loc w' := by
  cases h with
  | @file _ bytes a h =>
      let after : Node := .file (f (some bytes)) { a with modified := w.clock }
      have hfile : (w.insert loc after).tree.node? loc = some after := by
        simp [insert, setTree]
      have hdiffers := w.differsAt_insert loc after
      refine ⟨w.insert loc after, ?_, (Stores.file h).of_differsAt hdiffers hfile, hdiffers⟩
      rw [World.modifyFile, openForWriting, h]
      rfl
  | @free parent name h hparent =>
      let after : Node := .newFile (f none) w.clock
      have hfile : (w.add (parent ++ [name]) after).tree.node? (parent ++ [name]) = some after := by
        simp [add, noteChange, insert, setTree]
      have hdiffers := w.differsAt_add (parent ++ [name]) after
      refine ⟨w.add (parent ++ [name]) after, ?_,
        (Stores.free h hparent).of_differsAt hdiffers hfile, hdiffers⟩
      have hopen : w.openForWriting path = .ok (parent ++ [name], none) := by
        obtain ⟨node, hnode⟩ := Option.isSome_iff_exists.mp hparent
        simp [openForWriting, h, hnode, bind, Except.bind]
      rw [World.modifyFile, hopen]
      rfl

end World
end LineShell
