import LineShell.FileTree.Basic
import LineShell.SystemError
import LineShell.Path

/-!
# Walking a path

A path is walked part by part from a directory.  Symbolic links on the way are
followed, at most forty of them in one walk; `..` leads to the directory that
holds the one at hand.  A walk ends at an entry, or at a name that a directory
does not have yet.
-/

namespace LineShell
namespace FileTree

inductive Ending where
  | follow
  | keep
  /-- Follows a link there and is about to create a file. -/
  | create
deriving DecidableEq, Repr, Inhabited

inductive Spot where
  | present (loc : Location) (node : Node)
  | absent (parent : Location) (name : String) (slash : Bool)
deriving DecidableEq, Repr, Inhabited

def nameLimit : Nat := 255

/-- The number of bytes that a path may not reach. -/
def pathLimit : Nat := 4096

def linkLimit : Nat := 40

/-- The parts of a path for a walk; an empty last part marks a slash at the end. -/
def walkParts (path : String) : List String :=
  let ps := Text.parts '/' path
  ps.dropLast.filter (· ≠ "") ++ ps.getLast?.toList

/-- The entry at a directory that a walk has reached; a directory that was
removed meanwhile is still an empty one to those who stand in it. -/
def standing (tree : FileTree) (loc : Location) : Node :=
  (tree.get? loc).getD (.directory ⟨0o755, 0⟩)

/-- Walks up to the next link, and leaves the rest to `jump`. -/
def walkWith (jump : Location → List String → Except SystemError Spot) (tree : FileTree)
    (ending : Ending) : Location → List String → Except SystemError Spot
  | loc, [] => .ok (.present loc (tree.standing loc))
  | loc, part :: rest =>
      if part = "" ∨ part = "." then walkWith jump tree ending loc rest
      else if part = ".." then walkWith jump tree ending loc.dropLast rest
      else if ending = .create ∧ rest = [""] then .error .isADirectory
      else if nameLimit < part.utf8ByteSize then .error .nameTooLong
      else
        match tree.node? (loc ++ [part]) with
        | none =>
            if rest = [] ∨ rest = [""] then .ok (.absent loc part (rest ≠ []))
            else .error .notFound
        | some (.directory _) => walkWith jump tree ending (loc ++ [part]) rest
        | some (.link target a) =>
            if rest = [] ∧ ending = .keep then .ok (.present (loc ++ [part]) (.link target a))
            else jump (if Path.isAbsolute target then [] else loc) (walkParts target ++ rest)
        | some node =>
            if rest = [] then .ok (.present (loc ++ [part]) node) else .error .notADirectory

def walkLinks (tree : FileTree) (ending : Ending) :
    Nat → Location → List String → Except SystemError Spot
  | 0 => walkWith (fun _ _ => .error .tooManyLinks) tree ending
  | n + 1 => walkWith (walkLinks tree ending n) tree ending

@[irreducible] def walk (tree : FileTree) (here : Location) (ending : Ending) (path : String) :
    Except SystemError Spot :=
  if Text.hasNul path then .error .nulInFileName
  else if path = "" then .error .notFound
  else if pathLimit ≤ path.utf8ByteSize then .error .nameTooLong
  else
    walkLinks tree ending linkLimit (if Path.isAbsolute path then [] else here) (walkParts path)

end FileTree
end LineShell
