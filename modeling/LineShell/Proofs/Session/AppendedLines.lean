import Mathlib
import LineShell.Session.Run
import LineShell.Proofs.World.Contents

/-!
# Lines that are appended

Writes to one path come after each other.  Appending adds whole lines to what the file
has: a last line without its end is ended once, by the first of these writes, and every
later one adds its line and nothing else.  A replacement in between starts again from
its output.
-/

namespace LineShell
namespace Session

variable {w : World} {path : String} {loc : Location} {content : Option (List UInt8)}

def wholeLine (output : String) : List UInt8 :=
  Text.encode output ++ [10]

/-- The end of line that the last line of a file lacks. -/
def missingEnd (old : List UInt8) : List UInt8 :=
  if old = [] ∨ old.getLast? = some 10 then [] else [10]

theorem appendLine_eq (old : List UInt8) (output : String) :
    appendLine old output = old ++ missingEnd old ++ wholeLine output := by
  unfold appendLine missingEnd wholeLine
  split_ifs <;> simp

@[simp] theorem missingEnd_appendLine (old : List UInt8) (output : String) :
    missingEnd (appendLine old output) = [] := by
  simp [missingEnd, appendLine]

/-- What a file has after a write, from what it had before. -/
def contentAfter (old : Option (List UInt8)) : RedirectKind → String → Option (List UInt8)
  | .truncate, output => some (Text.encode output)
  | .append, output => some (appendLine (old.getD []) output)
  | .input, _ | .none, _ => old

def writeOutputs (w : World) (path : String) (writes : List (RedirectKind × String)) :
    Except SystemError World :=
  writes.foldlM (fun w write ↦ writeOutput w path write.1 write.2) w

def contentAfterAll (old : Option (List UInt8)) (writes : List (RedirectKind × String)) :
    Option (List UInt8) :=
  writes.foldl (fun old write ↦ contentAfter old write.1 write.2) old

theorem writeOutput_of_stores (h : w.Stores path loc content) (kind : RedirectKind)
    (output : String) :
    ∃ w', writeOutput w path kind output = .ok w' ∧
      w'.Stores path loc (contentAfter content kind output) ∧ w.DiffersAt loc w' := by
  cases kind with
  | truncate => exact h.modifyFile fun _ ↦ Text.encode output
  | append => exact h.modifyFile fun old ↦ appendLine (old.getD []) output
  | input | none => exact ⟨w, rfl, h, .refl loc w⟩

/-- Writes to a file that can be written all succeed, and touch no other. -/
theorem writeOutputs_of_stores (h : w.Stores path loc content)
    (writes : List (RedirectKind × String)) :
    ∃ w', writeOutputs w path writes = .ok w' ∧
      w'.Stores path loc (contentAfterAll content writes) ∧ w.DiffersAt loc w' := by
  induction writes generalizing w content with
  | nil => exact ⟨w, rfl, h, .refl loc w⟩
  | cons write rest ih =>
      obtain ⟨w₁, hfirst, hstores, hdiffers⟩ := writeOutput_of_stores h write.1 write.2
      obtain ⟨w₂, hrest, hstores', hdiffers'⟩ := ih hstores
      refine ⟨w₂, ?_, hstores', hdiffers.trans hdiffers'⟩
      rw [writeOutputs, List.foldlM_cons, hfirst]
      exact hrest

def appends (outputs : List String) : List (RedirectKind × String) :=
  outputs.map (.append, ·)

theorem contentAfterAll_append (old : Option (List UInt8))
    (xs ys : List (RedirectKind × String)) :
    contentAfterAll old (xs ++ ys) = contentAfterAll (contentAfterAll old xs) ys :=
  List.foldl_append

theorem contentAfterAll_appends (old : Option (List UInt8)) {outputs : List String}
    (houtputs : outputs ≠ []) :
    contentAfterAll old (appends outputs) =
      some (old.getD [] ++ missingEnd (old.getD []) ++ outputs.flatMap wholeLine) := by
  induction outputs generalizing old with
  | nil => exact absurd rfl houtputs
  | cons output rest ih =>
      let added := appendLine (old.getD []) output
      have hstep : contentAfterAll old (appends (output :: rest)) =
          contentAfterAll (some added) (appends rest) := rfl
      rw [hstep]
      by_cases hrest : rest = []
      · subst hrest
        simp [contentAfterAll, appends, added, appendLine_eq]
      · -- what was appended ends in a line end, so that none is missing from here on
        have hended : missingEnd added = [] := missingEnd_appendLine _ _
        rw [ih _ hrest, Option.getD_some, hended, List.append_nil]
        simp [added, appendLine_eq]

/-- The writes succeed, a reader of the path is then given the bytes, and nothing but the
file at the location differs. -/
def Leaves (w : World) (path : String) (loc : Location) (writes : List (RedirectKind × String))
    (bytes : List UInt8) : Prop :=
  ∃ w', writeOutputs w path writes = .ok w' ∧ w'.readBytes path = .ok bytes ∧
    w.DiffersAt loc w'

theorem leaves_of_stores (h : w.Stores path loc content) {writes : List (RedirectKind × String)}
    {bytes : List UInt8} (hbytes : contentAfterAll content writes = some bytes) :
    Leaves w path loc writes bytes := by
  obtain ⟨w', hwrites, hstores, hdiffers⟩ := writeOutputs_of_stores h writes
  rw [hbytes] at hstores
  exact ⟨w', hwrites, hstores.readBytes_eq, hdiffers⟩

/-- Appended outputs stand in the file as whole lines behind all that it had, after the end
of the last line if that was missing; once something was appended, another line is added
and nothing else.  After a replacement the same holds of what it wrote. -/
theorem append_keeps_lines (h : w.Stores path loc content) :
    (∀ outputs, outputs ≠ [] → Leaves w path loc (appends outputs)
      (content.getD [] ++ missingEnd (content.getD []) ++ outputs.flatMap wholeLine)) ∧
    (∀ earlier output, earlier ≠ [] → ∃ before, Leaves w path loc (appends earlier) before ∧
      Leaves w path loc (appends (earlier ++ [output])) (before ++ wholeLine output)) ∧
    ∀ earlier output,
      Leaves w path loc (earlier ++ [(.truncate, output)]) (Text.encode output) ∧
      ∀ outputs, outputs ≠ [] → Leaves w path loc (earlier ++ (.truncate, output) :: appends outputs)
        (Text.encode output ++ missingEnd (Text.encode output) ++ outputs.flatMap wholeLine) := by
  refine ⟨?_, ?_, ?_⟩
  · intro outputs houtputs
    exact leaves_of_stores h (contentAfterAll_appends content houtputs)
  · intro earlier output hearlier
    have hbefore := contentAfterAll_appends content hearlier
    refine ⟨_, leaves_of_stores h hbefore, ?_⟩
    apply leaves_of_stores h
    rw [contentAfterAll_appends content (by simp)]
    simp
  · intro earlier output
    have hreplaced : contentAfterAll content (earlier ++ [(.truncate, output)]) =
        some (Text.encode output) := by
      rw [contentAfterAll_append]
      rfl
    refine ⟨leaves_of_stores h hreplaced, ?_⟩
    intro outputs houtputs
    apply leaves_of_stores h
    rw [List.append_cons, contentAfterAll_append, hreplaced, contentAfterAll_appends _ houtputs]
    rfl

/-- A world with a link to a file that is not text, and whose last line has no end. -/
def linkToBrokenText : World where
  tree := ⟨[(["f"], .file [255, 97] ⟨0o644, 0⟩), (["l"], .link "f" ⟨0o777, 0⟩)]⟩
  here := []
  clock := 0
  environment := .empty
  accountHome := "/"

theorem append_keeps_lines_brokenText :
    linkToBrokenText.Stores "/l" ["f"] (some [255, 97]) ∧
      Leaves linkToBrokenText "/l" ["f"] (appends ["b", "", "c\n"])
        [255, 97, 10, 98, 10, 10, 99, 10, 10] ∧
      Leaves linkToBrokenText "/l" ["f"] [(.append, "b"), (.truncate, "x"), (.append, "y")]
        [120, 10, 121, 10] := by
  have hstores : linkToBrokenText.Stores "/l" ["f"] (some [255, 97]) :=
    .file (a := ⟨0o644, 0⟩) (by decide +kernel)
  obtain ⟨hlines, -, hreplaced⟩ := append_keeps_lines hstores
  refine ⟨hstores, hlines ["b", "", "c\n"] (by simp), ?_⟩
  obtain ⟨-, hagain⟩ := hreplaced [(.append, "b")] "x"
  exact hagain ["y"] (by simp)

end Session
end LineShell
