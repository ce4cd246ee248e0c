import Mathlib
import LineShell.Proofs.Sequence.Parts

/-!
# Two texts on one line

A semicolon after a text that closes its quotations separates, whatever follows.
The parts, the pipelines and the records of the line are then those of the first
text and after them those of the second.
-/

namespace LineShell
namespace Sequence

theorem partsFrom_append_separator {q : Quotation} {cs : List Char} (h : q.after cs = .outside)
    (part : String) (ds : List Char) :
    partsFrom q part (cs ++ ';' :: ds) = partsFrom q part cs ++ partsFrom .outside "" ds := by
  induction cs generalizing q part with
  | nil =>
      obtain rfl : q = .outside := h
      simp [partsFrom]
  | cons c cs ih =>
      by_cases hsep : q = .outside ∧ c = ';'
      · obtain ⟨rfl, rfl⟩ := hsep
        have hrest : Quotation.outside.after cs = .outside := h
        simp [partsFrom, ih hrest]
      · simp only [List.cons_append, partsFrom, if_neg hsep]
        exact ih h (part.push c)

theorem rawParts_append_semicolon {a : String} (ha : Quotation.Closes a) (b : String) :
    rawParts (a ++ ";" ++ b) = rawParts a ++ rawParts b := by
  have htext : (a ++ ";" ++ b).toList = a.toList ++ ';' :: b.toList := by simp
  rw [rawParts, htext, partsFrom_append_separator ha]
  rfl

/-- The pipelines of a line part by part, the empty ones included. -/
def pipelines (lookup : Lookup) (line : String) : List Pipeline :=
  (rawParts line).map fun part ↦ (Pipeline.parse lookup part).1

theorem parse_eq_ofPipelines (lookup : Lookup) (line : String) :
    (parse lookup line).1 = ofPipelines (pipelines lookup line) := by
  rw [parse_eq_readParts]
  simp [readParts, pipelines, Function.comp_def]

theorem pipelines_append_semicolon (lookup : Lookup) {a : String} (ha : Quotation.Closes a)
    (b : String) :
    pipelines lookup (a ++ ";" ++ b) = pipelines lookup a ++ pipelines lookup b := by
  simp [pipelines, rawParts_append_semicolon ha]

theorem notices_append_semicolon (lookup : Lookup) {a : String} (ha : Quotation.Closes a)
    (b : String) :
    (parse lookup (a ++ ";" ++ b)).2 = (parse lookup a).2 ++ (parse lookup b).2 := by
  simp [parse_eq_readParts, readParts, rawParts_append_semicolon ha]

end Sequence
end LineShell
