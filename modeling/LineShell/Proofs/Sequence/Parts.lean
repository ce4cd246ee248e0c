import Mathlib
import LineShell.Sequence
import LineShell.Proofs.Token.Scan

/-!
# The parts of a line

A text without an unquoted semicolon stands inside one part.  A blank part has
no tokens and so no stage: dropping the blank parts before they are read changes
nothing, and a line can be read part by part without looking for them.
-/

namespace LineShell

namespace Scanner

theorem scan_blank (lookup : Lookup) {cs : List Char} (hcs : ∀ c ∈ cs, Text.isBlank c = true) :
    scan lookup {} cs = [] := by
  induction cs with
  | nil => rfl
  | cons c cs ih =>
      have hrest : scan lookup {} cs = [] := ih fun d hd ↦ hcs d (List.mem_cons_of_mem c hd)
      rw [scan, step_blank rfl (hcs c List.mem_cons_self), hrest]
      rfl

end Scanner

namespace Pipeline

theorem parse_of_allBlank (lookup : Lookup) {part : String} (h : Text.allBlank part = true) :
    parse lookup part = ([], []) := by
  have htokens : Token.tokenize lookup part = [] :=
    Scanner.scan_blank lookup (List.all_eq_true.mp h)
  simp [parse, htokens, ofTokens, readFrom, Stage.ofWords?]

/-- A redirect without a target ends its pipeline. -/
theorem readFrom_dangling (ws : List String) (r : Redirect) (op : RedirectOp)
    {rest : List Token} (h : ∀ target tail, rest ≠ .word target :: tail) :
    readFrom ws r (.redirect op :: rest) = ([], []) := by
  cases rest with
  | nil => rfl
  | cons t tail =>
      cases t with
      | word target => exact absurd rfl (h target tail)
      | pipe => rfl
      | redirect op' => rfl

end Pipeline

namespace Sequence

/-- Read from a quotation on, a text has no semicolon outside quotations. -/
def NoSeparator : Quotation → List Char → Prop
  | _, [] => True
  | q, c :: rest => ¬(q = .outside ∧ c = ';') ∧ NoSeparator (q.step c) rest

instance decidableNoSeparator : (q : Quotation) → (cs : List Char) → Decidable (NoSeparator q cs)
  | _, [] => isTrue trivial
  | q, c :: rest =>
      have := decidableNoSeparator (q.step c) rest
      inferInstanceAs (Decidable (_ ∧ _))

theorem noSeparator_append (q : Quotation) (cs ds : List Char) :
    NoSeparator q (cs ++ ds) ↔ NoSeparator q cs ∧ NoSeparator (q.after cs) ds := by
  induction cs generalizing q with
  | nil => simp [NoSeparator]
  | cons c cs ih => simp [NoSeparator, ih, and_assoc]

theorem partsFrom_append {q : Quotation} {cs : List Char} (h : NoSeparator q cs)
    (part : String) (ds : List Char) :
    partsFrom q part (cs ++ ds) = partsFrom (q.after cs) (part ++ String.ofList cs) ds := by
  induction cs generalizing q part with
  | nil => simp
  | cons c cs ih =>
      rw [List.cons_append, partsFrom, if_neg h.1, ih h.2, Text.push_append_ofList]
      rfl

theorem ofPipelines_congr {ps qs : List Pipeline}
    (h : ps.filter (!·.isEmpty) = qs.filter (!·.isEmpty)) : ofPipelines ps = ofPipelines qs := by
  simp only [ofPipelines, h]

/-- Reading the parts one by one, the blank ones included. -/
def readParts (lookup : Lookup) (parts : List String) : Sequence × List Notice :=
  let read := parts.map (Pipeline.parse lookup)
  (ofPipelines (read.map (·.1)), read.flatMap (·.2))

theorem readParts_filter (lookup : Lookup) (parts : List String) :
    readParts lookup (parts.filter fun part => !Text.allBlank part) =
      readParts lookup parts := by
  refine Prod.ext (ofPipelines_congr ?_) ?_
  · induction parts with
    | nil => rfl
    | cons part parts ih =>
        cases h : Text.allBlank part with
        | true => simpa [h, Pipeline.parse_of_allBlank lookup h] using ih
        | false =>
            cases hstages : (Pipeline.parse lookup part).1.isEmpty <;>
              simpa [h, hstages] using ih
  · induction parts with
    | nil => rfl
    | cons part parts ih =>
        cases h : Text.allBlank part with
        | true => simpa [readParts, h, Pipeline.parse_of_allBlank lookup h] using ih
        | false => simpa [readParts, h] using ih

/-- A line is read part by part. -/
theorem parse_eq_readParts (lookup : Lookup) (line : String) :
    parse lookup line = readParts lookup (rawParts line) :=
  readParts_filter lookup (rawParts line)

end Sequence
end LineShell
