import Mathlib
import LineShell.Proofs.Sequence.Concatenation
import LineShell.Proofs.Text.Parts

/-!
# Where a line is cut

A line is its parts with a semicolon between neighbours.  All parts but the last close
their quotations, and no part has a semicolon outside them; there is only one such way
to cut a line.  The blank parts are dropped, and the line that is put together from the
others is cut into these again.
-/

namespace LineShell
namespace Sequence

/-- Texts that keep apart when they stand on one line between semicolons. -/
structure Separable (parts : List String) : Prop where
  closes : ∀ part ∈ parts.dropLast, Quotation.Closes part
  noSeparator : ∀ part ∈ parts, NoSeparator .outside part.toList

namespace Separable

theorem singleton {part : String} (h : NoSeparator .outside part.toList) :
    Separable [part] where
  closes := by simp
  noSeparator := by simpa using h

theorem cons {part : String} {rest : List String} (hclosed : Quotation.Closes part)
    (hpart : NoSeparator .outside part.toList) (hrest : Separable rest) :
    Separable (part :: rest) where
  closes := by
    cases rest with
    | nil => simp
    | cons next rest =>
        rw [List.dropLast_cons_cons]
        exact List.forall_mem_cons.mpr ⟨hclosed, hrest.closes⟩
  noSeparator := List.forall_mem_cons.mpr ⟨hpart, hrest.noSeparator⟩

theorem sublist {parts kept : List String} (h : Separable parts) (hkept : kept.Sublist parts) :
    Separable kept where
  closes := by
    have hinit : kept.dropLast.Sublist parts.dropLast := by
      simpa [List.tail_reverse] using hkept.reverse.tail.reverse
    intro part hpart
    exact h.closes part (hinit.subset hpart)
  noSeparator := by
    intro part hpart
    exact h.noSeparator part (hkept.subset hpart)

theorem rawParts_joinWith {parts : List String} (hne : parts ≠ []) (h : Separable parts) :
    rawParts (Text.joinWith ";" parts) = parts := by
  induction parts with
  | nil => exact absurd rfl hne
  | cons part rest ih =>
      have hpart : rawParts part = [part] := by
        have hparts := partsFrom_append (h.noSeparator part List.mem_cons_self) "" []
        simpa [rawParts, partsFrom] using hparts
      by_cases hrest : rest = []
      · subst hrest
        exact hpart
      · have hclosed : Quotation.Closes part :=
          h.closes part (by simp [List.dropLast_cons_of_ne_nil hrest])
        have htail : rawParts (Text.joinWith ";" rest) = rest :=
          ih hrest (h.sublist (List.sublist_cons_self part rest))
        rw [Text.joinWith_cons hrest, rawParts_append_semicolon hclosed, hpart, htail]
        rfl

end Separable

theorem partsFrom_ne_nil (q : Quotation) (part : String) (cs : List Char) :
    partsFrom q part cs ≠ [] := by
  induction cs generalizing q part with
  | nil => simp [partsFrom]
  | cons c cs ih =>
      rw [partsFrom]
      split_ifs
      · simp
      · exact ih (q.step c) (part.push c)

theorem joinWith_partsFrom (q : Quotation) (part : String) (cs : List Char) :
    Text.joinWith ";" (partsFrom q part cs) = part ++ String.ofList cs := by
  induction cs generalizing q part with
  | nil => simp [partsFrom, Text.joinWith]
  | cons c cs ih =>
      rw [partsFrom]
      split_ifs with hsep
      · rw [Text.joinWith_cons (partsFrom_ne_nil _ _ _), ih, hsep.2]
        apply String.toList_injective
        simp
      · rw [ih, Text.push_append_ofList]

theorem separable_partsFrom {part : String} (h : NoSeparator .outside part.toList)
    (cs : List Char) :
    Separable (partsFrom (Quotation.outside.after part.toList) part cs) := by
  -- The quotation is always the one that the part at hand leaves, so that this part is closed
  -- where a semicolon ends it.
  induction cs generalizing part with
  | nil => exact .singleton h
  | cons c cs ih =>
      rw [partsFrom]
      split_ifs with hsep
      · have hrest : Separable (partsFrom .outside "" cs) :=
          ih (show NoSeparator .outside "".toList from trivial)
        exact .cons hsep.1 h hrest
      · have hnext : NoSeparator .outside (part.push c).toList := by
          rw [String.toList_push, noSeparator_append]
          exact ⟨h, hsep, trivial⟩
        simpa using ih hnext

theorem separable_rawParts (line : String) : Separable (rawParts line) :=
  separable_partsFrom (show NoSeparator .outside "".toList from trivial) line.toList

theorem joinWith_rawParts (line : String) : Text.joinWith ";" (rawParts line) = line := by
  rw [rawParts, joinWith_partsFrom]
  simp

/-- A line is put together from these texts, which keep apart on it. -/
structure Cuts (line : String) (parts : List String) : Prop extends Separable parts where
  ne_nil : parts ≠ []
  joined : Text.joinWith ";" parts = line

theorem cuts_iff {line : String} {parts : List String} :
    Cuts line parts ↔ parts = rawParts line := by
  constructor
  · intro h
    rw [← h.joined, h.toSeparable.rawParts_joinWith h.ne_nil]
  · rintro rfl
    exact ⟨separable_rawParts line, partsFrom_ne_nil _ _ _, joinWith_rawParts line⟩

/-- There is one way to cut a line, and the line is split into the parts that are not blank.
Put together, these are split into the same parts. -/
theorem split_drops_blank_parts (line : String) :
    (∃ parts, Cuts line parts ∧ (∀ others, Cuts line others → others = parts) ∧
      split line = parts.filter fun part ↦ !Text.allBlank part) ∧
    split (Text.joinWith ";" (split line)) = split line := by
  have hcuts : Cuts line (rawParts line) := cuts_iff.mpr rfl
  refine ⟨⟨rawParts line, hcuts, fun _ h ↦ cuts_iff.mp h, rfl⟩, ?_⟩
  by_cases hnone : split line = []
  · rw [hnone]
    rfl
  · have hkept : Separable (split line) := (separable_rawParts line).sublist List.filter_sublist
    calc split (Text.joinWith ";" (split line))
        = (split line).filter fun part ↦ !Text.allBlank part := by
          rw [split, hkept.rawParts_joinWith hnone]
      _ = split line := by simp [split]

example : rawParts "a ';'; ;b;\"c;" = ["a ';'", " ", "b", "\"c;"] ∧
    split "a ';'; ;b;\"c;" = ["a ';'", "b", "\"c;"] := by decide

end Sequence
end LineShell
