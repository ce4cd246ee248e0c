import Mathlib
import LineShell.History
import LineShell.Proofs.Words.Reading

/-!
# Lines with and without a reference

A line has at most one reference, a word right behind a mark at its start, and it
has none if no character but a blank follows such a mark.  An entry that is tight
and has no reference stays so when the rest of another line is put behind it,
because this rest is empty or set off by a blank.
-/

namespace LineShell

namespace Text

theorem cutAtBlank_eq_iff {s word rest : String} :
    cutAtBlank s = (word, rest) ↔ s = word ++ rest ∧
      (∀ c ∈ word.toList, isBlank c = false) ∧ ∀ c ∈ rest.toList.head?, isBlank c = true := by
  simp only [cutAtBlank, Prod.mk.injEq]
  constructor
  · rintro ⟨rfl, rfl⟩
    refine ⟨?_, ?_, ?_⟩
    · rw [← String.ofList_append, List.takeWhile_append_dropWhile, String.ofList_toList]
    · intro c hc
      rw [String.toList_ofList] at hc
      simpa using List.mem_takeWhile_imp hc
    · intro c hc
      have hhead := List.head?_dropWhile_not (!isBlank ·) s.toList
      rw [String.toList_ofList, Option.mem_def] at hc
      rw [hc] at hhead
      simpa using hhead
  · rintro ⟨rfl, hword, hrest⟩
    have hall : ∀ c ∈ word.toList, (!isBlank c) = true := by simpa using hword
    have hstop : rest.toList.takeWhile (!isBlank ·) = [] := by
      cases hr : rest.toList with
      | nil => rfl
      | cons c cs => simp [hrest c (by simp [hr])]
    have hkeep : rest.toList.dropWhile (!isBlank ·) = rest.toList :=
      dropWhile_eq_self fun c hc ↦ by simp [hrest c hc]
    rw [String.toList_append, List.takeWhile_append_of_pos hall, List.dropWhile_append_of_pos hall,
      hstop, hkeep]
    simp

end Text

namespace History

/-- A line that is a mark, a word that is the reference, and a rest that is empty or set
off by a blank. -/
structure Refers (line reference rest : String) : Prop where
  spelled : line = "!" ++ reference ++ rest
  nonempty : reference ≠ ""
  unbroken : ∀ c ∈ reference.toList, Text.isBlank c = false
  apart : ∀ c ∈ rest.toList.head?, Text.isBlank c = true

/-- No character but a blank stands behind a mark at the start of the line. -/
def Plain (line : String) : Prop :=
  ∀ c, ['!', c] <+: line.toList → Text.isBlank c = true

theorem reference?_of_mark {line : String} {body : List Char} (h : line.toList = '!' :: body) :
    reference? line =
      if (Text.cutAtBlank (String.ofList body)).1 = "" then none
      else some (Text.cutAtBlank (String.ofList body)) := by
  simp only [reference?, h]

theorem reference?_eq_some_iff {line reference rest : String} :
    reference? line = some (reference, rest) ↔ Refers line reference rest := by
  constructor
  · intro h
    cases hline : line.toList with
    | nil => simp [reference?, hline] at h
    | cons mark body =>
        obtain rfl : mark = '!' := by
          by_contra hmark
          simp [reference?, hline, hmark] at h
        rw [reference?_of_mark hline] at h
        split_ifs at h with hempty
        have hcut := Option.some.inj h
        rw [hcut] at hempty
        obtain ⟨hbody, hunbroken, hapart⟩ := Text.cutAtBlank_eq_iff.mp hcut
        refine ⟨?_, hempty, hunbroken, hapart⟩
        rw [String.append_assoc, ← hbody]
        apply String.toList_injective
        simp [hline]
  · rintro ⟨hspelled, hne, hunbroken, hapart⟩
    have hline : line.toList = '!' :: (reference ++ rest).toList := by simp [hspelled]
    have hcut : Text.cutAtBlank (String.ofList (reference ++ rest).toList) = (reference, rest) :=
      Text.cutAtBlank_eq_iff.mpr ⟨String.ofList_toList, hunbroken, hapart⟩
    rw [reference?_of_mark hline, hcut, if_neg hne]

theorem plain_iff (line : String) : Plain line ↔ ∀ reference rest, ¬Refers line reference rest := by
  constructor
  · rintro hplain reference rest ⟨rfl, hne, hunbroken, -⟩
    cases href : reference.toList with
    | nil => exact hne (String.toList_eq_nil_iff.mp href)
    | cons c cs =>
        have hblank : Text.isBlank c = true := hplain c (by simp [href])
        simp [hunbroken c (by simp [href])] at hblank
  · intro h c hc
    obtain ⟨cs, hline⟩ := hc
    by_contra hblank
    have hline' : line.toList = '!' :: (c :: cs) := hline.symm
    cases href : reference? line with
    | some found => exact h found.1 found.2 (reference?_eq_some_iff.mp href)
    | none => simp [reference?_of_mark hline', Text.cutAtBlank, hblank] at href

theorem reference?_eq_none_iff (line : String) : reference? line = none ↔ Plain line := by
  rw [plain_iff, Option.eq_none_iff_forall_ne_some]
  simp only [ne_eq, Prod.forall, reference?_eq_some_iff]

theorem find?_mem {history : List String} {reference entry : String}
    (h : find? history reference = some entry) : entry ∈ history := by
  unfold find? at h
  split at h
  · exact List.mem_of_getLast? h
  · split at h
    · split_ifs at h
      exact List.mem_of_getElem? h
    · exact List.mem_reverse.mp (List.mem_of_find?_eq_some h)

theorem expand_of_refers {line reference rest : String} (h : Refers line reference rest)
    (history : List String) :
    expand history line =
      match find? history reference with
      | some entry => .ok (some (entry ++ rest))
      | none => .error .eventNotFound := by
  cases hfind : find? history reference with
  | none => simp [expand, reference?_eq_some_iff.mpr h, hfind]
  | some entry => simp [expand, reference?_eq_some_iff.mpr h, hfind]

theorem expand_of_plain {line : String} (h : Plain line) (history : List String) :
    expand history line = .ok none := by
  rw [expand, (reference?_eq_none_iff line).mpr h]

/-- A text that means itself: it has no blanks around it and no reference in it. -/
structure Literal (entry : String) : Prop where
  tight : Text.Tight entry.toList
  plain : Plain entry

theorem literal_trim {line : String} (hne : Text.trim line ≠ "")
    (h : ∀ reference rest, ¬Refers (Text.trim line) reference rest) : Literal (Text.trim line) :=
  ⟨Text.tight_trim hne, (plain_iff _).mpr h⟩

/-- An entry keeps its meaning with the rest of another line behind it. -/
theorem Literal.append_rest {line reference rest old : String} (hold : Literal old)
    (hline : Text.Tight line.toList) (h : Refers line reference rest) : Literal (old ++ rest) := by
  have hlast : ∀ c ∈ rest.toList.getLast?, Text.isBlank c = false := by
    intro c hc
    refine hline.last c ?_
    rw [h.spelled, String.toList_append, List.getLast?_append]
    simp [Option.mem_def.mp hc]
  constructor
  · rw [String.toList_append]
    refine ⟨by simp [hold.tight.nonempty], ?_, ?_⟩
    · rw [List.head?_append_of_ne_nil _ hold.tight.nonempty]
      exact hold.tight.head
    · intro c hc
      rw [List.getLast?_append] at hc
      cases hrest : rest.toList.getLast? with
      | none => exact hold.tight.last c (by simpa [hrest] using hc)
      | some d => exact hlast c (by simpa [hrest] using hc)
  · intro c hc
    rw [String.toList_append] at hc
    match hchars : old.toList with
    | [] => exact absurd hchars hold.tight.nonempty
    | [mark] =>
        -- The mark alone is an entry, and what stands behind it begins with a blank.
        rw [hchars] at hc
        obtain ⟨-, cs, hrest⟩ : '!' = mark ∧ [c] <+: rest.toList := by simpa using hc
        exact h.apart c (by simp [← hrest])
    | mark :: d :: cs =>
        refine hold.plain c ?_
        rw [hchars] at hc ⊢
        simpa using hc

end History
end LineShell
