import Mathlib
import LineShell.Text.Basic
import LineShell.Proofs.Token.Scan

/-!
# Parts of a text and texts put together

The parts of a text between the separators and the text joined from parts undo each
other.  An empty part behind the first one shows in the text as a doubled separator or
as a separator at the end.
-/

namespace LineShell
namespace Text

theorem joinWith_cons {sep : String} {ts : List String} (hne : ts ≠ []) (t : String) :
    joinWith sep (t :: ts) = t ++ sep ++ joinWith sep ts := by
  cases ts with
  | nil => exact absurd rfl hne
  | cons u us => rfl

theorem joinWith_append {sep : String} {ss ts : List String} (hs : ss ≠ []) (ht : ts ≠ []) :
    joinWith sep (ss ++ ts) = joinWith sep ss ++ sep ++ joinWith sep ts := by
  induction ss with
  | nil => exact absurd rfl hs
  | cons s rest ih =>
      by_cases hrest : rest = []
      · subst hrest
        exact joinWith_cons ht s
      · rw [List.cons_append, joinWith_cons (by simp [hrest]), ih hrest, joinWith_cons hrest]
        simp only [String.append_assoc]

theorem partsAux_of_notMem {sep : Char} {cs : List Char} (h : sep ∉ cs) (part : String) :
    partsAux sep part cs = [part ++ String.ofList cs] := by
  induction cs generalizing part with
  | nil => simp [partsAux]
  | cons c cs ih =>
      obtain ⟨hc, hcs⟩ : sep ≠ c ∧ sep ∉ cs := by simpa using h
      rw [partsAux, if_neg (Ne.symm hc), ih hcs, push_append_ofList]

theorem partsAux_append (sep : Char) (part : String) (cs ds : List Char) :
    partsAux sep part (cs ++ sep :: ds) = partsAux sep part cs ++ partsAux sep "" ds := by
  induction cs generalizing part with
  | nil => simp [partsAux]
  | cons c cs ih =>
      rw [List.cons_append, partsAux, partsAux, ih, ih]
      split_ifs <;> rfl

theorem partsAux_ne_nil (sep : Char) (part : String) (cs : List Char) :
    partsAux sep part cs ≠ [] := by
  induction cs generalizing part with
  | nil => simp [partsAux]
  | cons c cs ih =>
      rw [partsAux]
      split_ifs
      · simp
      · exact ih (part.push c)

theorem notMem_of_mem_partsAux {sep : Char} {part : String} {cs : List Char}
    (hpart : sep ∉ part.toList) : ∀ p ∈ partsAux sep part cs, sep ∉ p.toList := by
  induction cs generalizing part with
  | nil => simpa [partsAux] using hpart
  | cons c cs ih =>
      intro p hp
      by_cases hc : c = sep
      · rcases List.mem_cons.mp (by simpa [partsAux, hc] using hp) with rfl | hrest
        · exact hpart
        · exact ih (by simp) p hrest
      · have hpush : sep ∉ (part.push c).toList := by
          simpa [Ne.symm hc] using hpart
        exact ih hpush p (by simpa [partsAux, hc] using hp)

theorem joinWith_partsAux (part : String) (cs : List Char) :
    joinWith "/" (partsAux '/' part cs) = part ++ String.ofList cs := by
  induction cs generalizing part with
  | nil => simp [partsAux, joinWith]
  | cons c cs ih =>
      rw [partsAux]
      split_ifs with hc
      · rw [joinWith_cons (partsAux_ne_nil _ _ _), ih, hc]
        apply String.toList_injective
        simp
      · rw [ih, push_append_ofList]

theorem parts_append_slash (s t : String) :
    parts '/' (s ++ "/" ++ t) = parts '/' s ++ parts '/' t := by
  have hchars : (s ++ "/" ++ t).toList = s.toList ++ '/' :: t.toList := by simp
  rw [parts, hchars, partsAux_append, parts, parts]

theorem parts_ne_nil (sep : Char) (s : String) : parts sep s ≠ [] :=
  partsAux_ne_nil sep "" s.toList

theorem joinWith_parts_slash (s : String) : joinWith "/" (parts '/' s) = s := by
  rw [parts, joinWith_partsAux]
  simp

/-- Texts without slashes that were joined by slashes are found again. -/
theorem parts_joinWith_slash {ps : List String} (hne : ps ≠ [])
    (h : ∀ p ∈ ps, '/' ∉ p.toList) : parts '/' (joinWith "/" ps) = ps := by
  induction ps with
  | nil => exact absurd rfl hne
  | cons p ps ih =>
      have hp : parts '/' p = [p] := by
        rw [parts, partsAux_of_notMem (h p List.mem_cons_self)]
        simp
      by_cases hps : ps = []
      · subst hps
        exact hp
      · have hrest := ih hps fun t ht ↦ h t (List.mem_cons_of_mem p ht)
        rw [joinWith_cons hps, parts_append_slash, hp, hrest]
        rfl

theorem empty_mem_tail_parts_append {s t : String} (h : "" ∈ parts '/' t) :
    "" ∈ (parts '/' (s ++ "/" ++ t)).tail := by
  rw [parts_append_slash, List.tail_append_of_ne_nil (parts_ne_nil '/' s)]
  exact List.mem_append_right _ h

/-- Behind the first part, an empty one stands between two slashes or after a last slash. -/
theorem empty_mem_tail_parts_iff (s : String) :
    "" ∈ (parts '/' s).tail ↔ ['/', '/'] <:+: s.toList ∨ s.toList.getLast? = some '/' := by
  constructor
  · intro h
    obtain ⟨p, tail, hparts⟩ := List.exists_cons_of_ne_nil (parts_ne_nil '/' s)
    obtain ⟨before, after, htail⟩ := List.append_of_mem (by simpa [hparts] using h : "" ∈ tail)
    have hs : s = joinWith "/" (p :: before) ++ "/" ++ joinWith "/" ("" :: after) := by
      rw [← joinWith_append (by simp) (by simp), List.cons_append, ← htail, ← hparts,
        joinWith_parts_slash]
    by_cases hafter : after = []
    · right
      simp [hs, hafter, joinWith]
    · left
      rw [joinWith_cons hafter] at hs
      exact ⟨(joinWith "/" (p :: before)).toList, (joinWith "/" after).toList, by simp [hs]⟩
  · rintro (⟨before, after, hs⟩ | hlast)
    · obtain rfl : s = String.ofList before ++ "/" ++ ("/" ++ String.ofList after) := by
        apply String.toList_injective
        simp [← hs]
      apply empty_mem_tail_parts_append
      have hafter := parts_append_slash "" (String.ofList after)
      rw [String.empty_append] at hafter
      rw [hafter]
      exact List.mem_append_left _ (by decide)
    · obtain ⟨before, hs⟩ := List.getLast?_eq_some_iff.mp hlast
      obtain rfl : s = String.ofList before ++ "/" ++ "" := by
        apply String.toList_injective
        simp [hs]
      exact empty_mem_tail_parts_append (by decide)

end Text
end LineShell
