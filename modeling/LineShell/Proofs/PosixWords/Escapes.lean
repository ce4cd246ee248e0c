import LineShell.Command.Aliases
import LineShell.Proofs.PosixWords.Rereading

/-!
# Words that take an escape

Double quotes are the last choice of the quoting.  A chunk is put between them only if
it has an apostrophe or a backslash, and then a quotation mark or a backslash in it is
escaped.  So a word with a backslash always takes an escape, and a word without one
takes none unless it has both kinds of quotes.
-/

namespace LineShell
namespace PosixWords

/-- What the styles that are left for a chunk say about its characters. -/
structure Narrowed (styles : Styles) (chunk : String) : Prop where
  left : styles.isEmpty = false
  single : styles.single = false → ∃ c ∈ chunk.toList, (stylesOf c).single = false
  double : styles.double = true → ∀ c ∈ chunk.toList, (stylesOf c).double = true
  backslash : styles.bare = true ∨ styles.single = true → '\\' ∉ chunk.toList

theorem eq_mark_of_single {c : Char} (h : (stylesOf c).single = false) :
    c = '\x27' ∨ c = '\\' ∨ c = '^' := by
  have hmem : ['\x27', '\\', '^'].contains c = true := by
    simpa only [stylesOf, Bool.not_eq_false'] using h
  simpa using hmem

theorem eq_of_isEscaped {c : Char} (h : isEscaped c = true) :
    c = '$' ∨ c = '\x60' ∨ c = '"' ∨ c = '\\' := by
  simpa [isEscaped] using h

theorem isEmpty_stylesOf {c : Char} (hc : c ≠ '^') : (stylesOf c).isEmpty = false := by
  cases hsingle : (stylesOf c).single with
  | true => simp [Styles.isEmpty, hsingle]
  | false =>
      rcases eq_mark_of_single hsingle with rfl | rfl | rfl
      · decide
      · decide
      · exact absurd rfl hc

theorem stylesOf_backslash : stylesOf '\\' = ⟨false, false, true⟩ := by decide

theorem narrowed_head (c : Char) : Narrowed (headStylesOf c) c.toString := by
  by_cases hc : c = '^'
  · subst hc
    exact ⟨by decide, by decide, by decide, by decide⟩
  · rw [headStylesOf, if_neg hc]
    refine ⟨isEmpty_stylesOf hc, fun h ↦ ⟨c, by simp, h⟩, fun h d hd ↦ ?_, fun h hmem ↦ ?_⟩
    · obtain rfl : d = c := by simpa using hd
      exact h
    · obtain rfl : '\\' = c := by simpa using hmem
      simp [stylesOf_backslash] at h

theorem Narrowed.push {styles : Styles} {chunk : String} (h : Narrowed styles chunk) {c : Char}
    (hleft : (styles.inter (stylesOf c)).isEmpty = false) :
    Narrowed (styles.inter (stylesOf c)) (chunk.push c) := by
  have hpush : ∀ d, d ∈ (chunk.push c).toList ↔ d ∈ chunk.toList ∨ d = c := by
    simp [String.toList_push]
  refine ⟨hleft, fun hsingle ↦ ?_, fun hdouble d hd ↦ ?_, fun hstyle hmem ↦ ?_⟩
  · by_cases hstyles : styles.single = false
    · obtain ⟨d, hd, hmark⟩ := h.single hstyles
      exact ⟨d, (hpush d).mpr (.inl hd), hmark⟩
    · exact ⟨c, (hpush c).mpr (.inr rfl), by simpa [Styles.inter, hstyles] using hsingle⟩
  · obtain ⟨hstyles, hc⟩ : styles.double = true ∧ (stylesOf c).double = true := by
      simpa [Styles.inter] using hdouble
    rcases (hpush d).mp hd with hd | rfl
    · exact h.double hstyles d hd
    · exact hc
  · simp only [Styles.inter, Bool.and_eq_true] at hstyle
    rcases (hpush _).mp hmem with hmem | rfl
    · exact h.backslash (hstyle.imp And.left And.left) hmem
    · simp [stylesOf_backslash] at hstyle

/-- The choice of the style of a chunk: double quotes only where no other style would do, and
for every backslash. -/
structure Justified (p : Style × String) : Prop where
  single : p.1 = .double → ∃ c ∈ p.2.toList, (stylesOf c).single = false
  double : p.1 = .double → ∀ c ∈ p.2.toList, (stylesOf c).double = true
  backslash : '\\' ∈ p.2.toList → p.1 = .double

theorem Narrowed.justified_best {styles : Styles} {chunk : String} (h : Narrowed styles chunk) :
    Justified (styles.best, chunk) := by
  have hleft := h.left
  have hbackslash := h.backslash
  simp only [Styles.isEmpty, Bool.and_eq_false_iff, Bool.not_eq_false'] at hleft
  unfold Styles.best
  split_ifs with hbare hsingle
  · exact ⟨by simp, by simp, fun hmem ↦ absurd hmem (hbackslash (.inl hbare))⟩
  · exact ⟨by simp, by simp, fun hmem ↦ absurd hmem (hbackslash (.inr hsingle))⟩
  · have hdouble : styles.double = true := by simpa [hbare, hsingle] using hleft
    exact ⟨fun _ ↦ h.single (by simpa using hsingle), fun _ ↦ h.double hdouble, fun _ ↦ rfl⟩

theorem justified_of_mem_chunks {word : String} {p : Style × String} (hp : p ∈ chunks word) :
    Justified p :=
  forall_mem_chunks (P := Narrowed) (Q := Justified) narrowed_head (fun _ _ _ h ↦ h.push)
    (fun _ _ h ↦ h.justified_best) ⟨by simp, by simp, by simp⟩ word p hp

theorem mem_toList_iff_mem_chunks {word : String} {c : Char} :
    c ∈ word.toList ↔ ∃ p ∈ chunks word, c ∈ p.2.toList := by
  rw [← flatMap_chunks, List.mem_flatMap]

/-- Only a quotation mark and a backslash are ever escaped: no chunk in double quotes has one of
the other two characters that would be. -/
theorem unescaped_iff {word : String} :
    Unescaped word ↔ ∀ chunk, (Style.double, chunk) ∈ chunks word →
      '"' ∉ chunk.toList ∧ '\\' ∉ chunk.toList := by
  constructor
  · intro h chunk hchunk
    have hplain := h _ hchunk rfl
    exact ⟨fun hmem ↦ absurd (hplain _ hmem) (by decide),
      fun hmem ↦ absurd (hplain _ hmem) (by decide)⟩
  · rintro h ⟨style, chunk⟩ hchunk rfl c hc
    obtain ⟨hquote, hbackslash⟩ := h chunk hchunk
    have hdouble := (justified_of_mem_chunks hchunk).double rfl c hc
    by_contra hescaped
    rcases eq_of_isEscaped (Bool.eq_true_of_not_eq_false hescaped) with rfl | rfl | rfl | rfl
    · exact absurd hdouble (by decide)
    · exact absurd hdouble (by decide)
    · exact hquote hc
    · exact hbackslash hc

theorem not_unescaped_of_backslash {word : String} (h : '\\' ∈ word.toList) :
    ¬Unescaped word := by
  intro hplain
  obtain ⟨p, hp, hmem⟩ := mem_toList_iff_mem_chunks.mp h
  have hdouble := (justified_of_mem_chunks hp).backslash hmem
  exact absurd (hplain p hp hdouble _ hmem) (by decide)

theorem unescaped_of_one_quote {word : String} (hbackslash : '\\' ∉ word.toList)
    (hquotes : ¬('\x27' ∈ word.toList ∧ '"' ∈ word.toList)) : Unescaped word := by
  have hword : ∀ {chunk c}, (Style.double, chunk) ∈ chunks word → c ∈ chunk.toList →
      c ∈ word.toList :=
    fun hchunk hc ↦ mem_toList_iff_mem_chunks.mpr ⟨_, hchunk, hc⟩
  refine unescaped_iff.mpr fun chunk hchunk ↦ ⟨fun hmark ↦ ?_, fun h ↦ hbackslash (hword hchunk h)⟩
  -- Something has ruled out single quotes, and it can only be an apostrophe.
  obtain ⟨c, hc, hsingle⟩ := (justified_of_mem_chunks hchunk).single rfl
  rcases eq_mark_of_single hsingle with rfl | rfl | rfl
  · exact hquotes ⟨hword hchunk hc, hword hchunk hmark⟩
  · exact hbackslash (hword hchunk hc)
  · have hdouble := (justified_of_mem_chunks hchunk).double rfl _ hc
    exact absurd hdouble (by decide)

end PosixWords

namespace Command

theorem joinWords_eq_join {words : List String} (h : 2 ≤ words.length) :
    joinWords words = PosixWords.join words := by
  match words with
  | [] => rfl
  | [word] => exact absurd h (by simp)
  | _ :: _ :: _ => rfl

open PosixWords

/-- The words of an alias come back from its text exactly if none of their chunks in double
quotes has a character that is escaped there. -/
theorem split_joinWords_eq_self_iff {words : List String} (hlen : 2 ≤ words.length)
    (hnul : ∀ w ∈ words, Text.hasNul w = false) :
    (Words.split (joinWords words) = words ↔
        ∀ w ∈ words, ∀ chunk, (Style.double, chunk) ∈ chunks w →
          '"' ∉ chunk.toList ∧ '\\' ∉ chunk.toList) ∧
      ((∀ w ∈ words, '\\' ∉ w.toList ∧ ¬('\x27' ∈ w.toList ∧ '"' ∈ w.toList)) →
        Words.split (joinWords words) = words) ∧
      ((∃ w ∈ words, '\\' ∈ w.toList) → Words.split (joinWords words) ≠ words) := by
  have hread : Words.split (joinWords words) = words ↔ ∀ w ∈ words, Unescaped w := by
    cases words with
    | nil => simp at hlen
    | cons word words =>
        rw [joinWords_eq_join hlen, split_join hnul]
        exact splitFrom_line_eq_self_iff word words
  refine ⟨?_, fun h ↦ ?_, fun h ↦ ?_⟩
  · rw [hread]
    exact forall₂_congr fun w _ ↦ unescaped_iff
  · rw [hread]
    exact fun w hw ↦ unescaped_of_one_quote (h w hw).1 (h w hw).2
  · obtain ⟨w, hw, hbackslash⟩ := h
    rw [ne_eq, hread]
    exact fun hplain ↦ not_unescaped_of_backslash hbackslash (hplain w hw)

/-- Blanks, dollar signs, carets and one kind of quotes come through, and a backslash does
not. -/
theorem split_joinWords_marks_and_backslash :
    (2 ≤ ["echo", "it's ^^ `$x`!", "", "\"|; é\""].length ∧
        (∀ w ∈ ["echo", "it's ^^ `$x`!", "", "\"|; é\""], Text.hasNul w = false) ∧
        Words.split (joinWords ["echo", "it's ^^ `$x`!", "", "\"|; é\""]) =
          ["echo", "it's ^^ `$x`!", "", "\"|; é\""]) ∧
      2 ≤ ["echo", "a\\b"].length ∧ (∀ w ∈ ["echo", "a\\b"], Text.hasNul w = false) ∧
        Words.split (joinWords ["echo", "a\\b"]) ≠ ["echo", "a\\b"] := by
  have hmarks : ∀ w ∈ ["echo", "it's ^^ `$x`!", "", "\"|; é\""], Text.hasNul w = false := by
    decide
  have hbackslash : ∀ w ∈ ["echo", "a\\b"], Text.hasNul w = false := by decide
  refine ⟨⟨by decide, hmarks, ?_⟩, by decide, hbackslash, ?_⟩
  · exact (split_joinWords_eq_self_iff (by decide) hmarks).2.1 (by decide)
  · exact (split_joinWords_eq_self_iff (by decide) hbackslash).2.2 ⟨"a\\b", by decide, by decide⟩

end Command
end LineShell
