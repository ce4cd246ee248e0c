import Mathlib
import LineShell.Proofs.Token.Scan

/-!
# Spelling tokens

Every list of tokens can be written as a text whose tokens it is.  A word is
written with each of its characters in a quotation of its own, so that no mark
in it acts and no variable is replaced, and every token is written after a
blank, so that it joins with nothing before it.
-/

namespace LineShell

namespace Token

/-- A character between marks of the kind that it is not itself. -/
def quoteChar (c : Char) : List Char :=
  if c = '\x27' then ['"', c, '"'] else ['\x27', c, '\x27']

/-- A word; the empty quotation at its head makes a word of the empty text. -/
def quoteWord (text : String) : List Char :=
  '"' :: '"' :: text.toList.flatMap quoteChar

def spell : Token → List Char
  | .word text => ' ' :: quoteWord text
  | .pipe => [' ', '|']
  | .redirect op => ' ' :: op.spelling.toList

def spellAll (ts : List Token) : List Char :=
  ts.flatMap spell

end Token

namespace Scanner

variable {lookup : Lookup}

theorem run_space {s : Scanner} (hs : s.quotation = .outside) (cs : List Char) :
    s.run lookup (' ' :: cs) =
      (s.finish lookup ++ (run lookup {} cs).1, (run lookup {} cs).2) := by
  simp only [run, step_blank hs (show Text.isBlank ' ' = true by decide)]

theorem run_quoteChar (word : String) (c : Char) :
    run lookup ⟨.outside, some word, .nothing⟩ (Token.quoteChar c) =
      ([], ⟨.outside, some (word.push c), .nothing⟩) := by
  by_cases hc : c = '\x27'
  · subst hc
    rfl
  · simp [Token.quoteChar, hc, run, step, read, Quotation.afterMark?]

theorem run_quoteChars (word : String) (cs : List Char) :
    run lookup ⟨.outside, some word, .nothing⟩ (cs.flatMap Token.quoteChar) =
      ([], ⟨.outside, some (word ++ String.ofList cs), .nothing⟩) := by
  induction cs generalizing word with
  | nil => simp
  | cons c cs ih =>
      rw [List.flatMap_cons, run_append, run_quoteChar, ih, Text.push_append_ofList]
      rfl

theorem run_quoteWord (text : String) :
    run lookup {} (Token.quoteWord text) = ([], { word := some text }) := by
  have hchars : run lookup ⟨.outside, some "", .nothing⟩ (text.toList.flatMap Token.quoteChar) =
      ([], ⟨.outside, some ("" ++ String.ofList text.toList), .nothing⟩) :=
    run_quoteChars "" text.toList
  have hmarks : run lookup {} ['"', '"'] = ([], { word := some "" }) := rfl
  have happend : Token.quoteWord text = ['"', '"'] ++ text.toList.flatMap Token.quoteChar := rfl
  rw [happend, run_append, hmarks, hchars]
  simp

/-- After a spelled token the scan stands outside quotations, and at the end of the
text it would have completed just this token more. -/
theorem run_spell {s : Scanner} (hs : s.quotation = .outside) (t : Token) :
    (s.run lookup t.spell).2.quotation = .outside ∧
      (s.run lookup t.spell).1 ++ (s.run lookup t.spell).2.finish lookup =
        s.finish lookup ++ [t] := by
  cases t with
  | word text =>
      rw [Token.spell, run_space hs, run_quoteWord]
      exact ⟨rfl, by simp [finish, settle, flush]⟩
  | pipe =>
      have hmark : run lookup {} ['|'] = ([.pipe], {}) := rfl
      rw [Token.spell, run_space hs, hmark]
      exact ⟨rfl, by simp [finish, settle, flush]⟩
  | redirect op =>
      have hmarks : (run lookup {} op.spelling.toList).2.quotation = .outside ∧
          (run lookup {} op.spelling.toList).1 ++
            (run lookup {} op.spelling.toList).2.finish lookup = [.redirect op] := by
        cases op <;> exact ⟨rfl, rfl⟩
      rw [Token.spell, run_space hs, List.append_assoc]
      exact ⟨hmarks.1, by rw [hmarks.2]⟩

theorem scan_spellAll {s : Scanner} (hs : s.quotation = .outside) (ts : List Token) :
    scan lookup s (Token.spellAll ts) = s.finish lookup ++ ts := by
  induction ts generalizing s with
  | nil => simp [Token.spellAll, scan]
  | cons t ts ih =>
      obtain ⟨hq, htokens⟩ : (s.run lookup t.spell).2.quotation = .outside ∧
          (s.run lookup t.spell).1 ++ (s.run lookup t.spell).2.finish lookup =
            s.finish lookup ++ [t] := run_spell hs t
      have hrest := ih hq
      calc
        scan lookup s (Token.spellAll (t :: ts)) =
            (s.run lookup t.spell).1 ++
              scan lookup (s.run lookup t.spell).2 (Token.spellAll ts) :=
          scan_append s t.spell (Token.spellAll ts)
        _ = (s.run lookup t.spell).1 ++ (s.run lookup t.spell).2.finish lookup ++ ts := by
          rw [hrest, List.append_assoc]
        _ = s.finish lookup ++ t :: ts := by rw [htokens]; simp

end Scanner

namespace Token

/-- The text that spells some tokens has these tokens, whatever the variables are. -/
theorem tokenize_spellAll (lookup : Lookup) (ts : List Token) :
    tokenize lookup (String.ofList (spellAll ts)) = ts := by
  rw [tokenize, String.toList_ofList, Scanner.scan_spellAll rfl]
  rfl

end Token
end LineShell
