import LineShell.Proofs.Token.Hollow
import LineShell.Proofs.Words.Trimming

/-!
# Words that are tokens

A text in which only quotation marks and blanks act has the same words in the plain
reading and in the scan for tokens, but for the trimming: the scan keeps the blanks at
the end that stand inside an open quotation.
-/

namespace LineShell

namespace Text

/-- A mark of an operator. -/
def isOperator (c : Char) : Bool :=
  c == '<' || c == '>' || c == '|'

theorem isBreak_eq_false {c : Char} (hblank : isBlank c = false) (hop : isOperator c = false) :
    isBreak c = false := by
  simp only [isOperator, Bool.or_eq_false_iff] at hop
  simp [isBreak, hblank, hop]

end Text

/-- Read from a quotation on, a text has no operator outside quotations and no variable
outside single ones. -/
def Inert : Quotation → List Char → Prop
  | _, [] => True
  | q, c :: rest =>
      (q = .outside → Text.isOperator c = false) ∧
        (q ≠ .single ∧ c = '$' → ∀ d ∈ rest.head?, Text.isNameChar d = false) ∧
          Inert (q.step c) rest

instance decidableInert : (q : Quotation) → (cs : List Char) → Decidable (Inert q cs)
  | _, [] => isTrue trivial
  | q, c :: rest =>
      have := decidableInert (q.step c) rest
      have : Decidable (∀ d ∈ rest.head?, Text.isNameChar d = false) := Option.decidableForallMem _
      inferInstanceAs (Decidable (_ ∧ _ ∧ _))

namespace Scanner

variable {lookup : Lookup} {s : Scanner}

/-- At most a dollar sign is pending. -/
def Plain (s : Scanner) : Prop :=
  s.pending = .nothing ∨ s.pending = .name ""

theorem Plain.within (h : Plain s) : Within s := by
  rcases h with h | h <;> simp [Within, h]

/-- The word at hand, with the dollar sign that may be pending. -/
def wordAtHand (lookup : Lookup) (s : Scanner) : Option String :=
  (s.settle lookup).2.word

theorem settle_eq_of_plain (h : Plain s) :
    s.settle lookup = ([], ⟨s.quotation, s.wordAtHand lookup, .nothing⟩) := by
  have hquotation : (s.settle lookup).2.quotation = s.quotation := settle_quotation s
  have hpending : (s.settle lookup).2.pending = .nothing := settle_pending s
  refine Prod.ext h.within.settle_tokens ?_
  rw [← hquotation, ← hpending]
  rfl

theorem Plain.step_eq (h : Plain s) {c : Char}
    (hc : s.pending = .name "" → Text.isNameChar c = false) :
    s.step lookup c = step lookup ⟨s.quotation, s.wordAtHand lookup, .nothing⟩ c := by
  have hread : s.step lookup c = s.settleAndRead lookup c := by
    rcases h with h | h
    · simp [step, h, settleAndRead, settle_of_nothing h]
    · simp [step, h, hc h]
  rw [hread, settleAndRead, settle_eq_of_plain h]
  rfl

/-- The scan completes the words that the plain reading completes, and has the same word at
hand afterwards. -/
structure Agrees (lookup : Lookup) (q : Quotation) (word : Option String) (c : Char)
    (next : List Token × Scanner) : Prop where
  plain : Plain next.2
  dollar : next.2.pending = .name "" → q ≠ .single ∧ c = '$'
  tokens : next.1 = (Words.step q word c).1.map Token.word
  word : next.2.wordAtHand lookup = (Words.step q word c).2

theorem agrees_step {q : Quotation} {c : Char} (hc : q = .outside → Text.isOperator c = false)
    (word : Option String) :
    Agrees lookup q word c (step lookup ⟨q, word, .nothing⟩ c) := by
  -- The cases are those of the plain reading, and a dollar sign, which the scan holds back.
  cases hmark : q.afterMark? c with
  | some q' =>
      rw [step_mark hmark]
      exact ⟨.inl rfl, by simp, by simp [Words.step, hmark], by simp [Words.step, hmark]; rfl⟩
  | none =>
      by_cases hblank : q = .outside ∧ Text.isBlank c = true
      · obtain ⟨rfl, hblank⟩ := hblank
        rw [step_blank rfl hblank]
        exact ⟨.inl rfl, by simp, by rw [Words.step_of_isBlank hblank]; rfl,
          by rw [Words.step_of_isBlank hblank]; rfl⟩
      · have hletter : Words.step q word c = ([], some ((word.getD "").push c)) := by
          simp only [Words.step, hmark, if_neg hblank]
        by_cases hdollar : q ≠ .single ∧ c = '$'
        · obtain ⟨hq, rfl⟩ := hdollar
          have hpush : (word.getD "").push '$' = word.getD "" ++ "$" := by
            apply String.toList_injective
            simp
          rw [step_dollar hq]
          refine ⟨.inr rfl, fun _ ↦ ⟨hq, rfl⟩, by rw [hletter]; rfl, ?_⟩
          rw [hletter, hpush]
          rfl
        · have hbreak : q = .outside → Text.isBreak c = false := by
            intro hq
            refine Text.isBreak_eq_false ?_ (hc hq)
            simpa [hq] using hblank
          rw [step_letter hmark hbreak hdollar]
          exact ⟨.inl rfl, by simp, by rw [hletter]; rfl, by rw [hletter]; rfl⟩

theorem scan_eq_words (h : Plain s) {cs : List Char} (hcs : Inert s.quotation cs)
    (hhead : s.pending = .name "" → ∀ c ∈ cs.head?, Text.isNameChar c = false) :
    scan lookup s cs =
      (Words.splitFrom s.quotation (s.wordAtHand lookup) cs).map Token.word := by
  -- The induction needs one character of foresight: a dollar sign that is pending stays one.
  induction cs generalizing s with
  | nil =>
      rw [scan, h.within.finish_eq_flush]
      rfl
  | cons c cs ih =>
      obtain ⟨hop, hdollar, hrest⟩ := hcs
      let next := step lookup ⟨s.quotation, s.wordAtHand lookup, .nothing⟩ c
      have hnext : Agrees lookup s.quotation (s.wordAtHand lookup) c next := agrees_step hop _
      have hquotation : next.2.quotation = s.quotation.step c := step_quotation _ c
      have htail := ih hnext.plain (by rwa [hquotation]) fun hname ↦ hdollar (hnext.dollar hname)
      rw [scan, h.step_eq fun hname ↦ hhead hname c rfl, htail, hquotation, hnext.tokens,
        hnext.word, Words.splitFrom_cons, List.map_append]

end Scanner

/-- Where nothing else acts, the tokens are the words of the untrimmed text. -/
theorem Token.tokenize_eq_words {line : String} (h : Inert .outside line.toList)
    (lookup : Lookup) :
    Token.tokenize lookup line = (Words.splitFrom .outside none line.toList).map Token.word :=
  Scanner.scan_eq_words (.inl rfl) h (by simp)

namespace Words

/-- The plain reading and the scan for tokens have the same rules for quotations: where nothing
else acts, they differ only in the blanks at the end of a text that leaves a quotation open. -/
theorem split_eq_texts_iff {line : String} (h : Inert .outside line.toList) (lookup : Lookup) :
    ∃ texts : List String, Token.tokenize lookup line = texts.map Token.word ∧
      (split line = texts ↔ ¬(Text.blankEnd line ≠ "" ∧ ¬Quotation.Closes line)) ∧
      (Text.blankEnd line ≠ "" ∧ ¬Quotation.Closes line →
        ∃ init last, split line = init ++ [last] ∧ texts = init ++ [last ++ Text.blankEnd line]) := by
  refine ⟨splitFrom .outside none line.toList, Token.tokenize_eq_words h lookup, ?_, fun hopen ↦
    (split_eq_splitFrom line).2 hopen.2⟩
  by_cases hclosed : Quotation.Closes line
  · have heq := (split_eq_splitFrom line).1 hclosed
    simp [heq, hclosed]
  · obtain ⟨init, last, htrimmed, huntrimmed⟩ := (split_eq_splitFrom line).2 hclosed
    have hend : last = last ++ Text.blankEnd line ↔ Text.blankEnd line = "" := by
      rw [← String.toList_inj, String.toList_append, List.self_eq_append_right,
        String.toList_eq_nil_iff]
    rw [htrimmed, huntrimmed]
    simpa [hclosed] using hend

/-- Blanks behind a closed quotation make no difference, and those in an open one do. -/
theorem split_eq_texts_iff_blanks_behind_mark :
    let values : Lookup := fun _ ↦ some "v"
    Inert .outside "cp '$x|' 5$  ".toList ∧ Inert .outside "cp '$x|' \"5$ \t".toList ∧
      Token.tokenize values "cp '$x|' 5$  " =
        (split "cp '$x|' 5$  ").map Token.word ∧
      ∃ init last, split "cp '$x|' \"5$ \t" = init ++ [last] ∧
        Token.tokenize values "cp '$x|' \"5$ \t" = (init ++ [last ++ " \t"]).map Token.word := by
  intro values
  have hclosed : Inert .outside "cp '$x|' 5$  ".toList := by decide
  have hopen : Inert .outside "cp '$x|' \"5$ \t".toList := by decide
  have hend : Text.blankEnd "cp '$x|' \"5$ \t" = " \t" := by decide
  refine ⟨hclosed, hopen, ?_, ?_⟩
  · obtain ⟨texts, htokens, hiff, -⟩ := split_eq_texts_iff hclosed values
    rw [htokens, hiff.mpr (by decide)]
  · obtain ⟨texts, htokens, -, hlost⟩ := split_eq_texts_iff hopen values
    obtain ⟨init, last, hsplit, htexts⟩ := hlost (by decide)
    exact ⟨init, last, hsplit, by rw [htokens, htexts, hend]⟩

end Words
end LineShell
