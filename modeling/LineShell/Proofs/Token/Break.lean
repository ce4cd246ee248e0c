import Mathlib
import LineShell.Proofs.Token.Scan

/-!
# Breaks between words

Outside quotations a word ends at a blank and at the marks of the operators.
Such a break completes all that stands before it, so that the rest of the text
is scanned from there as if it were a text of its own; and after a break the
scan stands between two words.
-/

namespace LineShell

namespace Text

/-- A character that ends a word outside quotations. -/
def isBreak (c : Char) : Bool :=
  isBlank c || c == '<' || c == '>' || c == '|'

theorem isNameChar_of_isBreak {c : Char} (h : isBreak c = true) : isNameChar c = false := by
  simp only [isBreak, Bool.or_eq_true, beq_iff_eq] at h
  rcases h with ((h | rfl) | rfl) | rfl
  · exact isNameChar_of_isBlank h
  all_goals decide

end Text

namespace Quotation

theorem afterMark?_of_isBreak {c : Char} (h : Text.isBreak c = true) (q : Quotation) :
    q.afterMark? c = none :=
  afterMark?_eq_none (Text.ne_of_class h (by decide)) (Text.ne_of_class h (by decide)) q

theorem step_of_isBreak {c : Char} (h : Text.isBreak c = true) (q : Quotation) : q.step c = q := by
  simp [step, afterMark?_of_isBreak h]

end Quotation

namespace Scanner

variable {lookup : Lookup} {s : Scanner} {c : Char}

/-- What becomes of a character: it goes on with a name, it is the second half of an
operator, or it completes what is pending and is read itself. -/
inductive Stepped (lookup : Lookup) (s : Scanner) (c : Char) : List Token × Scanner → Prop
  | name {letters : String} (h : s.pending = .name letters) (hc : Text.isNameChar c = true) :
      Stepped lookup s c ([], { s with pending := .name (letters.push c) })
  | double {op : RedirectOp} (h : s.pending = .out ∧ c = '>' ∨ s.pending = .input ∧ c = '<') :
      Stepped lookup s c ([.redirect op], { s with pending := .nothing })
  | read : Stepped lookup s c (s.settleAndRead lookup c)

theorem stepped_step (lookup : Lookup) (s : Scanner) (c : Char) :
    Stepped lookup s c (s.step lookup c) := by
  unfold step
  split
  · rename_i h
    have hread : s.read c = s.settleAndRead lookup c := by
      simp [settleAndRead, settle_of_nothing h]
    exact hread ▸ .read
  · rename_i letters h
    split_ifs with hc
    · exact .name h hc
    · exact .read
  · rename_i h
    split_ifs with hc
    · exact .double (.inl ⟨h, hc⟩)
    · exact .read
  · rename_i h
    split_ifs with hc
    · exact .double (.inr ⟨h, hc⟩)
    · exact .read

theorem read_break (hs : s.quotation = .outside) (hc : Text.isBreak c = true) :
    s.read c = (s.flush ++ (read {} c).1, (read {} c).2) := by
  have hmark : Quotation.outside.afterMark? c = none := Quotation.afterMark?_of_isBreak hc _
  simp only [Text.isBreak, Bool.or_eq_true, beq_iff_eq] at hc
  simp only [read, hs, hmark, true_and]
  split_ifs <;> simp_all [flush]

/-- A break that is not the second half of an operator completes what is at hand. -/
theorem step_break (hs : s.quotation = .outside) (hc : Text.isBreak c = true)
    (hout : s.pending = .out → c ≠ '>') (hin : s.pending = .input → c ≠ '<') :
    s.step lookup c = (s.finish lookup ++ (step lookup {} c).1, (step lookup {} c).2) := by
  have hread : s.settleAndRead lookup c =
      (s.finish lookup ++ (step lookup {} c).1, (step lookup {} c).2) := by
    have hsettled := read_break (s := (s.settle lookup).2) (by simpa using hs) hc
    rw [settleAndRead, hsettled, finish, List.append_assoc]
    rfl
  have hstepped := stepped_step lookup s c
  generalize s.step lookup c = next at hstepped ⊢
  cases hstepped with
  | name _ hname => simp [Text.isNameChar_of_isBreak hc] at hname
  | double h => exact (h.elim (fun h ↦ hout h.1 h.2) fun h ↦ hin h.1 h.2).elim
  | read => exact hread

theorem scan_break (hs : s.quotation = .outside) (hc : Text.isBreak c = true)
    (hout : s.pending = .out → c ≠ '>') (hin : s.pending = .input → c ≠ '<') (cs : List Char) :
    scan lookup s (c :: cs) = s.finish lookup ++ scan lookup {} (c :: cs) := by
  rw [scan, step_break hs hc hout hin, scan, List.append_assoc]

/-- The scanner stands between two words. -/
structure Fresh (s : Scanner) : Prop where
  quotation : s.quotation = .outside
  word : s.word = none
  pending : ∀ letters, s.pending ≠ .name letters

/-- Between two words a text begins anew, unless its first character is the second half of
an operator. -/
theorem Fresh.scan_eq (h : Fresh s) {cs : List Char}
    (hcs : ∀ c ∈ cs.head?, (s.pending = .out → c ≠ '>') ∧ (s.pending = .input → c ≠ '<')) :
    s.scan lookup cs = s.finish lookup ++ Scanner.scan lookup {} cs := by
  obtain ⟨q, word, pending⟩ := s
  obtain ⟨rfl, rfl, hname⟩ := h
  cases cs with
  | nil => simp [Scanner.scan, finish, settle, flush]
  | cons c cs =>
      obtain ⟨hout, hin⟩ := hcs c rfl
      cases pending with
      | nothing => rfl
      | name letters => exact absurd rfl (hname letters)
      | out => simp [Scanner.scan, step, hout rfl, settleAndRead, settle, finish, flush]
      | input => simp [Scanner.scan, step, hin rfl, settleAndRead, settle, finish, flush]

/-- No word is at hand while an operator is begun. -/
def Tidy (s : Scanner) : Prop :=
  s.pending = .out ∨ s.pending = .input → s.word = none

theorem tidy_read (hs : s.pending = .nothing) (c : Char) : Tidy (s.read c).2 := by
  unfold read Tidy
  split
  · simp [hs]
  · split_ifs <;> simp [hs]

theorem tidy_step (s : Scanner) (c : Char) : Tidy (s.step lookup c).2 := by
  have hstepped := stepped_step lookup s c
  generalize s.step lookup c = next at hstepped ⊢
  cases hstepped with
  | name => simp [Tidy]
  | double => simp [Tidy]
  | read => exact tidy_read (settle_pending s) c

theorem tidy_run (hs : Tidy s) (cs : List Char) : Tidy (s.run lookup cs).2 := by
  induction cs generalizing s with
  | nil => exact hs
  | cons c cs ih => exact ih (tidy_step s c)

theorem fresh_read_break (hc : Text.isBreak c = true) : Fresh (read {} c).2 := by
  have hmark : Quotation.outside.afterMark? c = none := Quotation.afterMark?_of_isBreak hc _
  simp only [Text.isBreak, Bool.or_eq_true, beq_iff_eq] at hc
  have hnext : (read {} c).2 ∈ [{}, { pending := .out }, { pending := .input }] := by
    simp only [read, hmark, true_and]
    split_ifs <;> simp_all
  simp only [List.mem_cons, List.not_mem_nil, or_false] at hnext
  rcases hnext with h | h | h <;> rw [h] <;> exact ⟨rfl, rfl, by simp⟩

theorem fresh_step_break (hs : s.quotation = .outside) (htidy : Tidy s)
    (hc : Text.isBreak c = true) : Fresh (s.step lookup c).2 := by
  by_cases hout : s.pending = .out ∧ c = '>'
  · exact ⟨by simp [step, hout, hs], by simp [step, hout, htidy (.inl hout.1)],
      by simp [step, hout]⟩
  · by_cases hin : s.pending = .input ∧ c = '<'
    · exact ⟨by simp [step, hin, hs], by simp [step, hin, htidy (.inr hin.1)],
        by simp [step, hin]⟩
    · rw [step_break hs hc (fun h heq ↦ hout ⟨h, heq⟩) fun h heq ↦ hin ⟨h, heq⟩]
      exact fresh_read_break hc

end Scanner

/-- The text before a word: it closes its quotations, and it is empty or ends in a break. -/
structure Boundary (before : List Char) : Prop where
  closed : Quotation.outside.after before = .outside
  ends : ∀ c ∈ before.getLast?, Text.isBreak c = true

namespace Scanner

variable {lookup : Lookup}

theorem fresh_run {before : List Char} (h : Boundary before) :
    Fresh (run lookup {} before).2 := by
  rcases List.eq_nil_or_concat' before with rfl | ⟨init, c, rfl⟩
  · exact ⟨rfl, rfl, by simp⟩
  · have hc : Text.isBreak c = true := h.ends c (by simp)
    have hclosed : Quotation.outside.after init = .outside := by
      simpa [Quotation.step_of_isBreak hc] using h.closed
    have hquotation : (run lookup {} init).2.quotation = .outside := by
      rw [run_quotation, hclosed]
    have hfresh : Fresh (((run lookup {} init).2).step lookup c).2 :=
      fresh_step_break hquotation (tidy_run (by simp [Tidy]) init) hc
    rw [run_append]
    exact hfresh

/-- The tokens of a text and of what follows it after a boundary are the tokens of both. -/
theorem scan_append_of_boundary {before : List Char} (h : Boundary before) {next : List Char}
    (hnext : ∀ c ∈ next.head?, c ≠ '>' ∧ c ≠ '<') :
    scan lookup {} (before ++ next) = scan lookup {} before ++ scan lookup {} next := by
  have hrest : scan lookup (run lookup {} before).2 next =
      (run lookup {} before).2.finish lookup ++ scan lookup {} next :=
    (fresh_run h).scan_eq fun c hc ↦ ⟨fun _ ↦ (hnext c hc).1, fun _ ↦ (hnext c hc).2⟩
  rw [scan_append, hrest, scan_eq_run _ before, List.append_assoc]

end Scanner

/-- Read from a quotation on, a text has no break outside quotations. -/
def Unbroken : Quotation → List Char → Prop
  | _, [] => True
  | q, c :: rest => (q = .outside → Text.isBreak c = false) ∧ Unbroken (q.step c) rest

/-- Every text begins with an unbroken part that ends at a break or with the text. -/
theorem exists_unbroken (q : Quotation) (cs : List Char) :
    ∃ word after, cs = word ++ after ∧ Unbroken q word ∧
      ∀ c ∈ after.head?, Text.isBreak c = true ∧ q.after word = .outside := by
  induction cs generalizing q with
  | nil => exact ⟨[], [], rfl, trivial, by simp⟩
  | cons c cs ih =>
      by_cases hc : q = .outside ∧ Text.isBreak c = true
      · exact ⟨[], c :: cs, rfl, trivial, by simp [hc]⟩
      · obtain ⟨word, after, hcs, hword, hafter⟩ := ih (q.step c)
        refine ⟨c :: word, after, by rw [hcs]; rfl, ⟨fun hq ↦ ?_, hword⟩, hafter⟩
        exact Bool.eq_false_iff.mpr fun hbreak ↦ hc ⟨hq, hbreak⟩

namespace Scanner

variable {lookup : Lookup} {s : Scanner}

/-- No operator is begun. -/
def Within (s : Scanner) : Prop :=
  s.pending ≠ .out ∧ s.pending ≠ .input

theorem Within.settle_tokens (h : Within s) : (s.settle lookup).1 = [] := by
  unfold settle
  split <;> simp_all [Within]

theorem Within.finish_eq_flush (h : Within s) : s.finish lookup = (s.settle lookup).2.flush := by
  rw [finish, h.settle_tokens, List.nil_append]

theorem read_of_not_break (hs : s.pending = .nothing) {c : Char}
    (hc : s.quotation = .outside → Text.isBreak c = false) :
    (s.read c).1 = [] ∧ Within (s.read c).2 := by
  simp only [Text.isBreak, Bool.or_eq_false_iff, beq_eq_false_iff_ne] at hc
  unfold read Within
  split
  · simp [hs]
  · split_ifs <;> simp_all

theorem step_of_not_break (h : Within s) {c : Char}
    (hc : s.quotation = .outside → Text.isBreak c = false) :
    (s.step lookup c).1 = [] ∧ Within (s.step lookup c).2 := by
  have hstepped := stepped_step lookup s c
  generalize s.step lookup c = next at hstepped ⊢
  cases hstepped with
  | name => exact ⟨rfl, by simp [Within]⟩
  | double hop => exact (hop.elim (fun hop ↦ h.1 hop.1) fun hop ↦ h.2 hop.1).elim
  | read =>
      obtain ⟨htokens, hwithin⟩ :
          ((s.settle lookup).2.read c).1 = [] ∧ Within ((s.settle lookup).2.read c).2 :=
        read_of_not_break (settle_pending s) (by simpa using hc)
      exact ⟨by simp [settleAndRead, h.settle_tokens, htokens], hwithin⟩

/-- Without a break no token is completed. -/
theorem run_unbroken (h : Within s) {word : List Char} (hword : Unbroken s.quotation word) :
    (s.run lookup word).1 = [] ∧ Within (s.run lookup word).2 := by
  induction word generalizing s with
  | nil => exact ⟨rfl, h⟩
  | cons c word ih =>
      obtain ⟨htokens, hwithin⟩ : (s.step lookup c).1 = [] ∧ Within (s.step lookup c).2 :=
        step_of_not_break h hword.1
      have hrest := ih hwithin (by rw [step_quotation]; exact hword.2)
      exact ⟨by simp [run, htokens, hrest.1], hrest.2⟩

/-- A word that ends at a break or with the text is completed there. -/
theorem scan_unbroken_append (h : Within s) {word after : List Char}
    (hword : Unbroken s.quotation word)
    (hafter : ∀ c ∈ after.head?, Text.isBreak c = true ∧ s.quotation.after word = .outside) :
    scan lookup s (word ++ after) =
      (s.run lookup word).2.finish lookup ++ scan lookup {} after := by
  obtain ⟨htokens, hout, hin⟩ : (s.run lookup word).1 = [] ∧ Within (s.run lookup word).2 :=
    run_unbroken h hword
  rw [scan_append, htokens, List.nil_append]
  cases after with
  | nil => simp [scan, finish, settle, flush]
  | cons c after =>
      obtain ⟨hc, hclosed⟩ := hafter c rfl
      refine scan_break ?_ hc (absurd · hout) (absurd · hin) after
      rw [run_quotation, hclosed]

/-- A word that is completed is one token, and there may be none at hand. -/
theorem Within.finish_cases (h : Within s) (lookup : Lookup) :
    s.finish lookup = [] ∨ ∃ text, s.finish lookup = [.word text] := by
  rw [h.finish_eq_flush, flush]
  cases (s.settle lookup).2.word with
  | none => exact .inl rfl
  | some text => exact .inr ⟨text, rfl⟩

end Scanner

theorem Boundary.append {before next : List Char} (hbefore : Boundary before)
    (hnext : Boundary next) : Boundary (before ++ next) where
  closed := by rw [Quotation.after_append, hbefore.closed, hnext.closed]
  ends c hc := by
    rw [List.getLast?_append] at hc
    cases hlast : next.getLast? with
    | none => exact hbefore.ends c (by simpa [hlast] using hc)
    | some d => exact hnext.ends c (by simpa [hlast] using hc)

/-- A word may stand before the break. -/
theorem Boundary.after_word {word lead : List Char} (hlead : Boundary lead)
    (hword : Quotation.outside.after word = .outside) (hne : lead ≠ []) :
    Boundary (word ++ lead) where
  closed := by rw [Quotation.after_append, hword, hlead.closed]
  ends c hc := hlead.ends c (by rwa [List.getLast?_append_of_ne_nil _ hne] at hc)

theorem boundary_singleton {c : Char} (hc : Text.isBreak c = true) : Boundary [c] where
  closed := Quotation.step_of_isBreak hc .outside
  ends d hd := by
    obtain rfl : c = d := by simpa using hd
    exact hc

namespace Scanner

/-- A text that begins with a break begins with a blank or with a whole operator, which
gives its tokens whatever part of the text follows. -/
theorem exists_break (lookup : Lookup) {c : Char} (hc : Text.isBreak c = true)
    (cs : List Char) :
    ∃ lead rest tokens, c :: cs = lead ++ rest ∧ lead ≠ [] ∧ Boundary lead ∧
      (∀ text, Token.word text ∉ tokens) ∧
        ∀ next, next <+: rest → scan lookup {} (lead ++ next) = tokens ++ scan lookup {} next := by
  have hsingle : Boundary [c] := boundary_singleton hc
  simp only [Text.isBreak, Bool.or_eq_true, beq_iff_eq] at hc
  by_cases hop : c = '>' ∨ c = '<'
  · by_cases hhead : cs.head? = some c
    · obtain ⟨rest, rfl⟩ : ∃ rest, cs = c :: rest := ⟨cs.tail, List.eq_cons_of_mem_head? hhead⟩
      have hdouble : Boundary [c, c] := hsingle.append hsingle
      rcases hop with rfl | rfl
      · exact ⟨_, rest, [.redirect .append], rfl, by simp, hdouble, by simp, fun _ _ ↦ rfl⟩
      · exact ⟨_, rest, [.redirect .heredoc], rfl, by simp, hdouble, by simp, fun _ _ ↦ rfl⟩
    · have hnext : ∀ next, next <+: cs → ∀ d ∈ next.head?, d ≠ c := by
        rintro next ⟨tail, rfl⟩ d hd rfl
        exact hhead (by simp [List.head?_append, Option.mem_def.mp hd])
      rcases hop with rfl | rfl
      · refine ⟨_, cs, [.redirect .out], rfl, by simp, hsingle, by simp, fun next h ↦ ?_⟩
        exact Fresh.scan_eq (s := { pending := .out }) ⟨rfl, rfl, by simp⟩
          (fun d hd ↦ ⟨fun _ ↦ hnext next h d hd, by simp⟩)
      · refine ⟨_, cs, [.redirect .input], rfl, by simp, hsingle, by simp, fun next h ↦ ?_⟩
        exact Fresh.scan_eq (s := { pending := .input }) ⟨rfl, rfl, by simp⟩
          (fun d hd ↦ ⟨by simp, fun _ ↦ hnext next h d hd⟩)
  · rcases hc with ((hblank | rfl) | rfl) | rfl
    · refine ⟨_, cs, [], rfl, by simp, hsingle, by simp, fun next _ ↦ ?_⟩
      rw [List.singleton_append, scan, step_blank rfl hblank]
      rfl
    · exact absurd (.inr rfl) hop
    · exact absurd (.inl rfl) hop
    · exact ⟨_, cs, [.pipe], rfl, by simp, hsingle, by simp, fun _ _ ↦ rfl⟩

end Scanner
end LineShell
