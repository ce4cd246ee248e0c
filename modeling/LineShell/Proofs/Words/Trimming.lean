import LineShell.Proofs.Token.Break
import LineShell.Proofs.Words.Reading

/-!
# Words of a trimmed text

The plain reading of a text trims it before it looks for quotation marks.  Blanks at
the start separate nothing, and neither do blanks at the end if all quotations are
closed there.  Inside an open quotation the blanks at the end belong to the last word,
which loses them.
-/

namespace LineShell

namespace Text

/-- The blanks at the end of a text, all of them. -/
def blankEnd (s : String) : String :=
  String.ofList (s.toList.rtakeWhile isBlank)

theorem blankEnd_eq {s : String} {front tail : List Char} (hs : s.toList = front ++ tail)
    (htail : ∀ c ∈ tail, isBlank c = true) (hfront : ∀ c ∈ front.getLast?, isBlank c = false) :
    blankEnd s = String.ofList tail := by
  have hstop : front.reverse.takeWhile isBlank = [] := by
    cases hrev : front.reverse with
    | nil => rfl
    | cons c cs =>
        have hlast : front.getLast? = some c := by rw [← List.head?_reverse, hrev, List.head?_cons]
        simp [hfront c hlast]
  have hblank : ∀ c ∈ tail.reverse, isBlank c = true := by simpa using htail
  rw [blankEnd, hs, List.rtakeWhile, List.reverse_append, List.takeWhile_append_of_pos hblank,
    hstop, List.append_nil, List.reverse_reverse]

/-- A text is its trimmed text between blanks. -/
theorem exists_blanks_trim (s : String) :
    ∃ lead tail, s.toList = lead ++ ((trim s).toList ++ tail) ∧
      (∀ c ∈ lead, isBlank c = true) ∧ ∀ c ∈ tail, isBlank c = true := by
  refine ⟨s.toList.takeWhile isBlank, (s.toList.dropWhile isBlank).rtakeWhile isBlank, ?_,
    fun c hc ↦ List.mem_takeWhile_imp hc, fun c hc ↦ List.mem_rtakeWhile_imp hc⟩
  rw [toList_trim, List.rdropWhile_append_rtakeWhile, List.takeWhile_append_dropWhile]

end Text

namespace Quotation

theorem afterMark?_of_isBlank {c : Char} (h : Text.isBlank c = true) (q : Quotation) :
    q.afterMark? c = none :=
  afterMark?_of_isBreak (by simp [Text.isBreak, h]) q

theorem step_of_isBlank {c : Char} (h : Text.isBlank c = true) (q : Quotation) :
    q.step c = q :=
  step_of_isBreak (by simp [Text.isBreak, h]) q

theorem after_blanks {cs : List Char} (h : ∀ c ∈ cs, Text.isBlank c = true) (q : Quotation) :
    q.after cs = q := by
  induction cs with
  | nil => rfl
  | cons c cs ih =>
      rw [after_cons, step_of_isBlank (h c List.mem_cons_self)]
      exact ih fun d hd ↦ h d (List.mem_cons_of_mem c hd)

end Quotation

namespace Words

/-- The words that a character completes, and the word at hand after it. -/
def step (q : Quotation) (word : Option String) (c : Char) : List String × Option String :=
  match q.afterMark? c with
  | some _ => ([], some (word.getD ""))
  | none =>
      if q = .outside ∧ Text.isBlank c then (word.toList, none)
      else ([], some ((word.getD "").push c))

def run : Quotation → Option String → List Char → List String × Option String
  | _, word, [] => ([], word)
  | q, word, c :: rest =>
      let next := step q word c
      let tail := run (q.step c) next.2 rest
      (next.1 ++ tail.1, tail.2)

variable {q : Quotation} {word : Option String} {c : Char}

theorem splitFrom_cons (q : Quotation) (word : Option String) (c : Char) (rest : List Char) :
    splitFrom q word (c :: rest) =
      (step q word c).1 ++ splitFrom (q.step c) (step q word c).2 rest := by
  rw [splitFrom, step, Quotation.step]
  cases q.afterMark? c with
  | some q' => rfl
  | none =>
      simp only [Option.getD_none]
      split_ifs with hblank
      · rw [hblank.1]
      · rfl

theorem splitFrom_append (q : Quotation) (word : Option String) (cs ds : List Char) :
    splitFrom q word (cs ++ ds) =
      (run q word cs).1 ++ splitFrom (q.after cs) (run q word cs).2 ds := by
  induction cs generalizing q word with
  | nil => rfl
  | cons c cs ih => simp [splitFrom_cons, run, ih]

theorem splitFrom_eq_run (q : Quotation) (word : Option String) (cs : List Char) :
    splitFrom q word cs = (run q word cs).1 ++ (run q word cs).2.toList := by
  have happend := splitFrom_append q word cs []
  rwa [List.append_nil] at happend

theorem step_of_isBlank (hc : Text.isBlank c = true) :
    step .outside word c = (word.toList, none) := by
  simp [step, Quotation.afterMark?_of_isBlank hc, hc]

theorem step_of_open (hq : q ≠ .outside) (hc : q.afterMark? c = none) :
    step q word c = ([], some ((word.getD "").push c)) := by
  simp [step, hc, hq]

/-- Inside a quotation there is a word at hand: the mark that opened it has begun one. -/
theorem isSome_step (hopen : q.step c ≠ .outside) : (step q word c).2.isSome := by
  unfold step
  cases hmark : q.afterMark? c with
  | some q' => rfl
  | none =>
      have hq : q ≠ .outside := by simpa [Quotation.step, hmark] using hopen
      simp [hq]

theorem isSome_run (hword : q ≠ .outside → word.isSome) {cs : List Char}
    (hopen : q.after cs ≠ .outside) : (run q word cs).2.isSome := by
  induction cs generalizing q word with
  | nil => exact hword hopen
  | cons c cs ih => exact ih isSome_step hopen

theorem splitFrom_blanks_append {blanks : List Char} (h : ∀ c ∈ blanks, Text.isBlank c = true)
    (cs : List Char) : splitFrom .outside none (blanks ++ cs) = splitFrom .outside none cs := by
  induction blanks with
  | nil => rfl
  | cons c blanks ih =>
      have hc : Text.isBlank c = true := h c List.mem_cons_self
      rw [List.cons_append, splitFrom_cons, step_of_isBlank hc, Quotation.step_of_isBlank hc]
      exact ih fun d hd ↦ h d (List.mem_cons_of_mem c hd)

theorem splitFrom_blanks {blanks : List Char} (h : ∀ c ∈ blanks, Text.isBlank c = true)
    (word : Option String) : splitFrom .outside word blanks = word.toList := by
  cases blanks with
  | nil => rfl
  | cons c blanks =>
      have hc : Text.isBlank c = true := h c List.mem_cons_self
      have hrest : splitFrom .outside none blanks = [] := by
        have hnil := splitFrom_blanks_append (fun d hd ↦ h d (List.mem_cons_of_mem c hd)) []
        rwa [List.append_nil] at hnil
      rw [splitFrom_cons, step_of_isBlank hc, Quotation.step_of_isBlank hc, hrest,
        List.append_nil]

theorem splitFrom_blanks_of_open (hq : q ≠ .outside) {blanks : List Char}
    (h : ∀ c ∈ blanks, Text.isBlank c = true) (word : String) :
    splitFrom q (some word) blanks = [word ++ String.ofList blanks] := by
  induction blanks generalizing word with
  | nil => simp [splitFrom]
  | cons c blanks ih =>
      have hc : Text.isBlank c = true := h c List.mem_cons_self
      have hrest := ih (fun d hd ↦ h d (List.mem_cons_of_mem c hd)) (word.push c)
      rw [Text.push_append_ofList] at hrest
      rw [splitFrom_cons, step_of_open hq (Quotation.afterMark?_of_isBlank hc q),
        Quotation.step_of_isBlank hc]
      exact hrest

/-- Trimming takes nothing away that counts, except for blanks in an open quotation. -/
theorem split_eq_splitFrom (line : String) :
    (Quotation.Closes line → split line = splitFrom .outside none line.toList) ∧
      (¬Quotation.Closes line → ∃ init last, split line = init ++ [last] ∧
        splitFrom .outside none line.toList = init ++ [last ++ Text.blankEnd line]) := by
  obtain ⟨lead, tail, hline, hlead, htail⟩ := Text.exists_blanks_trim line
  let body := (Text.trim line).toList
  have hclosed : Quotation.Closes line ↔ Quotation.outside.after body = .outside := by
    rw [Quotation.Closes, hline, Quotation.after_append, Quotation.after_append,
      Quotation.after_blanks hlead, Quotation.after_blanks htail]
  have htrimmed : split line = (run .outside none body).1 ++ (run .outside none body).2.toList :=
    splitFrom_eq_run _ _ _
  have huntrimmed : splitFrom .outside none line.toList = (run .outside none body).1 ++
      splitFrom (Quotation.outside.after body) (run .outside none body).2 tail := by
    rw [hline, splitFrom_blanks_append hlead, splitFrom_append]
  refine ⟨fun h ↦ ?_, fun h ↦ ?_⟩
  · rw [htrimmed, huntrimmed, hclosed.mp h, splitFrom_blanks htail]
  · have hopen : Quotation.outside.after body ≠ .outside := mt hclosed.mpr h
    have hbegun : (run .outside none body).2.isSome := isSome_run (by simp) hopen
    obtain ⟨last, hlast⟩ := Option.isSome_iff_exists.mp hbegun
    -- The quotation was opened by a mark, so there is more than blanks in the text.
    have hbody : Text.trim line ≠ "" := by
      intro hempty
      simp [body, hempty] at hopen
    have hend : Text.blankEnd line = String.ofList tail := by
      have hsplit : line.toList = (lead ++ body) ++ tail := by rw [hline, List.append_assoc]
      refine Text.blankEnd_eq hsplit htail ?_
      rw [List.getLast?_append_of_ne_nil _ (Text.tight_trim hbody).nonempty]
      exact (Text.tight_trim hbody).last
    refine ⟨(run .outside none body).1, last, ?_, ?_⟩
    · rw [htrimmed, hlast, Option.toList_some]
    · rw [huntrimmed, hlast, splitFrom_blanks_of_open hopen htail, hend]

end Words

end LineShell
