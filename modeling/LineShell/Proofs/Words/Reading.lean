import Mathlib
import LineShell.Words
import LineShell.Proofs.Token.Scan

/-!
# Reading words back

What the plain reading makes of plain characters and of quotations, wherever they
stand in a word.  Besides, it drops nothing but marks and blanks, so that every
other character is found in the words as often as in the text.
-/

namespace LineShell

namespace Text

/-- A text that neither begins nor ends with a blank. -/
structure Tight (cs : List Char) : Prop where
  nonempty : cs ≠ []
  head : ∀ c ∈ cs.head?, isBlank c = false
  last : ∀ c ∈ cs.getLast?, isBlank c = false

theorem Tight.append {cs ds : List Char} (hcs : Tight cs) (mid : List Char) (hds : Tight ds) :
    Tight (cs ++ (mid ++ ds)) := by
  refine ⟨by simp [hcs.nonempty], ?_, ?_⟩
  · rw [List.head?_append_of_ne_nil _ hcs.nonempty]
    exact hcs.head
  · rw [← List.append_assoc, List.getLast?_append_of_ne_nil _ hds.nonempty]
    exact hds.last

theorem tight_between {mark : Char} (h : isBlank mark = false) (cs : List Char) :
    Tight (mark :: cs ++ [mark]) := by
  refine ⟨by simp, by simpa using h, ?_⟩
  rw [List.getLast?_append_of_ne_nil _ (by simp)]
  simpa using h

theorem dropWhile_eq_self {p : Char → Bool} {cs : List Char} (h : ∀ c ∈ cs.head?, p c = false) :
    cs.dropWhile p = cs := by
  cases cs with
  | nil => rfl
  | cons c cs => simp [h c rfl]

/-- A tight text is trimmed already. -/
theorem trim_of_tight {s : String} (h : Tight s.toList) : trim s = s := by
  have hlast : ∀ c ∈ s.toList.reverse.head?, isBlank c = false := by
    simpa [List.head?_reverse] using h.last
  simp [trim, trimEnd, dropEnd, dropWhile_eq_self h.head, dropWhile_eq_self hlast]

theorem toList_trim (s : String) :
    (trim s).toList = (s.toList.dropWhile isBlank).rdropWhile isBlank := by
  simp [trim, trimEnd, dropEnd, List.rdropWhile]

theorem head?_dropWhile_isBlank (cs : List Char) :
    ∀ c ∈ (cs.dropWhile isBlank).head?, isBlank c = false := by
  intro c hc
  have hhead := List.head?_dropWhile_not isBlank cs
  rw [Option.mem_def.mp hc] at hhead
  simpa using hhead

theorem trim_eq_empty_iff (s : String) : trim s = "" ↔ allBlank s = true := by
  rw [← String.toList_eq_nil_iff, toList_trim, List.rdropWhile_eq_nil_iff]
  constructor
  · intro hblank
    -- A character that is left behind the leading blanks would be no blank.
    have hfront : s.toList.dropWhile isBlank = [] := by
      cases hrest : s.toList.dropWhile isBlank with
      | nil => rfl
      | cons c cs =>
          have hc : isBlank c = false := head?_dropWhile_isBlank s.toList c (by simp [hrest])
          simp [hblank c (by simp [hrest])] at hc
    simpa [allBlank] using hfront
  · intro h
    have hfront : s.toList.dropWhile isBlank = [] := by simpa [allBlank] using h
    simp [hfront]

theorem tight_trim {s : String} (h : trim s ≠ "") : Tight (trim s).toList := by
  have hne : (trim s).toList ≠ [] := by simpa using h
  refine ⟨hne, ?_, ?_⟩
  · have hprefix : (trim s).toList <+: s.toList.dropWhile isBlank := by
      rw [toList_trim]
      exact List.rdropWhile_prefix isBlank _
    obtain ⟨cs, hcs⟩ := hprefix
    have hhead := head?_dropWhile_isBlank s.toList
    rwa [← hcs, List.head?_append_of_ne_nil _ hne] at hhead
  · intro c hc
    rw [toList_trim] at hne hc
    have hlast := List.rdropWhile_last_not isBlank _ hne
    rw [List.getLast?_eq_some_getLast hne, Option.mem_some_iff] at hc
    rw [← hc]
    simpa using hlast

theorem toList_joinWith_empty (ss : List String) :
    (joinWith "" ss).toList = ss.flatMap String.toList := by
  induction ss with
  | nil => rfl
  | cons s ss ih =>
      cases ss with
      | nil => simp [joinWith]
      | cons t ss => simpa [joinWith] using ih

end Text

namespace Quotation

/-- Inside a quotation, only the mark that opened it closes it. -/
theorem afterMark?_of_open {q : Quotation} {mark : Char}
    (h : Quotation.outside.afterMark? mark = some q) (c : Char) :
    q ≠ .outside ∧ q.afterMark? c = if c = mark then some .outside else none := by
  by_cases hdouble : mark = '"'
  · subst hdouble
    obtain rfl : Quotation.double = q := by simpa [afterMark?] using h
    by_cases hc : c = '"' <;> simp [afterMark?, hc]
  · by_cases hsingle : mark = '\x27'
    · subst hsingle
      obtain rfl : Quotation.single = q := by simpa [afterMark?] using h
      by_cases hc : c = '\x27' <;> simp [afterMark?, hc]
    · simp [afterMark?_eq_none hdouble hsingle] at h

end Quotation

namespace Words

/-- Between quotations, the characters `cs` add a text to the word at hand. -/
def Spells (cs : List Char) (text : String) : Prop :=
  ∀ word rest, splitFrom .outside word (cs ++ rest) =
    splitFrom .outside (some (word.getD "" ++ text)) rest

theorem Spells.append {cs ds : List Char} {u v : String} (hu : Spells cs u) (hv : Spells ds v) :
    Spells (cs ++ ds) (u ++ v) := by
  intro word rest
  rw [List.append_assoc, hu, hv]
  simp [String.append_assoc]

theorem spells_char {c : Char} (hdouble : c ≠ '"') (hsingle : c ≠ '\x27')
    (hblank : Text.isBlank c = false) : Spells [c] (String.ofList [c]) := by
  intro word rest
  have hpush : (word.getD "").push c = word.getD "" ++ String.ofList [c] := by
    apply String.toList_injective
    simp
  simp only [List.singleton_append, splitFrom, Quotation.afterMark?_eq_none hdouble hsingle,
    hblank, Bool.false_eq_true, and_false, if_false]
  rw [hpush]

theorem spells_plain {cs : List Char} (hne : cs ≠ [])
    (h : ∀ c ∈ cs, c ≠ '"' ∧ c ≠ '\x27' ∧ Text.isBlank c = false) :
    Spells cs (String.ofList cs) := by
  induction cs with
  | nil => exact absurd rfl hne
  | cons c cs ih =>
      obtain ⟨hdouble, hsingle, hblank⟩ := h c List.mem_cons_self
      have hc := spells_char hdouble hsingle hblank
      cases cs with
      | nil => exact hc
      | cons d cs =>
          have hrest := ih (by simp) fun e he ↦ h e (List.mem_cons_of_mem c he)
          have happend := hc.append hrest
          rwa [← String.ofList_append, List.singleton_append] at happend

/-- What stands between the marks of a quotation is taken as it is. -/
theorem splitFrom_quotation {q : Quotation} {mark : Char}
    (hopen : Quotation.outside.afterMark? mark = some q) {cs : List Char} (h : mark ∉ cs)
    (word : String) (rest : List Char) :
    splitFrom q (some word) (cs ++ mark :: rest) =
      splitFrom .outside (some (word ++ String.ofList cs)) rest := by
  induction cs generalizing word with
  | nil =>
      have hclose := (Quotation.afterMark?_of_open hopen mark).2
      simp [splitFrom, hclose]
  | cons c cs ih =>
      obtain ⟨hne, hmark⟩ := Quotation.afterMark?_of_open hopen c
      obtain ⟨hc, hcs⟩ : mark ≠ c ∧ mark ∉ cs := by simpa using h
      have hrest := ih hcs (word.push c)
      rw [Text.push_append_ofList] at hrest
      simpa [splitFrom, hmark, Ne.symm hc, hne] using hrest

theorem spells_quotation {q : Quotation} {mark : Char}
    (hopen : Quotation.outside.afterMark? mark = some q) {cs : List Char} (h : mark ∉ cs) :
    Spells (mark :: cs ++ [mark]) (String.ofList cs) := by
  intro word rest
  have hinside := splitFrom_quotation hopen h (word.getD "") rest
  simpa [splitFrom, hopen] using hinside

/-- A character that is neither a mark nor a blank is never lost. -/
theorem sum_count_splitFrom {a : Char} (hdouble : a ≠ '"') (hsingle : a ≠ '\x27')
    (hblank : Text.isBlank a = false) (q : Quotation) (word : Option String) (cs : List Char) :
    ((splitFrom q word cs).map fun w ↦ w.toList.count a).sum =
      (word.getD "").toList.count a + cs.count a := by
  induction cs generalizing q word with
  | nil => cases word <;> simp [splitFrom]
  | cons c cs ih =>
      have hmark : ∀ q', q.afterMark? c = some q' → c ≠ a := by
        rintro q' h rfl
        simp [Quotation.afterMark?_eq_none hdouble hsingle] at h
      cases hq : q.afterMark? c with
      | some q' =>
          have hne := hmark q' hq
          simp [splitFrom, hq, ih, hne]
      | none =>
          by_cases hsep : q = .outside ∧ Text.isBlank c = true
          · obtain ⟨rfl, hc⟩ := hsep
            have hne : c ≠ a := by
              rintro rfl
              simp [hc] at hblank
            cases word <;> simp [splitFrom, hq, hc, ih, hne]
          · simp [splitFrom, hq, hsep, ih, List.count_cons, Nat.add_assoc, Nat.add_comm]

end Words
end LineShell
