import LineShell.Proofs.Token.Break
import LineShell.Proofs.Token.Shape

/-!
# Words without text

A word of the empty text stands where a text has a word all of whose characters
vanish: quotation marks, and names of variables without a value.  One mark is
enough to begin the word, so that it is completed; names alone begin none.
-/

namespace LineShell

namespace Text

/-- A character that may open or close a quotation. -/
def isMark (c : Char) : Bool :=
  c == '"' || c == '\x27'

theorem isBreak_of_isMark {c : Char} (h : isMark c = true) : isBreak c = false := by
  simp only [isMark, Bool.or_eq_true, beq_iff_eq] at h
  rcases h with rfl | rfl <;> decide

theorem isNameChar_of_isMark {c : Char} (h : isMark c = true) : isNameChar c = false := by
  simp only [isMark, Bool.or_eq_true, beq_iff_eq] at h
  rcases h with rfl | rfl <;> decide

/-- Every text begins with a name, perhaps an empty one, that ends before another character. -/
theorem exists_name (cs : List Char) :
    ∃ name after, cs = name ++ after ∧ (∀ c ∈ name, isNameChar c = true) ∧
      ∀ c ∈ after.head?, isNameChar c = false := by
  refine ⟨cs.takeWhile isNameChar, cs.dropWhile isNameChar,
    List.takeWhile_append_dropWhile.symm, fun c hc ↦ List.mem_takeWhile_imp hc, fun c hc ↦ ?_⟩
  have hhead := List.head?_dropWhile_not isNameChar cs
  rwa [Option.mem_def.mp hc] at hhead

end Text

theorem Quotation.isMark_of_afterMark? {q : Quotation} {c : Char}
    (h : (q.afterMark? c).isSome) : Text.isMark c = true := by
  by_contra hmark
  simp only [Text.isMark, Bool.or_eq_true, beq_iff_eq, not_or] at hmark
  simp [Quotation.afterMark?_eq_none hmark.1 hmark.2] at h

/-- Read from a quotation on, a text of marks that open or close a quotation and of names of
variables without a value. -/
inductive Hollow (lookup : Lookup) : Quotation → List Char → Prop
  | nil (q : Quotation) : Hollow lookup q []
  | mark {q : Quotation} {c : Char} {rest : List Char} (hc : (q.afterMark? c).isSome)
      (hrest : Hollow lookup (q.step c) rest) : Hollow lookup q (c :: rest)
  | unset {q : Quotation} {name rest : List Char} (hq : q ≠ .single) (hne : name ≠ [])
      (hname : ∀ c ∈ name, Text.isNameChar c = true)
      (hvalue : lookup.value (String.ofList name) = "") (hrest : Hollow lookup q rest) :
      Hollow lookup q ('$' :: name ++ rest)

/-- A hollow word of a text, with what stands before and after it. -/
structure HollowWord (lookup : Lookup) (before word after : List Char) : Prop where
  boundary : Boundary before
  hollow : Hollow lookup .outside word
  marked : ∃ c ∈ word, Text.isMark c = true
  ends : ∀ c ∈ after.head?, Text.isBreak c = true ∧ Quotation.outside.after word = .outside

/-- A hollow text goes on with a mark or a dollar sign. -/
theorem Hollow.head_cases {lookup : Lookup} {q : Quotation} {word : List Char}
    (h : Hollow lookup q word) : ∀ c ∈ word.head?, Text.isMark c = true ∨ c = '$' := by
  cases h with
  | nil => simp
  | mark hc _ => simpa using .inl (Quotation.isMark_of_afterMark? hc)
  | unset => simp

theorem Hollow.isNameChar_head {lookup : Lookup} {q : Quotation} {word : List Char}
    (h : Hollow lookup q word) : ∀ c ∈ word.head?, Text.isNameChar c = false := by
  intro c hc
  rcases h.head_cases c hc with hmark | rfl
  · exact Text.isNameChar_of_isMark hmark
  · decide

theorem Unbroken.of_name_append {q : Quotation} {name rest : List Char}
    (hname : ∀ c ∈ name, Text.isNameChar c = true) :
    Unbroken q (name ++ rest) ↔ Unbroken q rest := by
  induction name with
  | nil => rfl
  | cons c name ih =>
      have hc : Text.isNameChar c = true := hname c List.mem_cons_self
      have hbreak : Text.isBreak c = false := by
        by_contra hbreak
        simp [Text.isNameChar_of_isBreak (Bool.eq_true_of_not_eq_false hbreak)] at hc
      simp [Unbroken, hbreak, Quotation.step_of_isNameChar hc,
        ih fun d hd ↦ hname d (List.mem_cons_of_mem c hd)]

theorem Unbroken.of_dollar_cons {q : Quotation} {rest : List Char} :
    Unbroken q ('$' :: rest) ↔ Unbroken q rest := by
  have hbreak : Text.isBreak '$' = false := by decide
  simp [Unbroken, hbreak, Quotation.step_eq_self]

theorem Hollow.unbroken {lookup : Lookup} {q : Quotation} {word : List Char}
    (h : Hollow lookup q word) : Unbroken q word := by
  induction h with
  | nil => trivial
  | mark hc _ ih => exact ⟨fun _ ↦ Text.isBreak_of_isMark (Quotation.isMark_of_afterMark? hc), ih⟩
  | unset _ _ hname _ _ ih =>
      rw [List.cons_append, Unbroken.of_dollar_cons, Unbroken.of_name_append hname]
      exact ih

namespace Scanner

variable {lookup : Lookup} {s : Scanner}

/-- The text of the word at hand. -/
def text (s : Scanner) : List Char :=
  (s.word.getD "").toList

theorem text_prefix_settle (s : Scanner) : s.text <+: (s.settle lookup).2.text := by
  have hextend : ∀ t : String, s.text <+: ({ s with pending := .nothing }.extend t).text := by
    intro t
    unfold extend
    split
    · exact List.prefix_rfl
    · simp [text]
  unfold settle
  split
  · exact List.prefix_rfl
  · exact hextend _
  · exact hextend _
  · exact List.prefix_rfl
  · exact List.prefix_rfl

theorem text_prefix_read {c : Char} (hc : s.quotation = .outside → Text.isBreak c = false) :
    s.text <+: (s.read c).2.text := by
  simp only [Text.isBreak, Bool.or_eq_false_iff, beq_eq_false_iff_ne] at hc
  unfold read
  split
  · simp [text]
  · split_ifs <;> simp_all [text]

theorem text_prefix_step (h : Within s) {c : Char}
    (hc : s.quotation = .outside → Text.isBreak c = false) :
    s.text <+: (s.step lookup c).2.text := by
  have hstepped := stepped_step lookup s c
  generalize s.step lookup c = next at hstepped ⊢
  cases hstepped with
  | name => exact List.prefix_rfl
  | double hop => exact (hop.elim (fun hop ↦ h.1 hop.1) fun hop ↦ h.2 hop.1).elim
  | read =>
      have hread : (s.settle lookup).2.text <+: ((s.settle lookup).2.read c).2.text :=
        text_prefix_read (by simpa using hc)
      exact (text_prefix_settle s).trans hread

/-- Inside a word the text at hand only grows. -/
theorem text_prefix_run (h : Within s) {word : List Char} (hword : Unbroken s.quotation word) :
    s.text <+: (s.run lookup word).2.text := by
  induction word generalizing s with
  | nil => exact List.prefix_rfl
  | cons c word ih =>
      have hnext : Within (s.step lookup c).2 := (step_of_not_break h hword.1).2
      have hrest := ih hnext (by rw [step_quotation]; exact hword.2)
      exact (text_prefix_step h hword.1).trans hrest

/-- The text at the end of a word tells that there was none before. -/
theorem text_eq_nil_of_run (h : Within s) {word : List Char} (hword : Unbroken s.quotation word)
    (htext : ((s.run lookup word).2.settle lookup).2.text = []) : s.text = [] := by
  have hgrown : s.text <+: ((s.run lookup word).2.settle lookup).2.text :=
    (text_prefix_run h hword).trans (text_prefix_settle _)
  rwa [htext, List.prefix_nil] at hgrown

theorem step_mark {q q' : Quotation} {c : Char} (h : q.afterMark? c = some q')
    (w : Option String) :
    step lookup ⟨q, w, .nothing⟩ c = ([], ⟨q', some (w.getD ""), .nothing⟩) := by
  simp [step, read, h]

theorem step_dollar {q : Quotation} (hq : q ≠ .single) (w : Option String) :
    step lookup ⟨q, w, .nothing⟩ '$' = ([], ⟨q, w, .name ""⟩) := by
  have hmark : q.afterMark? '$' = none := Quotation.afterMark?_eq_none (by decide) (by decide) q
  have hblank : Text.isBlank '$' = false := by decide
  simp [step, read, hmark, hblank, hq]

/-- A character that is neither mark nor break nor dollar sign joins the word. -/
theorem step_letter {q : Quotation} {c : Char} (hmark : q.afterMark? c = none)
    (hbreak : q = .outside → Text.isBreak c = false) (hdollar : ¬(q ≠ .single ∧ c = '$'))
    (w : Option String) :
    step lookup ⟨q, w, .nothing⟩ c = ([], ⟨q, some ((w.getD "").push c), .nothing⟩) := by
  simp only [Text.isBreak, Bool.or_eq_false_iff, beq_eq_false_iff_ne] at hbreak
  simp only [step, read, hmark]
  split_ifs <;> simp_all

/-- The scan of a name goes on while its characters do. -/
theorem run_name (q : Quotation) (w : Option String) {name : List Char}
    (hname : ∀ c ∈ name, Text.isNameChar c = true) (letters : String) :
    run lookup ⟨q, w, .name letters⟩ name =
      ([], ⟨q, w, .name (letters ++ String.ofList name)⟩) := by
  induction name generalizing letters with
  | nil => simp
  | cons c name ih =>
      have hc : Text.isNameChar c = true := hname c List.mem_cons_self
      have hrest := ih (fun d hd ↦ hname d (List.mem_cons_of_mem c hd)) (letters.push c)
      simp [run, step, hc, hrest, Text.push_append_ofList]

/-- A name is settled by whatever follows it. -/
theorem settle_run_of_name {letters : String} (h : s.pending = .name letters) {cs : List Char}
    (hcs : ∀ c ∈ cs.head?, Text.isNameChar c = false) :
    ((s.run lookup cs).2.settle lookup).2 =
      (((s.settle lookup).2.run lookup cs).2.settle lookup).2 := by
  cases cs with
  | nil => simp [settle_of_nothing (settle_pending s)]
  | cons c cs =>
      have hc : Text.isNameChar c = false := hcs c rfl
      have hstep : (s.step lookup c).2 = ((s.settle lookup).2.step lookup c).2 := by
        simp [step, h, hc, settleAndRead]
      simp [run, hstep]

/-- The scan of a dollar sign and a name, up to what follows the name. -/
theorem settle_run_dollar {q : Quotation} (hq : q ≠ .single) (w : Option String)
    {name rest : List Char} (hname : ∀ c ∈ name, Text.isNameChar c = true)
    (hrest : ∀ c ∈ rest.head?, Text.isNameChar c = false) :
    ((run lookup ⟨q, w, .nothing⟩ ('$' :: name ++ rest)).2.settle lookup).2 =
      (((settle lookup ⟨q, w, .name (String.ofList name)⟩).2.run lookup rest).2.settle
        lookup).2 := by
  have hstate : (run lookup ⟨q, w, .nothing⟩ ('$' :: name)).2 =
      ⟨q, w, .name (String.ofList name)⟩ := by
    simp [run, step_dollar hq, run_name q w hname]
  rw [run_append, hstate]
  exact settle_run_of_name rfl hrest

/-- A variable without a value leaves the word at hand as it is. -/
theorem settle_unset {letters : String} (hne : letters ≠ "")
    (hvalue : lookup.value letters = "") (q : Quotation) (w : Option String) :
    (settle lookup ⟨q, w, .name letters⟩).2 = ⟨q, w, .nothing⟩ := by
  rw [Lookup.value] at hvalue
  simp [settle, hvalue, extend]

/-- The word of a hollow text: it has no text, and a mark begins it. -/
theorem word_run_of_hollow {q : Quotation} {w : Option String} (hw : w.getD "" = "")
    {word : List Char} (h : Hollow lookup q word) :
    ((run lookup ⟨q, w, .nothing⟩ word).2.settle lookup).2.word =
      if ∃ c ∈ word, Text.isMark c = true then some "" else w := by
  induction h generalizing w with
  | nil q => simp [settle]
  | @mark q c rest hc hrest ih =>
      obtain ⟨q', hq'⟩ := Option.isSome_iff_exists.mp hc
      have hq : q.step c = q' := by simp [Quotation.step, hq']
      have hbegun := ih (w := some "") rfl
      rw [ite_self, hq] at hbegun
      rw [if_pos ⟨c, List.mem_cons_self, Quotation.isMark_of_afterMark? hc⟩]
      simpa [run, step_mark hq', hw] using hbegun
  | @unset q name rest hq hne hname hvalue hrest ih =>
      have hmarks : (∃ c ∈ '$' :: name ++ rest, Text.isMark c = true) ↔
          ∃ c ∈ rest, Text.isMark c = true := by
        constructor
        · rintro ⟨c, hc, hmark⟩
          rcases List.mem_append.mp hc with hc | hc
          · rcases List.mem_cons.mp hc with rfl | hc
            · exact absurd hmark (by decide)
            · exact absurd (hname c hc) (by simp [Text.isNameChar_of_isMark hmark])
          · exact ⟨c, hc, hmark⟩
        · rintro ⟨c, hc, hmark⟩
          exact ⟨c, List.mem_append_right _ hc, hmark⟩
      rw [settle_run_dollar hq w hname hrest.isNameChar_head,
        settle_unset (by simpa using hne) hvalue, ih hw]
      simp only [hmarks]

/-- A name that leaves the word at hand without text is the name of a variable without a
value. -/
theorem unset_of_settle {q : Quotation} {w : Option String} {letters : String}
    (h : (settle lookup ⟨q, w, .name letters⟩).2.text = []) :
    letters ≠ "" ∧ lookup.value letters = "" := by
  have hne : letters ≠ "" := by
    rintro rfl
    simp [settle, extend, text] at h
  refine ⟨hne, ?_⟩
  by_contra hvalue
  rw [Lookup.value] at hvalue
  simp [settle, extend, hvalue, text] at h

/-- A word without text is hollow. -/
theorem hollow_of_text_eq_nil {q : Quotation} {w : Option String} {word : List Char}
    (hword : Unbroken q word)
    (htext : ((run lookup ⟨q, w, .nothing⟩ word).2.settle lookup).2.text = []) :
    Hollow lookup q word := by
  -- A name is taken at once, so that the induction is on the length of the rest.
  induction hn : word.length using Nat.strong_induction_on generalizing q w word with
  | _ n ih =>
    cases word with
    | nil => exact .nil q
    | cons c rest =>
        subst hn
        by_cases hdollar : q ≠ .single ∧ c = '$'
        · obtain ⟨hq, rfl⟩ := hdollar
          obtain ⟨name, after, rfl, hname, hafter⟩ := Text.exists_name rest
          rw [Unbroken.of_dollar_cons, Unbroken.of_name_append hname] at hword
          rw [← List.cons_append, settle_run_dollar hq w hname hafter] at htext
          obtain ⟨hne, hvalue⟩ : String.ofList name ≠ "" ∧
              lookup.value (String.ofList name) = "" :=
            unset_of_settle (text_eq_nil_of_run (by simp [Within]) (by simpa using hword) htext)
          rw [settle_unset hne hvalue] at htext
          exact .unset hq (by simpa using hne) hname hvalue (ih _ (by simp) hword htext rfl)
        · cases hmark : q.afterMark? c with
          | some q' =>
              have hq : q.step c = q' := by simp [Quotation.step, hmark]
              rw [run, step_mark hmark] at htext
              refine .mark (by simp [hmark]) (hq ▸ ?_)
              exact ih rest.length (by simp) (hq ▸ hword.2) htext rfl
          | none =>
              have hq : q.step c = q := by simp [Quotation.step, hmark]
              rw [run, step_letter hmark hword.1 hdollar] at htext
              have hpushed : text ⟨q, some ((w.getD "").push c), .nothing⟩ = [] :=
                text_eq_nil_of_run (by simp [Within]) (hq ▸ hword.2) htext
              simp [text] at hpushed

/-- A word is completed to the empty text exactly if it is hollow and has a mark. -/
theorem finish_run_eq_empty_iff {word : List Char} (hword : Unbroken .outside word) :
    (run lookup {} word).2.finish lookup = [.word ""] ↔
      Hollow lookup .outside word ∧ ∃ c ∈ word, Text.isMark c = true := by
  have hwithin : Within (run lookup {} word).2 := (run_unbroken (by simp [Within]) hword).2
  have hfinish : (run lookup {} word).2.finish lookup = [.word ""] ↔
      ((run lookup {} word).2.settle lookup).2.word = some "" := by
    rw [hwithin.finish_eq_flush, flush]
    cases ((run lookup {} word).2.settle lookup).2.word <;> simp
  rw [hfinish]
  constructor
  · intro hempty
    have hhollow : Hollow lookup .outside word := by
      refine hollow_of_text_eq_nil (w := none) hword ?_
      rw [text]
      simp [hempty]
    refine ⟨hhollow, ?_⟩
    by_contra hmark
    have hnone := word_run_of_hollow (w := none) rfl hhollow
    rw [if_neg hmark, hempty] at hnone
    exact absurd hnone (by simp)
  · rintro ⟨hhollow, hmark⟩
    have hbegun := word_run_of_hollow (w := none) rfl hhollow
    rwa [if_pos hmark] at hbegun

end Scanner

/-- Behind a part of a list that does not hold it, an element stands in the rest. -/
theorem exists_of_append_eq_append_cons {α : Type} {xs ys ts us : List α} {a : α}
    (h : xs ++ ys = ts ++ a :: us) (ha : a ∉ xs) :
    ∃ rest, ts = xs ++ rest ∧ ys = rest ++ a :: us := by
  rcases List.append_eq_append_iff.mp h with ⟨rest, hts, hys⟩ | ⟨rest, hxs, hrest⟩
  · exact ⟨rest, hts, hys⟩
  · cases rest with
    | nil => exact ⟨[], by simpa using hxs.symm, by simpa using hrest.symm⟩
    | cons b rest =>
        obtain ⟨rfl, -⟩ := List.cons.inj hrest
        exact absurd (by simp [hxs]) ha

namespace Scanner

variable {lookup : Lookup}

theorem scan_hollowWord {before word after : List Char}
    (h : HollowWord lookup before word after) :
    scan lookup {} (before ++ word ++ after) =
      scan lookup {} before ++ .word "" :: scan lookup {} after := by
  have hhead : ∀ c ∈ (word ++ after).head?, c ≠ '>' ∧ c ≠ '<' := by
    intro c hc
    obtain ⟨d, hd, -⟩ := h.marked
    have hword : c ∈ word.head? := by
      rwa [List.head?_append_of_ne_nil _ (List.ne_nil_of_mem hd)] at hc
    rcases h.hollow.head_cases c hword with hmark | rfl
    · refine ⟨?_, ?_⟩ <;> rintro rfl <;> exact absurd hmark (by decide)
    · decide
  have hempty : (run lookup {} word).2.finish lookup = [.word ""] :=
    (finish_run_eq_empty_iff h.hollow.unbroken).mpr ⟨h.hollow, h.marked⟩
  rw [List.append_assoc, scan_append_of_boundary h.boundary hhead,
    scan_unbroken_append (by simp [Within]) h.hollow.unbroken h.ends, hempty]
  rfl

/-- A word of the empty text is the one that is completed or stands behind it. -/
theorem Within.finish_append_cases {s : Scanner} (hs : Within s) {ts us rest : List Token}
    (h : s.finish lookup ++ rest = ts ++ .word "" :: us) :
    (s.finish lookup = [.word ""] ∧ ts = [] ∧ rest = us) ∨
      ∃ ts', ts = s.finish lookup ++ ts' ∧ rest = ts' ++ .word "" :: us := by
  rcases hs.finish_cases lookup with hnone | ⟨text, htext⟩
  · rw [hnone] at h ⊢
    exact .inr ⟨ts, rfl, h⟩
  · rw [htext] at h ⊢
    cases ts with
    | nil =>
        obtain ⟨hword, hrest⟩ := List.cons.inj h
        exact .inl ⟨by rw [hword], rfl, hrest⟩
    | cons t ts =>
        obtain ⟨rfl, hrest⟩ := List.cons.inj h
        exact .inr ⟨ts, rfl, hrest⟩

/-- Each word of the empty text comes from a hollow word of the text. -/
theorem exists_hollowWord_of_scan {cs : List Char} {ts us : List Token}
    (h : scan lookup {} cs = ts ++ .word "" :: us) :
    ∃ before word after, cs = before ++ word ++ after ∧ HollowWord lookup before word after ∧
      scan lookup {} before = ts ∧ scan lookup {} after = us := by
  -- The text is gone through word by word, with the break after each.
  induction hn : cs.length using Nat.strong_induction_on generalizing cs ts with
  | _ n ih =>
    subst hn
    obtain ⟨word, after, rfl, hword, hafter⟩ := exists_unbroken .outside cs
    have hwithin : Within (run lookup {} word).2 := (run_unbroken (by simp [Within]) hword).2
    have hscan : ∀ next, next.head? = after.head? → scan lookup {} (word ++ next) =
        (run lookup {} word).2.finish lookup ++ scan lookup {} next := fun next hnext ↦
      scan_unbroken_append (by simp [Within]) hword (hnext ▸ hafter)
    rw [hscan after rfl] at h
    rcases hwithin.finish_append_cases h with ⟨hempty, rfl, hus⟩ | ⟨ts, rfl, hrest⟩
    · obtain ⟨hhollow, hmark⟩ := (finish_run_eq_empty_iff hword).mp hempty
      exact ⟨[], word, after, rfl, ⟨⟨rfl, by simp⟩, hhollow, hmark, hafter⟩, rfl, hus⟩
    · cases after with
      | nil => simp [scan, finish, settle, flush] at hrest
      | cons c next =>
          obtain ⟨hbreak, hclosed⟩ := hafter c rfl
          obtain ⟨lead, tail, tokens, hlead, hne, hboundary, htokens, hstep⟩ :=
            exists_break lookup hbreak next
          rw [hlead] at hscan hrest ih ⊢
          rw [hstep tail List.prefix_rfl] at hrest
          obtain ⟨ts, rfl, htail⟩ := exists_of_append_eq_append_cons hrest (htokens "")
          have hshorter : tail.length < (word ++ (lead ++ tail)).length := by
            have := List.length_pos_iff.mpr hne
            simp only [List.length_append]
            omega
          obtain ⟨before, hollow, after, rfl, hhollow, hts, hus⟩ := ih _ hshorter htail rfl
          have hfirst : Boundary (word ++ lead) := hboundary.after_word hclosed hne
          have hhead : (lead ++ before).head? = (lead ++ (before ++ hollow ++ after)).head? := by
            rw [List.head?_append_of_ne_nil _ hne, List.head?_append_of_ne_nil _ hne]
          refine ⟨word ++ lead ++ before, hollow, after, by simp,
            { hhollow with boundary := hfirst.append hhollow.boundary }, ?_, hus⟩
          rw [List.append_assoc, hscan _ hhead, hstep before ⟨hollow ++ after, by simp⟩, hts]

end Scanner

/-- The words of the empty text among the tokens of a text are its hollow words. -/
theorem Token.tokenize_eq_append_empty_iff {lookup : Lookup} {line : String}
    {ts us : List Token} :
    tokenize lookup line = ts ++ .word "" :: us ↔
      ∃ before word after, line.toList = before ++ word ++ after ∧
        HollowWord lookup before word after ∧ Scanner.scan lookup {} before = ts ∧
          Scanner.scan lookup {} after = us := by
  constructor
  · exact Scanner.exists_hollowWord_of_scan
  · rintro ⟨before, word, after, hline, hword, rfl, rfl⟩
    rw [tokenize, hline, Scanner.scan_hollowWord hword]

end LineShell
