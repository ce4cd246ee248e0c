import LineShell.Proofs.Sequence.Names

/-!
# Texts around a pipe mark

Behind a text that closes its quotations, a pipe mark ends whatever that text has
begun, a name and an operator included.  The tokens are then those of the text, the
mark, and those of what follows.  The stages are those of both texts, unless the
first one has a redirect without a target: such a redirect ends the reading, and the
mark behind it is not reached.
-/

namespace LineShell

namespace Scanner

variable {lookup : Lookup}

theorem scan_append_pipe {cs : List Char} (h : Quotation.outside.after cs = .outside)
    (ds : List Char) :
    scan lookup {} (cs ++ '|' :: ds) = scan lookup {} cs ++ Token.pipe :: scan lookup {} ds := by
  have hclosed : (run lookup {} cs).2.quotation = .outside := by
    rw [run_quotation]
    exact h
  -- A pending operator waits for its own mark to double it, and the pipe mark is another.
  have hout : '|' ≠ '>' := by decide
  have hin : '|' ≠ '<' := by decide
  have hmark : scan lookup {} ('|' :: ds) = Token.pipe :: scan lookup {} ds := rfl
  have hbreak : scan lookup (run lookup {} cs).2 ('|' :: ds) =
      (run lookup {} cs).2.finish lookup ++ scan lookup {} ('|' :: ds) :=
    scan_break hclosed (by decide) (fun _ ↦ hout) (fun _ ↦ hin) ds
  rw [scan_append, hbreak, hmark, scan_eq_run _ cs, List.append_assoc]

end Scanner

namespace Token

theorem tokenize_append_pipe {lookup : Lookup} {a : String} (ha : Quotation.Closes a)
    (b : String) :
    tokenize lookup (a ++ "|" ++ b) = tokenize lookup a ++ [pipe] ++ tokenize lookup b := by
  have htext : (a ++ "|" ++ b).toList = a.toList ++ '|' :: b.toList := by simp
  rw [tokenize, htext, Scanner.scan_append_pipe ha]
  simp [tokenize]

end Token

namespace Pipeline

/-- Some redirect is not directly followed by a word. -/
def Dangling (tokens : List Token) : Prop :=
  ∃ ts op rest, tokens = ts ++ Token.redirect op :: rest ∧
    ∀ target tail, rest ≠ Token.word target :: tail

theorem Dangling.append_left {ts : List Token} (h : Dangling ts) (us : List Token) :
    Dangling (us ++ ts) := by
  obtain ⟨pre, op, rest, rfl, hrest⟩ := h
  exact ⟨us ++ pre, op, rest, by simp, hrest⟩

theorem dangling_iff_not_complete {ts : List Token} : Dangling ts ↔ ¬Complete ts := by
  constructor
  · rintro ⟨pre, op, rest, rfl, hrest⟩ hcomplete
    obtain ⟨target, tail, htail⟩ := exists_target_of_complete hcomplete
    exact hrest target tail htail
  · intro h
    induction ts using Complete.induct with
    | case1 => exact absurd trivial h
    | case2 op target ts ih => exact (ih h).append_left [.redirect op, .word target]
    | case3 op ts hts => exact ⟨[], op, ts, rfl, hts⟩
    | case4 w ts ih => exact (ih h).append_left [.word w]
    | case5 ts ih => exact (ih h).append_left [.pipe]

/-- Two pipelines one after the other, with their records. -/
def join (p q : Pipeline × List Notice) : Pipeline × List Notice :=
  (p.1 ++ q.1, p.2 ++ q.2)

variable {words : List String} {r : Redirect} {ts : List Token}

/-- A pipe mark behind complete stages begins the stages anew. -/
theorem readFrom_append_pipe (h : Complete ts) (us : List Token) :
    readFrom words r (ts ++ Token.pipe :: us) = join (readFrom words r ts) (ofTokens us) := by
  induction words, r, ts using readFrom.induct with
  | case1 words r => simp [readFrom, join, ofTokens]
  | case2 words r w rest ih => exact ih h
  | case3 words r rest ih =>
      have hrest : readFrom [] {} (rest ++ Token.pipe :: us) =
          join (readFrom [] {} rest) (ofTokens us) := ih h
      simp [readFrom, hrest, join]
  | case4 words r target rest ih =>
      have hrest : readFrom words r (rest ++ Token.pipe :: us) =
          join (readFrom words r rest) (ofTokens us) := ih h
      simp [readFrom, hrest, join]
  | case5 words r op target rest hop ih =>
      have hrest : readFrom words ⟨op.kind, some target⟩ (rest ++ Token.pipe :: us) =
          join (readFrom words ⟨op.kind, some target⟩ rest) (ofTokens us) := ih h
      simpa [readFrom, hop] using hrest
  | case6 words r op rest hrest => exact absurd h (not_complete_of_dangling hrest)

/-- What stands behind a redirect without a target, from a pipe mark on, is not read. -/
theorem readFrom_append_of_not_complete (h : ¬Complete ts) (us : List Token) :
    readFrom words r (ts ++ Token.pipe :: us) = readFrom words r ts := by
  induction words, r, ts using readFrom.induct with
  | case1 words r => exact absurd trivial h
  | case2 words r w rest ih => exact ih h
  | case3 words r rest ih =>
      have hrest : readFrom [] {} (rest ++ Token.pipe :: us) = readFrom [] {} rest := ih h
      simp [readFrom, hrest]
  | case4 words r target rest ih =>
      have hrest : readFrom words r (rest ++ Token.pipe :: us) = readFrom words r rest := ih h
      simp [readFrom, hrest]
  | case5 words r op target rest hop ih =>
      have hrest : readFrom words ⟨op.kind, some target⟩ (rest ++ Token.pipe :: us) =
          readFrom words ⟨op.kind, some target⟩ rest := ih h
      simpa [readFrom, hop] using hrest
  | case6 words r op rest hrest =>
      -- The mark is no target either: the redirect ends the reading with it as without it.
      have hnext : ∀ target tail, rest ++ Token.pipe :: us ≠ Token.word target :: tail := by
        intro target tail heq
        cases rest with
        | nil => simp at heq
        | cons t rest =>
            obtain ⟨rfl, -⟩ := List.cons.inj heq
            exact hrest target rest rfl
      rw [List.cons_append, readFrom_dangling words r op hnext, readFrom_dangling words r op hrest]

/-- A pipe mark outside quotations cuts the tokens and the stages of a line in two; only a
redirect without a target in front of it takes the stages behind it away. -/
theorem parse_append_pipe (lookup : Lookup) {a : String} (ha : Quotation.Closes a) (b : String) :
    Token.tokenize lookup (a ++ "|" ++ b) =
        Token.tokenize lookup a ++ [Token.pipe] ++ Token.tokenize lookup b ∧
      (Dangling (Token.tokenize lookup a) → parse lookup (a ++ "|" ++ b) = parse lookup a) ∧
      (¬Dangling (Token.tokenize lookup a) →
        parse lookup (a ++ "|" ++ b) = join (parse lookup a) (parse lookup b)) := by
  have htokens : Token.tokenize lookup (a ++ "|" ++ b) =
      Token.tokenize lookup a ++ [Token.pipe] ++ Token.tokenize lookup b :=
    Token.tokenize_append_pipe ha b
  have hparse : parse lookup (a ++ "|" ++ b) =
      readFrom [] {} (Token.tokenize lookup a ++ Token.pipe :: Token.tokenize lookup b) := by
    rw [parse, htokens, List.append_assoc]
    rfl
  refine ⟨htokens, fun h ↦ ?_, fun h ↦ ?_⟩
  · rw [hparse, readFrom_append_of_not_complete (dangling_iff_not_complete.mp h)]
    rfl
  · rw [dangling_iff_not_complete, not_not] at h
    rw [hparse, readFrom_append_pipe h]
    rfl

/-- A quoted mark and one in a value are no pipe marks; a target that is missing drops the
stage behind the mark with its own. -/
theorem parse_append_pipe_quoted_and_dangling :
    let values : Lookup := fun name ↦ if name = "F" then some "a | b" else none
    Quotation.Closes "cat '|' > $F" ∧ Quotation.Closes "echo | cat <" ∧
      parse values ("cat '|' > $F" ++ "|" ++ "sort$") =
        ([⟨"cat", ["|"], ⟨.truncate, some "a | b"⟩⟩, ⟨"sort$", [], {}⟩], []) ∧
      parse values ("echo | cat <" ++ "|" ++ "sort$") = ([⟨"echo", [], {}⟩], []) := by
  intro values
  have hquoted : Quotation.Closes "cat '|' > $F" := by decide
  have hmissing : Quotation.Closes "echo | cat <" := by decide
  have hcomplete : ¬Dangling (Token.tokenize values "cat '|' > $F") := by
    have htokens : Token.tokenize values "cat '|' > $F" =
        [.word "cat", .word "|", .redirect .out, .word "a | b"] := by decide
    rw [dangling_iff_not_complete, not_not, htokens]
    trivial
  have hdangling : Dangling (Token.tokenize values "echo | cat <") :=
    ⟨[.word "echo", .pipe, .word "cat"], .input, [], by decide, by simp⟩
  refine ⟨hquoted, hmissing, ?_, ?_⟩
  · rw [(parse_append_pipe values hquoted "sort$").2.2 hcomplete]
    decide
  · rw [(parse_append_pipe values hmissing "sort$").2.1 hdangling]
    decide

end Pipeline
end LineShell
