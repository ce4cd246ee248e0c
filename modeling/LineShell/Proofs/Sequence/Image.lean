import Mathlib
import LineShell.Proofs.Sequence.Parts
import LineShell.Proofs.Token.Spelling

/-!
# The sequences that lines spell

A line spells a single empty pipeline, or pipelines that all have a stage and
whose redirects have a path exactly if they have a kind.  Each such sequence is
spelled by some line, with any texts as words and paths, and the line need not
know the values of variables.
-/

namespace LineShell

namespace Redirect

/-- There is no redirect, or it has a kind and a path. -/
def WellFormed (r : Redirect) : Prop :=
  r = {} ∨ (r.kind ≠ .none ∧ r.path.isSome)

theorem WellFormed.isSome_path_iff {r : Redirect} (h : r.WellFormed) :
    r.path.isSome ↔ r.kind ≠ .none := by
  rcases h with rfl | ⟨hkind, hpath⟩
  · simp
  · simp [hkind, hpath]

def tokens : Redirect → List Token
  | ⟨.truncate, some path⟩ => [.redirect .out, .word path]
  | ⟨.append, some path⟩ => [.redirect .append, .word path]
  | ⟨.input, some path⟩ => [.redirect .input, .word path]
  | _ => []

end Redirect

namespace Stage

def tokens (stage : Stage) : List Token :=
  (stage.name :: stage.args).map .word ++ stage.redirect.tokens

end Stage

namespace Pipeline

/-- There is a stage, and all redirects are well formed. -/
def WellFormed (pipeline : Pipeline) : Prop :=
  pipeline ≠ [] ∧ ∀ stage ∈ pipeline, stage.redirect.WellFormed

/-- The tokens of the stages, with a pipe mark after each. -/
def tokens (pipeline : Pipeline) : List Token :=
  pipeline.flatMap fun stage ↦ stage.tokens ++ [.pipe]

theorem redirect_wellFormed_of_mem_ofWords? {ws : List String} {r : Redirect} {stage : Stage}
    (hr : r.WellFormed) (h : stage ∈ (Stage.ofWords? ws r).toList) :
    stage.redirect.WellFormed := by
  cases ws with
  | nil => simp [Stage.ofWords?] at h
  | cons name args =>
      obtain rfl : stage = ⟨name, args, r⟩ := by simpa [Stage.ofWords?] using h
      exact hr

/-- The reader keeps the redirect at hand well formed: it starts without one, and an
operator that asks for something takes its target along. -/
theorem redirect_wellFormed_readFrom {ws : List String} {r : Redirect} {ts : List Token}
    (hr : r.WellFormed) :
    ∀ stage ∈ (readFrom ws r ts).1, stage.redirect.WellFormed := by
  induction ws, r, ts using readFrom.induct with
  | case1 ws r => exact fun stage h ↦ redirect_wellFormed_of_mem_ofWords? hr h
  | case2 ws r w rest ih => exact ih hr
  | case3 ws r rest ih =>
      intro stage h
      rcases List.mem_append.mp h with hstage | htail
      · exact redirect_wellFormed_of_mem_ofWords? hr hstage
      · exact ih (.inl rfl) stage htail
  | case4 ws r target rest ih => simpa [readFrom] using ih hr
  | case5 ws r op target rest hop ih =>
      have hkind : op.kind ≠ .none := by
        cases op <;> simp_all [RedirectOp.kind]
      simpa [readFrom, hop] using ih (.inr ⟨hkind, rfl⟩)
  | case6 ws r op rest hrest =>
      rw [readFrom_dangling ws r op hrest]
      simp

theorem readFrom_words (ws args : List String) (r : Redirect) (ts : List Token) :
    readFrom ws r (args.map .word ++ ts) = readFrom (ws ++ args) r ts := by
  induction args generalizing ws with
  | nil => simp
  | cons w args ih => simp [readFrom, ih]

theorem readFrom_redirect {r : Redirect} (hr : r.WellFormed) (ws : List String)
    (ts : List Token) : readFrom ws {} (r.tokens ++ ts) = readFrom ws r ts := by
  rcases hr with rfl | ⟨hkind, hpath⟩
  · rfl
  · obtain ⟨kind, path⟩ := r
    obtain ⟨path, rfl⟩ := Option.isSome_iff_exists.mp hpath
    cases kind with
    | none => exact absurd rfl hkind
    | truncate => rfl
    | append => rfl
    | input => rfl

/-- The tokens of well-formed stages are read back as these stages. -/
theorem ofTokens_tokens {pipeline : Pipeline}
    (h : ∀ stage ∈ pipeline, stage.redirect.WellFormed) :
    ofTokens pipeline.tokens = (pipeline, []) := by
  induction pipeline with
  | nil => rfl
  | cons stage rest ih =>
      have hstage := h stage List.mem_cons_self
      have hrest : readFrom [] {} (tokens rest) = (rest, []) :=
        ih fun s hs ↦ h s (List.mem_cons_of_mem stage hs)
      have htokens : tokens (stage :: rest) =
          (stage.name :: stage.args).map .word ++
            (stage.redirect.tokens ++ .pipe :: tokens rest) := by
        simp [tokens, Stage.tokens]
      rw [ofTokens, htokens, readFrom_words, readFrom_redirect hstage]
      simp [readFrom, hrest, Stage.ofWords?]

end Pipeline

namespace Sequence

/-- A single empty pipeline, or one or more well-formed pipelines. -/
def WellFormed (sequence : Sequence) : Prop :=
  sequence = [[]] ∨ (sequence ≠ [] ∧ ∀ pipeline ∈ sequence, Pipeline.WellFormed pipeline)

theorem wellFormed_ofPipelines {ps : List Pipeline}
    (h : ∀ p ∈ ps, ∀ stage ∈ p, stage.redirect.WellFormed) : WellFormed (ofPipelines ps) := by
  unfold ofPipelines
  cases hkept : ps.filter (!·.isEmpty) with
  | nil => exact .inl rfl
  | cons p kept =>
      refine .inr ⟨by simp, fun q hq ↦ ?_⟩
      have hfilter : q ∈ ps.filter (!·.isEmpty) := hkept ▸ hq
      obtain ⟨hmem, hne⟩ := List.mem_filter.mp hfilter
      exact ⟨by simpa using hne, h q hmem⟩

theorem wellFormed_parse (lookup : Lookup) (line : String) :
    WellFormed (parse lookup line).1 := by
  apply wellFormed_ofPipelines
  intro p hp
  simp only [List.map_map, List.mem_map] at hp
  obtain ⟨part, _, rfl⟩ := hp
  exact Pipeline.redirect_wellFormed_readFrom (.inl rfl)

theorem ofPipelines_of_wellFormed {sequence : Sequence} (h : WellFormed sequence) :
    ofPipelines (sequence ++ [[]]) = sequence := by
  rcases h with rfl | ⟨hne, hall⟩
  · rfl
  · have hkept : (sequence ++ [[]]).filter (!·.isEmpty) = sequence := by
      rw [List.filter_append, List.filter_eq_self.mpr fun p hp ↦ by simpa using (hall p hp).1]
      simp
    unfold ofPipelines
    rw [hkept]
    cases sequence with
    | nil => exact absurd rfl hne
    | cons p ps => rfl

/-- A text that closes its quotations and has no separator outside them. -/
def Enclosed (cs : List Char) : Prop :=
  NoSeparator .outside cs ∧ Quotation.outside.after cs = .outside

instance (cs : List Char) : Decidable (Enclosed cs) :=
  inferInstanceAs (Decidable (_ ∧ _))

theorem Enclosed.append {cs ds : List Char} (hcs : Enclosed cs) (hds : Enclosed ds) :
    Enclosed (cs ++ ds) := by
  refine ⟨(noSeparator_append _ _ _).mpr ⟨hcs.1, ?_⟩, ?_⟩
  · rw [hcs.2]
    exact hds.1
  · rw [Quotation.after_append, hcs.2, hds.2]

theorem enclosed_flatMap {α : Type} {f : α → List Char} (hf : ∀ a, Enclosed (f a))
    (as : List α) : Enclosed (as.flatMap f) := by
  induction as with
  | nil => exact ⟨trivial, rfl⟩
  | cons a as ih => exact (hf a).append ih

theorem enclosed_quoteChar (c : Char) : Enclosed (Token.quoteChar c) := by
  by_cases hc : c = '\x27'
  · subst hc
    decide
  · simp [Token.quoteChar, hc, Enclosed, NoSeparator, Quotation.step, Quotation.afterMark?]

theorem enclosed_spell (t : Token) : Enclosed t.spell := by
  cases t with
  | word text =>
      have hhead : Enclosed [' ', '"', '"'] := by decide
      exact hhead.append (enclosed_flatMap enclosed_quoteChar text.toList)
  | pipe => decide
  | redirect op => cases op <;> decide

/-- The tokens of the pipelines, spelled, with a semicolon after each. -/
def spell (sequence : Sequence) : List Char :=
  sequence.flatMap fun pipeline ↦ Token.spellAll pipeline.tokens ++ [';']

theorem partsFrom_spell (sequence : Sequence) :
    partsFrom .outside "" (spell sequence) =
      sequence.map (fun pipeline ↦ String.ofList (Token.spellAll pipeline.tokens)) ++ [""] := by
  induction sequence with
  | nil => rfl
  | cons p rest ih =>
      have hp : Enclosed (Token.spellAll p.tokens) := enclosed_flatMap enclosed_spell p.tokens
      have hspell : spell (p :: rest) = Token.spellAll p.tokens ++ ';' :: spell rest := by
        simp [spell]
      rw [hspell, partsFrom_append hp.1, hp.2]
      simp [partsFrom, ih]

/-- A well-formed sequence is read back from its spelling, whatever the variables
are. -/
theorem parse_spell {sequence : Sequence} (h : WellFormed sequence) (lookup : Lookup) :
    (parse lookup (String.ofList (spell sequence))).1 = sequence := by
  have hredirects : ∀ p ∈ sequence, ∀ stage ∈ p, stage.redirect.WellFormed := by
    rcases h with rfl | ⟨-, hall⟩
    · simp
    · exact fun p hp ↦ (hall p hp).2
  have hread : ∀ p ∈ sequence, (Pipeline.parse lookup
      (String.ofList (Token.spellAll p.tokens))).1 = p := by
    intro p hp
    rw [Pipeline.parse, Token.tokenize_spellAll, Pipeline.ofTokens_tokens (hredirects p hp)]
  have hpipelines : (((rawParts (String.ofList (spell sequence))).map
      (Pipeline.parse lookup)).map (·.1)) = sequence ++ [[]] := by
    rw [rawParts, String.toList_ofList, partsFrom_spell]
    simp only [List.map_append, List.map_map, List.map_cons, List.map_nil]
    congr 1
    · exact (List.map_congr_left hread).trans (List.map_id _)
  rw [parse_eq_readParts, readParts, hpipelines]
  exact ofPipelines_of_wellFormed h

/-- The sequences that lines spell are exactly the well-formed ones, and a line can be
found that spells a given one for every look-up.  So every list of arguments can be
written, and a redirect has a path exactly if it has a kind. -/
theorem exists_parse_eq_iff_wellFormed :
    (∀ (lookup : Lookup) (sequence : Sequence),
      (∃ line, (parse lookup line).1 = sequence) ↔ WellFormed sequence) ∧
    (∀ sequence : Sequence,
      (∃ line, ∀ lookup, (parse lookup line).1 = sequence) ↔ WellFormed sequence) ∧
    (∀ (name : String) (args : List String),
      ∃ line, ∀ lookup, (parse lookup line).1 = [[{ name, args }]]) ∧
    ∀ (lookup : Lookup) (line : String), ∀ pipeline ∈ (parse lookup line).1,
      ∀ stage ∈ pipeline, (stage.redirect.path.isSome ↔ stage.redirect.kind ≠ .none) := by
  have hspelled : ∀ sequence : Sequence, WellFormed sequence →
      ∃ line, ∀ lookup, (parse lookup line).1 = sequence :=
    fun sequence h ↦ ⟨_, parse_spell h⟩
  refine ⟨fun lookup sequence ↦ ⟨?_, ?_⟩, fun sequence ↦ ⟨?_, hspelled sequence⟩, ?_, ?_⟩
  · rintro ⟨line, rfl⟩
    exact wellFormed_parse lookup line
  · intro h
    obtain ⟨line, hline⟩ := hspelled sequence h
    exact ⟨line, hline lookup⟩
  · rintro ⟨line, hline⟩
    rw [← hline fun _ ↦ none]
    exact wellFormed_parse _ line
  · intro name args
    apply hspelled
    exact .inr ⟨by simp, by simp [Pipeline.WellFormed, Redirect.WellFormed]⟩
  · intro lookup line pipeline hpipeline stage hstage
    rcases wellFormed_parse lookup line with heq | ⟨-, hall⟩
    · rw [heq, List.mem_singleton] at hpipeline
      simp [hpipeline] at hstage
    · exact ((hall pipeline hpipeline).2 stage hstage).isSome_path_iff

/-- Words and a path full of marks, and an empty name, have a spelling. -/
theorem exists_parse_eq_hostile_words :
    let stage : Stage := ⟨"", ["it's \"$X\"; ok", "", "a\nb | c"], ⟨.append, some "<> &"⟩⟩
    WellFormed [[stage]] ∧ ∃ line, ∀ lookup, (parse lookup line).1 = [[stage]] ∧
      (stage.redirect.path.isSome ↔ stage.redirect.kind ≠ .none) := by
  intro stage
  have hwellFormed : WellFormed [[stage]] :=
    .inr ⟨by simp, by simp [Pipeline.WellFormed, Redirect.WellFormed, stage]⟩
  obtain ⟨line, hline⟩ := (exists_parse_eq_iff_wellFormed.2.1 [[stage]]).mpr hwellFormed
  refine ⟨hwellFormed, line, fun lookup ↦ ⟨hline lookup, ?_⟩⟩
  refine exists_parse_eq_iff_wellFormed.2.2.2 lookup line [stage] ?_ stage List.mem_cons_self
  simp [hline lookup]

end Sequence
end LineShell
