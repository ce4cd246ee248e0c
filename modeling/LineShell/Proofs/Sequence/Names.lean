import LineShell.Proofs.Sequence.Shape
import LineShell.Proofs.Token.Hollow

/-!
# The names of stages

The name of a stage is its first word that is no target of a redirect, in a stage
that is kept.  So a stage has an empty name exactly where a hollow word stands at
the place of a name: a pair of quotation marks at the head of a line is a word
like any other.
-/

namespace LineShell

namespace Pipeline

/-- Every redirect has a target. -/
def Complete : List Token → Prop
  | [] => True
  | .redirect _ :: .word _ :: rest => Complete rest
  | .redirect _ :: _ => False
  | .word _ :: rest | .pipe :: rest => Complete rest

/-- The tokens of the rest of a stage. -/
def restOfStage (ts : List Token) : List Token :=
  ts.takeWhile (· ≠ .pipe)

/-- The tokens end where the name of a stage may stand: at the head of the list or after a
pipe mark, or after redirects from there on.  All stages before it are complete. -/
inductive BeforeName : List Token → Prop
  | first : BeforeName []
  | stage {ts : List Token} (h : Complete ts) : BeforeName (ts ++ [Token.pipe])
  | redirect {ts : List Token} (op : RedirectOp) (target : String) (h : BeforeName ts) :
      BeforeName (ts ++ [Token.redirect op, .word target])

@[simp] theorem complete_nil : Complete [] := trivial

@[simp] theorem complete_word (w : String) (ts : List Token) :
    Complete (.word w :: ts) ↔ Complete ts := Iff.rfl

@[simp] theorem complete_pipe (ts : List Token) : Complete (.pipe :: ts) ↔ Complete ts := Iff.rfl

@[simp] theorem complete_redirect (op : RedirectOp) (target : String) (ts : List Token) :
    Complete (.redirect op :: .word target :: ts) ↔ Complete ts := Iff.rfl

theorem Complete.append {ts us : List Token} (hts : Complete ts) :
    Complete (ts ++ us) ↔ Complete us := by
  induction ts using Complete.induct with
  | case1 => rfl
  | case2 op target rest ih => exact ih hts
  | case3 op rest hrest => exact absurd hts (by simp [Complete])
  | case4 w rest ih => exact ih hts
  | case5 rest ih => exact ih hts

theorem not_complete_of_dangling {op : RedirectOp} {rest : List Token}
    (h : ∀ target tail, rest ≠ .word target :: tail) : ¬Complete (.redirect op :: rest) := by
  cases rest with
  | nil => simp [Complete]
  | cons t rest =>
      cases t with
      | word target => exact absurd rfl (h target rest)
      | pipe => simp [Complete]
      | redirect op' => simp [Complete]

theorem exists_target_of_complete {ts : List Token} {op : RedirectOp} {rest : List Token}
    (h : Complete (ts ++ .redirect op :: rest)) : ∃ target tail, rest = .word target :: tail := by
  induction ts using Complete.induct with
  | case1 =>
      by_contra hnot
      exact not_complete_of_dangling (fun target tail heq ↦ hnot ⟨target, tail, heq⟩) h
  | case2 op' target ts ih => exact ih h
  | case3 op' ts hts =>
      refine absurd h (not_complete_of_dangling fun target tail heq ↦ ?_)
      cases ts with
      | nil => simp at heq
      | cons t ts =>
          obtain ⟨rfl, -⟩ := List.cons.inj heq
          exact hts target ts rfl
  | case4 w ts ih => exact ih h
  | case5 ts ih => exact ih h

theorem BeforeName.complete {ts : List Token} (h : BeforeName ts) : Complete ts := by
  induction h with
  | first => trivial
  | stage h => exact h.append.mpr trivial
  | redirect op target _ ih => exact ih.append.mpr trivial

/-- After a word of its own a stage has its name. -/
theorem not_beforeName_append_word {ts : List Token} (hts : Complete ts) (w : String) :
    ¬BeforeName (ts ++ [Token.word w]) := by
  intro h
  generalize hus : ts ++ [Token.word w] = us at h
  cases h with
  | first => simp at hus
  | stage h => simpa using congrArg List.getLast? hus
  | @redirect us op target h =>
      obtain ⟨rfl, -⟩ : ts = us ++ [Token.redirect op] ∧ w = target := by
        have hsplit : us ++ [Token.redirect op, .word target] =
          (us ++ [Token.redirect op]) ++ [Token.word target] := by simp
        rw [hsplit] at hus
        simpa using List.append_inj' hus rfl
      obtain ⟨target, tail, hnil⟩ := exists_target_of_complete hts
      simp at hnil

theorem beforeName_append_redirect {ts : List Token} {op : RedirectOp} {target : String} :
    BeforeName (ts ++ [Token.redirect op, .word target]) ↔ BeforeName ts := by
  refine ⟨fun h ↦ ?_, BeforeName.redirect op target⟩
  generalize hus : ts ++ [Token.redirect op, .word target] = us at h
  cases h with
  | first => simp at hus
  | stage h => simpa using congrArg List.getLast? hus
  | redirect op target h =>
      obtain ⟨rfl, -⟩ := List.append_inj' hus rfl
      exact h

/-- An element of a list is the first one or one of the rest. -/
theorem exists_split_cons_iff {α : Type} {P : List α → List α → Prop} {a t : α} {rest : List α} :
    (∃ ts us, t :: rest = ts ++ a :: us ∧ P ts us) ↔
      (t = a ∧ P [] rest) ∨ ∃ ts us, rest = ts ++ a :: us ∧ P (t :: ts) us := by
  constructor
  · rintro ⟨ts, us, heq, hP⟩
    cases ts with
    | nil =>
        obtain ⟨rfl, rfl⟩ := List.cons.inj heq
        exact .inl ⟨rfl, hP⟩
    | cons t' ts =>
        obtain ⟨rfl, rfl⟩ := List.cons.inj heq
        exact .inr ⟨ts, us, rfl, hP⟩
  · rintro (⟨rfl, hP⟩ | ⟨ts, us, rfl, hP⟩)
    · exact ⟨[], rest, rfl, hP⟩
    · exact ⟨t :: ts, us, rfl, hP⟩

@[simp] theorem restOfStage_nil : restOfStage [] = [] := rfl

@[simp] theorem restOfStage_word (w : String) (ts : List Token) :
    restOfStage (.word w :: ts) = .word w :: restOfStage ts := rfl

@[simp] theorem restOfStage_pipe (ts : List Token) : restOfStage (.pipe :: ts) = [] := rfl

@[simp] theorem restOfStage_redirect (op : RedirectOp) (ts : List Token) :
    restOfStage (.redirect op :: ts) = .redirect op :: restOfStage ts := rfl

theorem exists_name_ofWords?_iff {words : List String} {r : Redirect} {w : String} :
    (∃ stage ∈ (Stage.ofWords? words r).toList, stage.name = w) ↔ words.head? = some w := by
  cases words <;> simp [Stage.ofWords?]

/-- The words at the place of a name in what is left to read, where the stage at hand may
have its name already. -/
def NameFollows (w : String) (words : List String) (pre tokens : List Token) : Prop :=
  (words.head? = some w ∧ Complete (restOfStage tokens)) ∨
    ∃ ts us, tokens = ts ++ .word w :: us ∧ BeforeName (pre ++ ts) ∧ Complete (restOfStage us)

section

variable {w : String} {words : List String} {pre rest : List Token}

theorem nameFollows_word (hwords : words = [] ↔ BeforeName pre)
    (w' : String) :
    NameFollows w words pre (.word w' :: rest) ↔
      NameFollows w (words ++ [w']) (pre ++ [Token.word w']) rest := by
  rw [NameFollows, exists_split_cons_iff]
  cases words with
  | nil =>
      have hname : BeforeName pre := hwords.mp rfl
      simp [NameFollows, hname]
  | cons w₀ words =>
      have hname : ¬BeforeName pre := fun h ↦ absurd (hwords.mpr h) (by simp)
      simp [NameFollows, hname]

theorem nameFollows_pipe :
    NameFollows w words pre (.pipe :: rest) ↔
      words.head? = some w ∨ NameFollows w [] (pre ++ [Token.pipe]) rest := by
  rw [NameFollows, exists_split_cons_iff]
  simp [NameFollows]

theorem nameFollows_redirect (op : RedirectOp) (target : String) :
    NameFollows w words pre (.redirect op :: .word target :: rest) ↔
      NameFollows w words (pre ++ [Token.redirect op, .word target]) rest := by
  have hnot : ¬BeforeName (pre ++ [Token.redirect op]) := by
    intro h
    obtain ⟨target, tail, hnil⟩ := exists_target_of_complete h.complete
    simp at hnil
  rw [NameFollows, exists_split_cons_iff, exists_split_cons_iff]
  simp [NameFollows, hnot]

theorem not_nameFollows_of_dangling {op : RedirectOp}
    (h : ∀ target tail, rest ≠ .word target :: tail) :
    ¬NameFollows w words pre (.redirect op :: rest) := by
  rw [NameFollows, exists_split_cons_iff]
  rintro (⟨-, hcomplete⟩ | ⟨hword, -⟩ | ⟨ts, us, rfl, hname, -⟩)
  · refine not_complete_of_dangling (fun target tail hrest ↦ ?_) hcomplete
    cases rest with
    | nil => simp at hrest
    | cons t rest =>
        cases t with
        | word target => exact h target rest rfl
        | pipe => simp at hrest
        | redirect op' => simp at hrest
  · exact Token.noConfusion hword
  · obtain ⟨target, tail, rfl⟩ := exists_target_of_complete hname.complete
    exact h target (tail ++ .word w :: us) rfl

end

/-- The stages that are still to be read with a certain name. -/
theorem exists_name_readFrom_iff {words : List String} {r : Redirect} {tokens pre : List Token}
    {w : String} (hpre : Complete pre) (hwords : words = [] ↔ BeforeName pre) :
    (∃ stage ∈ (readFrom words r tokens).1, stage.name = w) ↔
      NameFollows w words pre tokens := by
  induction words, r, tokens using readFrom.induct generalizing pre with
  | case1 words r =>
      rw [readFrom, exists_name_ofWords?_iff]
      simp [NameFollows]
  | case2 words r w' rest ih =>
      have hnot : ¬BeforeName (pre ++ [Token.word w']) := not_beforeName_append_word hpre w'
      rw [readFrom, nameFollows_word hwords]
      exact ih (hpre.append.mpr (by simp)) (by simp [hnot])
  | case3 words r rest ih =>
      have hrest := @ih (pre ++ [Token.pipe]) (hpre.append.mpr (by simp))
        (by simp [BeforeName.stage hpre])
      rw [nameFollows_pipe, ← hrest, ← exists_name_ofWords?_iff (r := r)]
      simp [readFrom, or_and_right, exists_or]
  | case4 words r target rest ih =>
      rw [nameFollows_redirect]
      simpa [readFrom] using ih (hpre.append.mpr (by simp))
        (by rw [beforeName_append_redirect, hwords])
  | case5 words r op target rest hop ih =>
      rw [nameFollows_redirect]
      simpa [readFrom, hop] using ih (hpre.append.mpr (by simp))
        (by rw [beforeName_append_redirect, hwords])
  | case6 words r op rest hrest =>
      rw [readFrom_dangling words r op hrest]
      simpa using not_nameFollows_of_dangling hrest

/-- The names of the stages of a token list are its words at the place of a name, in the
stages that are complete. -/
theorem exists_name_ofTokens_iff {tokens : List Token} {w : String} :
    (∃ stage ∈ (ofTokens tokens).1, stage.name = w) ↔
      ∃ ts us, tokens = ts ++ .word w :: us ∧ BeforeName ts ∧ Complete (restOfStage us) := by
  have hstart : ([] : List String) = [] ↔ BeforeName [] := by simp [BeforeName.first]
  rw [ofTokens, exists_name_readFrom_iff complete_nil hstart]
  simp [NameFollows]

end Pipeline

namespace Sequence

open Pipeline

theorem exists_stage_ofPipelines_iff {P : Stage → Prop} {ps : List Pipeline} :
    (∃ pipeline ∈ ofPipelines ps, ∃ stage ∈ pipeline, P stage) ↔
      ∃ pipeline ∈ ps, ∃ stage ∈ pipeline, P stage := by
  have hkept : (∃ pipeline ∈ ofPipelines ps, ∃ stage ∈ pipeline, P stage) ↔
      ∃ pipeline ∈ ps.filter (!·.isEmpty), ∃ stage ∈ pipeline, P stage := by
    unfold ofPipelines
    cases ps.filter (!·.isEmpty) <;> simp
  rw [hkept]
  constructor
  · rintro ⟨p, hp, hstage⟩
    exact ⟨p, (List.mem_filter.mp hp).1, hstage⟩
  · rintro ⟨p, hp, stage, hstage, hP⟩
    have hne : (!p.isEmpty) = true := by simpa using List.ne_nil_of_mem hstage
    exact ⟨p, List.mem_filter.mpr ⟨hp, hne⟩, stage, hstage, hP⟩

/-- The stages of a line are the stages of its parts. -/
theorem exists_stage_parse_iff {P : Stage → Prop} {lookup : Lookup} {line : String} :
    (∃ pipeline ∈ (parse lookup line).1, ∃ stage ∈ pipeline, P stage) ↔
      ∃ part ∈ rawParts line, ∃ stage ∈ (Pipeline.parse lookup part).1, P stage := by
  rw [parse_eq_readParts, readParts, exists_stage_ofPipelines_iff]
  simp

/-- A hollow word of a part of a line that is the name of a stage: it stands at the place of
a name, and the stage is complete. -/
structure HollowName (lookup : Lookup) (part : String) (before word after : List Char) :
    Prop where
  split : part.toList = before ++ word ++ after
  hollow : HollowWord lookup before word after
  place : BeforeName (Scanner.scan lookup {} before)
  complete : Complete (restOfStage (Scanner.scan lookup {} after))

theorem exists_name_parse_eq_empty_iff {lookup : Lookup} {part : String} :
    (∃ stage ∈ (Pipeline.parse lookup part).1, stage.name = "") ↔
      ∃ before word after, HollowName lookup part before word after := by
  rw [Pipeline.parse, exists_name_ofTokens_iff]
  constructor
  · rintro ⟨ts, us, htokens, hplace, hcomplete⟩
    obtain ⟨before, word, after, hsplit, hword, rfl, rfl⟩ :=
      Token.tokenize_eq_append_empty_iff.mp htokens
    exact ⟨before, word, after, hsplit, hword, hplace, hcomplete⟩
  · rintro ⟨before, word, after, hsplit, hword, hplace, hcomplete⟩
    exact ⟨_, _, Token.tokenize_eq_append_empty_iff.mpr
      ⟨before, word, after, hsplit, hword, rfl, rfl⟩, hplace, hcomplete⟩

/-- A line without quotation marks has no stage without a name, whatever the variables
are. -/
theorem name_ne_empty_of_no_mark {line : String} (h : ∀ c ∈ line.toList, Text.isMark c = false)
    (lookup : Lookup) :
    ∀ pipeline ∈ (parse lookup line).1, ∀ stage ∈ pipeline, stage.name ≠ "" := by
  intro pipeline hpipeline stage hstage hname
  obtain ⟨part, hpart, hempty⟩ :=
    exists_stage_parse_iff (P := fun stage ↦ stage.name = "").mp
      ⟨pipeline, hpipeline, stage, hstage, hname⟩
  obtain ⟨before, word, after, hword⟩ := exists_name_parse_eq_empty_iff.mp hempty
  obtain ⟨c, hc, hmark⟩ := hword.hollow.marked
  obtain ⟨pre, post, hline, -⟩ := exists_eq_of_mem_partsFrom hpart
  have hcline : c ∈ line.toList := by
    rw [String.toList_empty, List.nil_append] at hline
    simp [hline, hword.split, hc]
  simp [h c hcline] at hmark

/-- The stages of a line all have a name exactly if the line names none by a hollow word. -/
theorem name_ne_empty_iff (lookup : Lookup) (line : String) :
    (∀ pipeline ∈ (parse lookup line).1, ∀ stage ∈ pipeline, stage.name ≠ "") ↔
      ∀ part ∈ rawParts line, ∀ before word after,
        ¬HollowName lookup part before word after := by
  have hexists : (∃ pipeline ∈ (parse lookup line).1, ∃ stage ∈ pipeline, stage.name = "") ↔
      ∃ part ∈ rawParts line, ∃ before word after, HollowName lookup part before word after :=
    exists_stage_parse_iff.trans
      (exists_congr fun part ↦ and_congr_right fun _ ↦ exists_name_parse_eq_empty_iff)
  simpa using not_congr hexists

/-- A pair of quotation marks is a stage without a name. -/
theorem name_parse_empty_quotation :
    ¬∀ pipeline ∈ (parse (fun _ ↦ none) "\"\"").1, ∀ stage ∈ pipeline, stage.name ≠ "" := by
  decide

end Sequence
end LineShell
