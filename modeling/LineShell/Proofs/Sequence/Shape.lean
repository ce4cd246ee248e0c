import Mathlib
import LineShell.Proofs.Token.Shape
import LineShell.Proofs.Sequence.Parts

/-!
# The shape of a sequence

The shape of a sequence forgets its texts: it keeps the number of pipelines, of
stages and of arguments, the kind of each redirect and whether it has a path.
The values of variables never change the shape of a line, whatever quotes,
blanks or operators they hold; it only matters which of them are empty.
-/

namespace LineShell

/-- A stage without its texts. -/
structure StageShape where
  args : Nat
  redirect : RedirectKind
  hasPath : Bool
deriving DecidableEq, Repr

/-- Redirects of one kind, of which both have a path or none has. -/
structure Redirect.Alike (r r' : Redirect) : Prop where
  kind : r.kind = r'.kind
  path : r.path.isSome = r'.path.isSome

theorem Redirect.Alike.refl (r : Redirect) : r.Alike r := ⟨rfl, rfl⟩

namespace Stage

def shape (stage : Stage) : StageShape :=
  ⟨stage.args.length, stage.redirect.kind, stage.redirect.path.isSome⟩

theorem map_shape_ofWords? {ws vs : List String} {r r' : Redirect}
    (hwords : ws.length = vs.length) (hr : r.Alike r') :
    (ofWords? ws r).map shape = (ofWords? vs r').map shape := by
  cases ws with
  | nil =>
      obtain rfl : vs = [] := List.eq_nil_of_length_eq_zero hwords.symm
      rfl
  | cons w ws =>
      cases vs with
      | nil => simp at hwords
      | cons v vs => simpa [ofWords?, shape, hr.kind, hr.path] using hwords

end Stage

namespace Pipeline

def shape (pipeline : Pipeline) : List StageShape :=
  pipeline.map Stage.shape

theorem shape_append (p q : Pipeline) : shape (p ++ q) = shape p ++ shape q :=
  List.map_append

theorem shape_toList_ofWords? {ws vs : List String} {r r' : Redirect}
    (hwords : ws.length = vs.length) (hr : r.Alike r') :
    shape (Stage.ofWords? ws r).toList = shape (Stage.ofWords? vs r').toList := by
  have h := congrArg Option.toList (Stage.map_shape_ofWords? hwords hr)
  simpa [shape, Option.toList_map] using h

/-- Tokens of the same shapes spell pipelines of the same shape.  The induction
follows the reader over the first list; the second one has to keep step. -/
theorem shape_readFrom {ws vs : List String} {r r' : Redirect} {ts us : List Token}
    (hwords : ws.length = vs.length) (hr : r.Alike r')
    (htokens : ts.map Token.shape = us.map Token.shape) :
    shape (readFrom ws r ts).1 = shape (readFrom vs r' us).1 := by
  induction ws, r, ts using readFrom.induct generalizing vs r' us with
  | case1 ws r =>
      obtain rfl : us = [] := by simpa using htokens.symm
      simpa [readFrom] using shape_toList_ofWords? hwords hr
  | case2 ws r w rest ih =>
      obtain ⟨u, us, rfl, hu, hrest⟩ := List.map_eq_cons_iff.mp htokens.symm
      obtain ⟨v, rfl⟩ := Token.eq_word_of_shape hu
      have hmore : (ws ++ [w]).length = (vs ++ [v]).length := by simp [hwords]
      simpa [readFrom] using ih hmore hr hrest.symm
  | case3 ws r rest ih =>
      obtain ⟨u, us, rfl, hu, hrest⟩ := List.map_eq_cons_iff.mp htokens.symm
      obtain rfl := Token.eq_pipe_of_shape hu
      have hstage := shape_toList_ofWords? hwords hr
      have htail := ih rfl (.refl _) hrest.symm
      simp [readFrom, shape_append, hstage, htail]
  | case4 ws r target rest ih =>
      obtain ⟨u, us, rfl, hu, hus⟩ := List.map_eq_cons_iff.mp htokens.symm
      obtain ⟨u', us, rfl, hu', hrest⟩ := List.map_eq_cons_iff.mp hus
      obtain rfl := Token.eq_redirect_of_shape hu
      obtain ⟨v, rfl⟩ := Token.eq_word_of_shape hu'
      simpa [readFrom] using ih hwords hr hrest.symm
  | case5 ws r op target rest hop ih =>
      obtain ⟨u, us, rfl, hu, hus⟩ := List.map_eq_cons_iff.mp htokens.symm
      obtain ⟨u', us, rfl, hu', hrest⟩ := List.map_eq_cons_iff.mp hus
      obtain rfl := Token.eq_redirect_of_shape hu
      obtain ⟨v, rfl⟩ := Token.eq_word_of_shape hu'
      have hnew : Redirect.Alike ⟨op.kind, some target⟩ ⟨op.kind, some v⟩ := ⟨rfl, rfl⟩
      simpa [readFrom, hop] using ih hwords hnew hrest.symm
  | case6 ws r op rest hrest =>
      obtain ⟨u, us, rfl, hu, hus⟩ := List.map_eq_cons_iff.mp htokens.symm
      obtain rfl := Token.eq_redirect_of_shape hu
      have hdangling : ∀ v tail, us ≠ .word v :: tail := by
        rintro v tail rfl
        obtain ⟨t, rest, rfl, ht, _⟩ := List.map_eq_cons_iff.mp hus.symm
        obtain ⟨target, rfl⟩ := Token.eq_word_of_shape ht
        exact hrest target rest rfl
      rw [readFrom_dangling ws r op hrest, readFrom_dangling vs r' op hdangling]

theorem shape_parse {L₁ L₂ : Lookup} {part : String}
    (h : ∀ name, Mentions part.toList name → L₁.AgreeOn L₂ name) :
    shape (parse L₁ part).1 = shape (parse L₂ part).1 :=
  shape_readFrom rfl (.refl _) (Token.map_shape_tokenize h)

end Pipeline

namespace Sequence

/-- The number of pipelines, the stages of each, and in each stage the number of
arguments, the kind of its redirect and whether it has a path. -/
def shape (sequence : Sequence) : List (List StageShape) :=
  sequence.map Pipeline.shape

theorem shape_ofPipelines {ps qs : List Pipeline}
    (h : ps.map Pipeline.shape = qs.map Pipeline.shape) :
    shape (ofPipelines ps) = shape (ofPipelines qs) := by
  -- Whether a pipeline is dropped can be seen from its shape.
  have hkept (rs : List Pipeline) : (rs.filter (!·.isEmpty)).map Pipeline.shape =
      (rs.map Pipeline.shape).filter (!·.isEmpty) := by
    rw [List.filter_map]
    congr 1
    exact List.filter_congr fun p _ ↦ by simp [Pipeline.shape]
  have hsame : (ps.filter (!·.isEmpty)).map Pipeline.shape =
      (qs.filter (!·.isEmpty)).map Pipeline.shape := by rw [hkept, hkept, h]
  unfold ofPipelines
  cases hp : ps.filter (!·.isEmpty) <;> cases hq : qs.filter (!·.isEmpty) <;>
    simp_all [shape]

/-- A part stands in its line between semicolons. -/
theorem exists_eq_of_mem_partsFrom {q : Quotation} {part part' : String} {cs : List Char}
    (h : part' ∈ partsFrom q part cs) :
    ∃ before after, part.toList ++ cs = before ++ part'.toList ++ after ∧
      ∀ c ∈ after.head?, c = ';' := by
  induction cs generalizing q part with
  | nil =>
      obtain rfl : part' = part := by simpa [partsFrom] using h
      exact ⟨[], [], by simp, by simp⟩
  | cons c cs ih =>
      by_cases hc : q = .outside ∧ c = ';'
      · obtain ⟨rfl, rfl⟩ := hc
        rcases List.mem_cons.mp (by simpa [partsFrom] using h) with rfl | hrest
        · exact ⟨[], ';' :: cs, by simp, by simp⟩
        · obtain ⟨before, after, heq, hafter⟩ := ih hrest
          refine ⟨part.toList ++ ';' :: before, after, ?_, hafter⟩
          have hcs : cs = before ++ part'.toList ++ after := by simpa using heq
          simp [hcs]
      · obtain ⟨before, after, heq, hafter⟩ := ih (by simpa [partsFrom, hc] using h)
        exact ⟨before, after, by simpa using heq, hafter⟩

/-- What a part mentions, its line mentions. -/
theorem mentions_of_mem_rawParts {line part name : String} (hpart : part ∈ rawParts line)
    (h : Mentions part.toList name) : Mentions line.toList name := by
  obtain ⟨pre, post, hline, hpost⟩ := exists_eq_of_mem_partsFrom hpart
  obtain ⟨hne, hchars, before, after, heq, hafter⟩ := h
  refine ⟨hne, hchars, pre ++ before, after ++ post, ?_, ?_⟩
  · simpa [heq] using hline
  · cases after with
    | nil =>
        intro c hc
        rw [hpost c hc]
        decide
    | cons d after => simpa using hafter

/-- The values of variables cannot change the shape of a line: whatever they hold,
no value splits a word, opens a quotation or acts as an operator. -/
theorem shape_parse_eq_of_agreeOn {L₁ L₂ : Lookup} {line : String}
    (h : ∀ name, Mentions line.toList name → L₁.AgreeOn L₂ name) :
    shape (parse L₁ line).1 = shape (parse L₂ line).1 := by
  rw [parse_eq_readParts, parse_eq_readParts]
  refine shape_ofPipelines ?_
  simp only [List.map_map]
  refine List.map_congr_left fun part hpart ↦ ?_
  exact Pipeline.shape_parse fun name hname ↦ h name (mentions_of_mem_rawParts hpart hname)

/-- A value full of marks has the effect of a harmless one, and an empty value that
of none. -/
theorem shape_parse_hostile_value :
    let hostile : Lookup := fun name ↦ if name = "X" then some "a; b | 'c > $D" else none
    let harmless : Lookup := fun name ↦ if name = "X" then some "e" else some ""
    (∀ name, Mentions "echo $X\"$Y\" > $X".toList name → hostile.AgreeOn harmless name) ∧
      shape (parse hostile "echo $X\"$Y\" > $X").1 =
        shape (parse harmless "echo $X\"$Y\" > $X").1 := by
  intro hostile harmless
  have hagree : ∀ name, Mentions "echo $X\"$Y\" > $X".toList name →
      hostile.AgreeOn harmless name := by
    intro name _
    by_cases hx : name = "X" <;> simp [hostile, harmless, Lookup.AgreeOn, Lookup.value, hx]
  exact ⟨hagree, shape_parse_eq_of_agreeOn hagree⟩

end Sequence
end LineShell
