import Mathlib
import LineShell.Session.Start
import LineShell.Proofs.Sequence.Concatenation
import LineShell.Proofs.Session.Executed
import LineShell.Proofs.Session.Records
import LineShell.Proofs.Session.AliasWords
import LineShell.Proofs.Text.Parts

/-!
# Running one text after another

A line of two texts with a semicolon between them does what the two texts do one
after the other.  On the level of texts the pipelines of the line are those of the
parts; on the level of sessions each pipeline starts where the one before it
ended, an error ends the line, and empty outputs leave no line.  The variables of
the second text can be read before the first one runs, because no command changes
the environment.
-/

namespace LineShell

/-- Two outputs with one line end between them, unless one is empty. -/
def joinOutputs (first second : String) : String :=
  if first = "" then second else if second = "" then first else first ++ "\n" ++ second

theorem shownOutputs_eq_empty_iff (outputs : List String) :
    shownOutputs outputs = "" ↔ outputs.filter (· ≠ "") = [] := by
  constructor
  · intro h
    cases hkept : outputs.filter (· ≠ "") with
    | nil => rfl
    | cons output rest =>
        have hmem : output ∈ outputs.filter (· ≠ "") := hkept ▸ List.mem_cons_self
        have hne : output ≠ "" := by simpa using (List.mem_filter.mp hmem).2
        rw [shownOutputs, hkept] at h
        cases rest with
        | nil => exact absurd h hne
        | cons u us => simp [Text.joinWith, hne] at h
  · intro h
    rw [shownOutputs, h]
    rfl

theorem shownOutputs_append (first second : List String) :
    shownOutputs (first ++ second) = joinOutputs (shownOutputs first) (shownOutputs second) := by
  unfold joinOutputs
  split_ifs with hfirst hsecond
  · have hnone := (shownOutputs_eq_empty_iff first).mp hfirst
    rw [shownOutputs, List.filter_append, hnone]
    rfl
  · have hnone := (shownOutputs_eq_empty_iff second).mp hsecond
    rw [shownOutputs, List.filter_append, hnone, List.append_nil]
    rfl
  · rw [shownOutputs_eq_empty_iff] at hfirst hsecond
    rw [shownOutputs, List.filter_append, Text.joinWith_append hfirst hsecond]
    rfl

namespace Session

theorem runPipelines_append (s : Session) (r : Runner) (ps qs : List Pipeline) :
    s.runPipelines r (ps ++ qs) =
      (s.runPipelines r ps).next fun outputs t ↦
        (t.runPipelines r qs).next fun rest u ↦ (.ok (outputs ++ rest), u) := by
  induction ps generalizing s with
  | nil => exact (Outcome.next_same _).symm
  | cons p ps ih =>
      simp only [List.cons_append, runPipelines_cons, ih, Outcome.next_assoc, Outcome.next_ok]

/-- Pipelines that run after others: the outputs are joined, and an error stands alone. -/
theorem runSequence_append (s : Session) (r : Runner) (ps qs : List Pipeline) :
    s.runSequence r (ps ++ qs) =
      (s.runSequence r ps).next fun output t ↦
        (t.runSequence r qs).next fun rest u ↦ (.ok (joinOutputs output rest), u) := by
  simp only [runSequence_eq, runPipelines_append, Outcome.next_assoc, Outcome.next_ok,
    shownOutputs_append]

theorem runSequence_cons_nil (s : Session) (r : Runner) (ps : List Pipeline) :
    s.runSequence r ([] :: ps) = s.runSequence r ps := by
  simp only [runSequence_eq, runPipelines_cons, runPipeline, Outcome.next_ok, Outcome.next_assoc]
  rfl

theorem runSequence_filter (s : Session) (r : Runner) (ps : List Pipeline) :
    s.runSequence r (ps.filter (!·.isEmpty)) = s.runSequence r ps := by
  induction ps generalizing s with
  | nil => rfl
  | cons p ps ih =>
      cases p with
      | nil => exact (ih s).trans (runSequence_cons_nil s r ps).symm
      | cons first rest =>
          -- This pipeline stays, and the ones after it run from the session that it leaves.
          have happend := fun qs ↦ s.runSequence_append r [first :: rest] qs
          rw [List.filter_cons_of_pos (by simp), ← List.singleton_append, happend]
          simp only [ih, ← happend, List.singleton_append]

/-- Pipelines without stages make no difference, and neither does the lone one that
stands for nothing at all. -/
theorem runSequence_ofPipelines (s : Session) (r : Runner) (ps : List Pipeline) :
    s.runSequence r (Sequence.ofPipelines ps) = s.runSequence r ps := by
  rw [← runSequence_filter s r ps]
  unfold Sequence.ofPipelines
  cases ps.filter (!·.isEmpty) with
  | nil => exact runSequence_cons_nil s r []
  | cons p kept => rfl

/-- A line is run as its parts are, the blank ones included, after all its records are
taken down. -/
theorem interpret_eq (s : Session) (r : Runner) (line : String) :
    s.interpret r line = (s.note r (Sequence.parse s.world.lookup line).2).runSequence r
      (Sequence.pipelines s.world.lookup line) := by
  rw [interpret, Sequence.parse_eq_ofPipelines, runSequence_ofPipelines]

theorem interpret_append_semicolon (s : Session) (r : Runner) {a : String}
    (ha : Quotation.Closes a) (b : String) :
    s.interpret r (a ++ ";" ++ b) =
      (s.note r ((Sequence.parse s.world.lookup a).2 ++ (Sequence.parse s.world.lookup b).2)
        ).runSequence r
        (Sequence.pipelines s.world.lookup a ++ Sequence.pipelines s.world.lookup b) := by
  rw [interpret_eq, Sequence.notices_append_semicolon _ ha,
    Sequence.pipelines_append_semicolon _ ha]

/-- No command changes the environment, so that variables keep their values. -/
theorem invariant_lookup (l : Launcher) (lookup : Lookup) :
    Invariant (.unrecorded l) fun t ↦ t.world.lookup = lookup where
  stage h ht := by
    cases h with
    | nothing => exact ht
    | program _ _ hw => exact hw.lookup.trans ht
    | command _ he =>
        cases he with
        | files _ hw => exact hw.lookup.trans ht
        | nothing | move | enterEdit | define => exact ht
  delivery h ht := by
    cases h with
    | kept => exact ht
    | written _ _ _ hw => exact hw.filesOnly.lookup.trans ht
    | failed => exact ht
  note _ ht := ht

/-- The variables of a line are read as they were before the lines that ran ahead of it. -/
theorem lookup_interpret (s : Session) (l : Launcher) (line : String) :
    (s.interpret (.unrecorded l) line).2.world.lookup = s.world.lookup :=
  (invariant_lookup l s.world.lookup).interpret rfl line

/-- A line is run in the same way after further records. -/
theorem alike_interpret {s t : Session} (h : s.SameButLog t) (l : Launcher) (line : String) :
    Alike (s.runSequence (.unrecorded l) (Sequence.pipelines t.world.lookup line))
      (t.interpret (.unrecorded l) line) := by
  rw [interpret_eq]
  exact alike_runSequence (h.trans (sameButLog_note t l _).symm) _

/-- Running two texts with a semicolon between them is running one after the other, if
the first one closes its quotations: the outputs are joined by a line end unless one is
empty, an error of the first text is the error of the line and nothing of the second one
happens, and an error of the second text stands alone after all that the first one did.
This holds for whatever programs the texts start.  Sessions are compared without their
records. -/
theorem interpret_semicolon (l : Launcher) {a : String} (ha : Quotation.Closes a) (s : Session)
    (b : String) :
    (∀ o₁ s₁ o₂ s₂, s.interpret (.unrecorded l) a = (.ok o₁, s₁) →
      s₁.interpret (.unrecorded l) b = (.ok o₂, s₂) →
      ∃ t, s.interpret (.unrecorded l) (a ++ ";" ++ b) = (.ok (joinOutputs o₁ o₂), t) ∧
        t.SameButLog s₂) ∧
    (∀ e s₁, s.interpret (.unrecorded l) a = (.error e, s₁) →
      ∃ t, s.interpret (.unrecorded l) (a ++ ";" ++ b) = (.error e, t) ∧ t.SameButLog s₁) ∧
    (∀ o₁ s₁ e s₂, s.interpret (.unrecorded l) a = (.ok o₁, s₁) →
      s₁.interpret (.unrecorded l) b = (.error e, s₂) →
      ∃ t, s.interpret (.unrecorded l) (a ++ ";" ++ b) = (.error e, t) ∧ t.SameButLog s₂) := by
  set r : Runner := .unrecorded l
  rw [interpret_append_semicolon s r ha b]
  set lookup := s.world.lookup with hlookup
  set notices := (Sequence.parse lookup a).2 ++ (Sequence.parse lookup b).2
  have hfirst : Alike ((s.note r notices).runSequence r (Sequence.pipelines lookup a))
      (s.interpret r a) := alike_interpret (sameButLog_note s l notices) l a
  -- The second text starts where the first one ended, with the same variables.
  have hsecond : ∀ o₁ s₁ (u : Session), s.interpret r a = (.ok o₁, s₁) → u.SameButLog s₁ →
      Alike (u.runSequence r (Sequence.pipelines lookup b)) (s₁.interpret r b) := by
    intro o₁ s₁ u hrun hu
    have hsame : s₁.world.lookup = lookup := by
      rw [hlookup, ← lookup_interpret s l a, hrun]
    exact hsame ▸ alike_interpret hu l b
  refine ⟨?_, ?_, ?_⟩
  · intro o₁ s₁ o₂ s₂ hrun₁ hrun₂
    obtain ⟨u, hu, hsame⟩ := (hrun₁ ▸ hfirst).exists_eq_ok
    obtain ⟨t, ht, hend⟩ := (hrun₂ ▸ hsecond o₁ s₁ u hrun₁ hsame).exists_eq_ok
    refine ⟨t, ?_, hend⟩
    rw [runSequence_append, hu, Outcome.next_ok, ht, Outcome.next_ok]
  · intro e s₁ hrun
    obtain ⟨u, hu, hsame⟩ := (hrun ▸ hfirst).exists_eq_error
    refine ⟨u, ?_, hsame⟩
    rw [runSequence_append, hu, Outcome.next_error]
  · intro o₁ s₁ e s₂ hrun₁ hrun₂
    obtain ⟨u, hu, hsame⟩ := (hrun₁ ▸ hfirst).exists_eq_ok
    obtain ⟨t, ht, hend⟩ := (hrun₂ ▸ hsecond o₁ s₁ u hrun₁ hsame).exists_eq_error
    refine ⟨t, ?_, hend⟩
    rw [runSequence_append, hu, Outcome.next_ok, ht, Outcome.next_error]

theorem Outcome.eq_of_result {α : Type} {o : Outcome α} {result : Except ShellError α}
    (h : o.1 = result) : o = (result, o.2) := by
  rw [← h]

/-- A session at the root of a tree with a file and a program that copies. -/
def besideProgram : Session :=
  { inEmptyWorld with
    world := { inEmptyWorld.world with
      tree := ⟨[(["f"], .newFile (Text.encode "hi") 0), (["copier"], .program .cat)]⟩ } }

/-- Two outputs, one of them a program's, an error before a text that would write, and an error
after a program that wrote. -/
theorem interpret_semicolon_outputs_and_errors :
    let s := besideProgram
    (Quotation.Closes "echo 'a;b'" ∧
      ∃ t, s.interpret .silent ("echo 'a;b'" ++ ";" ++ "./copier f") =
          (.ok (joinOutputs "a;b" "hi"), t) ∧
        t.SameButLog ((s.interpret .silent "echo 'a;b'").2.interpret .silent "./copier f").2) ∧
    (Quotation.Closes "cat < /" ∧
      ∃ t, s.interpret .silent ("cat < /" ++ ";" ++ "echo x > g") =
          (.error (.io "/" .isADirectory), t) ∧
        t.SameButLog (s.interpret .silent "cat < /").2) ∧
    (Quotation.Closes "./copier < f > g" ∧
      ∃ t, s.interpret .silent ("./copier < f > g" ++ ";" ++ "cat < /") =
          (.error (.io "/" .isADirectory), t) ∧
        t.SameButLog
          ((s.interpret .silent "./copier < f > g").2.interpret .silent "cat < /").2) := by
  intro s
  have hquoted : (s.interpret .silent "echo 'a;b'").1 = .ok "a;b" := by decide +kernel
  have hsecond : ((s.interpret .silent "echo 'a;b'").2.interpret .silent "./copier f").1 =
      .ok "hi" := by decide +kernel
  have herror : (s.interpret .silent "cat < /").1 = .error (.io "/" .isADirectory) := by
    decide +kernel
  have hwritten : (s.interpret .silent "./copier < f > g").1 = .ok "" := by decide +kernel
  have hlate : ((s.interpret .silent "./copier < f > g").2.interpret .silent "cat < /").1 =
      .error (.io "/" .isADirectory) := by decide +kernel
  refine ⟨⟨by decide, ?_⟩, ⟨by decide, ?_⟩, ⟨by decide, ?_⟩⟩
  · have h := (interpret_semicolon External.launcher (a := "echo 'a;b'") (by decide) s
      "./copier f").1
    exact h _ _ _ _ (Outcome.eq_of_result hquoted) (Outcome.eq_of_result hsecond)
  · have h := (interpret_semicolon External.launcher (a := "cat < /") (by decide) s
      "echo x > g").2.1
    exact h _ _ (Outcome.eq_of_result herror)
  · have h := (interpret_semicolon External.launcher (a := "./copier < f > g") (by decide) s
      "cat < /").2.2
    exact h _ _ _ _ (Outcome.eq_of_result hwritten) (Outcome.eq_of_result hlate)

end Session
end LineShell
