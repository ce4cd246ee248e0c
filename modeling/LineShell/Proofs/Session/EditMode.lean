import Mathlib
import LineShell.Proofs.Session.Outcome
import LineShell.Proofs.Session.PipelineFrame
import LineShell.Proofs.History.References

/-!
# Edit mode

In edit mode a line is text, unless its first word spells one of four commands.  The
buffer holds the text that edit mode has taken since it was last cleared, each line as
it stood, however often the mode was left and entered in between.  A line of edit mode
touches nothing else but the file that it is written to.
-/

namespace LineShell

namespace Text

/-- The first word of a line, behind the blanks at its start. -/
def firstWord (line : String) : String :=
  String.ofList ((line.toList.dropWhile isBlank).takeWhile (!isBlank ·))

/-- What stands behind the first word of a line, without the blanks around it. -/
def argument (line : String) : String :=
  trim (cutAtBlank (trim line)).2

theorem takeWhile_rdropWhile {α : Type} (p : α → Bool) (xs : List α) :
    (xs.rdropWhile p).takeWhile (!p ·) = xs.takeWhile (!p ·) := by
  induction xs using List.reverseRecOn with
  | nil => rfl
  | append_singleton xs x ih =>
      rw [List.rdropWhile_concat]
      split_ifs with hx
      · rw [ih, List.takeWhile_append]
        split_ifs with hall
        · have hself : xs.takeWhile (!p ·) = xs :=
            (List.takeWhile_prefix _).eq_of_length hall
          simp [hself, hx]
        · rfl
      · rfl

/-- The blanks at the end of a line do not matter for its first word. -/
theorem cutAtBlank_trim_fst (line : String) : (cutAtBlank (trim line)).1 = firstWord line := by
  rw [cutAtBlank, firstWord, toList_trim, takeWhile_rdropWhile]

end Text

namespace EditCommand

def spellings : EditCommand → List String
  | .quit => [":q", ":quit"]
  | .print => [":p", ":print"]
  | .clear => [":clear"]
  | .write => [":w", ":write"]

theorem ofWord?_eq_some_iff {word : String} {c : EditCommand} :
    ofWord? word = some c ↔ word ∈ c.spellings := by
  constructor
  · intro h
    unfold ofWord? at h
    split at h <;> cases h <;> simp [spellings]
  · intro h
    cases c <;> simp only [spellings, List.mem_cons, List.not_mem_nil, or_false] at h
    · rcases h with rfl | rfl <;> rfl
    · rcases h with rfl | rfl <;> rfl
    · rw [h]
      rfl
    · rcases h with rfl | rfl <;> rfl

theorem ofLine?_eq (line : String) :
    ofLine? line = (ofWord? (Text.firstWord line)).map (·, Text.argument line) := by
  simp only [ofLine?, Text.cutAtBlank_trim_fst, Text.argument]

/-- The line is no command. -/
def IsText (line : String) : Prop :=
  Text.firstWord line ∉ [quit, print, clear, write].flatMap spellings

instance : DecidablePred IsText := fun line ↦
  inferInstanceAs (Decidable (Text.firstWord line ∉ _))

theorem isText_iff (line : String) : IsText line ↔ ofWord? (Text.firstWord line) = none := by
  rw [Option.eq_none_iff_forall_ne_some, IsText, List.mem_flatMap]
  constructor
  · intro h c hc
    refine h ⟨c, ?_, ofWord?_eq_some_iff.mp hc⟩
    cases c <;> simp
  · rintro h ⟨c, -, hc⟩
    exact h c (ofWord?_eq_some_iff.mpr hc)

theorem IsText.notMem_spellings {line : String} (h : IsText line) (c : EditCommand) :
    Text.firstWord line ∉ c.spellings := by
  intro hc
  rw [isText_iff, ofWord?_eq_some_iff.mpr hc] at h
  cases h

theorem eq_of_mem_spellings {word : String} {c d : EditCommand} (hc : word ∈ c.spellings)
    (hd : word ∈ d.spellings) : c = d :=
  Option.some.inj ((ofWord?_eq_some_iff.mpr hc).symm.trans (ofWord?_eq_some_iff.mpr hd))

end EditCommand

namespace Session

open Text

/-- What a line may make of a session in edit mode. -/
inductive EditEffect (s : Session) (line : String) : Session → Prop
  | left (h : firstWord line ∈ EditCommand.quit.spellings) :
      EditEffect s line { s with mode := .normal }
  | nothing {c : EditCommand} (hc : c = .print ∨ c = .write) (h : firstWord line ∈ c.spellings) :
      EditEffect s line s
  | cleared (h : firstWord line ∈ EditCommand.clear.spellings) :
      EditEffect s line { s with buffer := [] }
  | written {loc : Location} {w : World} (h : firstWord line ∈ EditCommand.write.spellings)
      (hargument : argument line ≠ "") (hnames : s.world.Names (s.resolvePath (argument line)) loc)
      (hw : s.world.DiffersAt loc w) : EditEffect s line (s.setWorld w)
  | collected (h : EditCommand.IsText line) :
      EditEffect s line { s with buffer := s.buffer ++ [line] }

theorem editEffect_writeBuffer {s : Session} {line : String}
    (h : firstWord line ∈ EditCommand.write.spellings) :
    s.EditEffect line (s.writeBuffer (argument line)).2 := by
  unfold writeBuffer
  split_ifs with hargument
  · exact .nothing (.inr rfl) h
  · cases hwrite : s.world.write (s.resolvePath (argument line))
        (Text.encode (bufferText s.buffer)) with
    | ok w =>
        rw [World.write] at hwrite
        obtain ⟨loc, hnames, hdiffers⟩ := World.differsAt_modifyFile hwrite
        exact .written h hargument hnames hdiffers
    | error e => exact .nothing (.inr rfl) h

theorem editEffect_editLine (s : Session) (line : String) :
    s.EditEffect line (s.editLine line).2 := by
  delta editLine
  rw [EditCommand.ofLine?_eq]
  cases hword : EditCommand.ofWord? (firstWord line) with
  | none => exact .collected ((EditCommand.isText_iff line).mpr hword)
  | some c =>
      have hspelled := EditCommand.ofWord?_eq_some_iff.mp hword
      cases c with
      | quit => exact .left hspelled
      | print => exact .nothing (.inl rfl) hspelled
      | clear => exact .cleared hspelled
      | write => exact editEffect_writeBuffer hspelled

/-- The lines that are taken in edit mode, of all that are taken one after the other. -/
def editLines (s : Session) (r : Runner) : List String → List String
  | [] => []
  | line :: rest => (if s.mode = .edit then [line] else []) ++ editLines (s.run r line).2 r rest

/-- The text among some lines since the last one that clears the buffer. -/
def collected (lines : List String) : List String :=
  (lines.rtakeWhile fun line ↦ firstWord line ∉ EditCommand.clear.spellings).filter
    fun line ↦ EditCommand.IsText line

theorem collected_concat (lines : List String) (line : String) :
    collected (lines ++ [line]) =
      if firstWord line ∈ EditCommand.clear.spellings then []
      else if EditCommand.IsText line then collected lines ++ [line] else collected lines := by
  by_cases hclear : firstWord line ∈ EditCommand.clear.spellings
  · simp [collected, hclear]
  · by_cases htext : EditCommand.IsText line <;>
      simp [collected, hclear, htext, List.filter_append]

theorem runAll_append (s : Session) (r : Runner) (lines lines' : List String) :
    s.runAll r (lines ++ lines') = (s.runAll r lines).runAll r lines' :=
  List.foldl_append

theorem editLines_append (s : Session) (r : Runner) (lines lines' : List String) :
    s.editLines r (lines ++ lines') =
      s.editLines r lines ++ (s.runAll r lines).editLines r lines' := by
  induction lines generalizing s with
  | nil => rfl
  | cons line rest ih => simp [editLines, ih, runAll]

namespace EditEffect

variable {s s' : Session} {line : String}

theorem buffer (h : s.EditEffect line s') :
    s'.buffer =
      if firstWord line ∈ EditCommand.clear.spellings then []
      else if EditCommand.IsText line then s.buffer ++ [line] else s.buffer := by
  -- A command that is not the one to clear leaves the buffer, and the line is no text.
  have hkept : ∀ c : EditCommand, c ≠ .clear → firstWord line ∈ c.spellings →
      s.buffer =
        if firstWord line ∈ EditCommand.clear.spellings then []
        else if EditCommand.IsText line then s.buffer ++ [line] else s.buffer := by
    intro c hc hword
    have hclear : firstWord line ∉ EditCommand.clear.spellings :=
      fun hclear ↦ hc (EditCommand.eq_of_mem_spellings hword hclear)
    have htext : ¬EditCommand.IsText line := fun htext ↦ htext.notMem_spellings c hword
    rw [if_neg hclear, if_neg htext]
  cases h with
  | left h => exact hkept .quit (by decide) h
  | nothing hc h => exact hkept _ (by rcases hc with rfl | rfl <;> decide) h
  | cleared h => rw [if_pos h]
  | written h => exact hkept .write (by decide) h
  | collected h => rw [if_neg (h.notMem_spellings .clear), if_pos h]

/-- A line of edit mode touches the mode, the buffer and files, and nothing else. -/
theorem eq_with (h : s.EditEffect line s') :
    s' = { s with mode := s'.mode, buffer := s'.buffer, world := s'.world } := by
  cases h <;> rfl

theorem written_of_ne (h : s.EditEffect line s') (hne : s'.world ≠ s.world) :
    firstWord line ∈ EditCommand.write.spellings ∧ argument line ≠ "" ∧
      ∃ loc, s.world.Names (s.resolvePath (argument line)) loc ∧
        s.world.DiffersAt loc s'.world := by
  cases h with
  | written h hargument hnames hw => exact ⟨h, hargument, _, hnames, hw⟩
  | left | nothing | cleared | collected => exact absurd rfl hne

/-- Edit mode is left by the command for it alone. -/
theorem mode_eq_normal_iff (h : s.EditEffect line s') (hmode : s.mode = .edit) :
    s'.mode = .normal ↔ firstWord line ∈ EditCommand.quit.spellings := by
  have hstays : ∀ c : EditCommand, c ≠ .quit → firstWord line ∈ c.spellings →
      (s.mode = .normal ↔ firstWord line ∈ EditCommand.quit.spellings) := by
    intro c hc hword
    have hquit : firstWord line ∉ EditCommand.quit.spellings :=
      fun hquit ↦ hc (EditCommand.eq_of_mem_spellings hword hquit)
    simp [hmode, hquit]
  cases h with
  | left h => exact iff_of_true rfl h
  | nothing hc h => exact hstays _ (by rcases hc with rfl | rfl <;> decide) h
  | cleared h => exact hstays .clear (by decide) h
  | written h => exact hstays .write (by decide) h
  | collected h => exact iff_of_false (by simp [hmode]) (h.notMem_spellings .quit)

end EditEffect

variable {s : Session} {r : Runner}

theorem run_of_edit (hmode : s.mode = .edit) (r : Runner) (line : String) :
    s.run r line = s.editLine line := by
  simp only [run, hmode]

theorem buffer_run_of_normal (hmode : s.mode = .normal) (r : Runner) (line : String) :
    (s.run r line).2.buffer = s.buffer := by
  cases hentered : s.entered line with
  | none => rw [run_of_not_entered hentered, if_neg (by simp [hmode])]
  | some entry =>
      let recorded : Session := { s with history := s.history ++ [entry] }
      rw [run_of_entered hentered, runRecorded_eq]
      exact ((invariant_untouched r recorded).interpret (.refl recorded) entry).buffer

/-- The buffer is the text that edit mode has taken since it was last cleared. -/
theorem buffer_runAll_eq_collected (hfresh : s.buffer = []) (r : Runner)
    (lines : List String) : (s.runAll r lines).buffer = collected (s.editLines r lines) := by
  induction lines using List.reverseRecOn with
  | nil => exact hfresh
  | append_singleton lines line ih =>
      let t := s.runAll r lines
      have hrun : s.runAll r (lines ++ [line]) = (t.run r line).2 := runAll_append ..
      rw [hrun, editLines_append]
      cases hmode : t.mode with
      | normal =>
          have hnone : t.editLines r [line] = [] := by simp [editLines, hmode]
          rw [buffer_run_of_normal hmode, ih, hnone, List.append_nil]
      | edit =>
          have hline : t.editLines r [line] = [line] := by simp [editLines, hmode]
          rw [run_of_edit hmode, (t.editEffect_editLine line).buffer, hline, collected_concat, ih]

theorem exists_executedAll_of_ne {pipelines : List Pipeline} {α : Type} {f : Session → α}
    (hf : ∀ t w log, f { t with world := w, log := log } = f t)
    (hne : f (s.runPipelines r pipelines).2 ≠ f s) :
    ∃ e ∈ s.executedAll r pipelines, f (e.after r) ≠ f e.before := by
  induction pipelines generalizing s with
  | nil => exact absurd rfl hne
  | cons pipeline rest ih =>
      rw [executedAll]
      by_cases hfirst : f (s.runPipeline r pipeline).2 = f s
      · rw [runPipelines_cons] at hne
        cases hrun : s.runPipeline r pipeline with
        | mk result s' =>
            rw [hrun] at hfirst hne
            cases result with
            | error e => exact absurd hfirst hne
            | ok output =>
                rw [Outcome.next_ok, Outcome.snd_next_ok, ← hfirst] at hne
                obtain ⟨e, he, hchanged⟩ := ih hne
                exact ⟨e, List.mem_append_right _ he, hchanged⟩
      · obtain ⟨e, he, hchanged⟩ := exists_executed_of_ne hf hfirst
        exact ⟨e, List.mem_append_left _ he, hchanged⟩

/-- What a line in normal mode changes outside files, records and history, a stage that it
executes changes. -/
theorem exists_executedIn_of_ne {line : String} (hmode : s.mode = .normal) {α : Type}
    {f : Session → α} (hf : ∀ t w log, f { t with world := w, log := log } = f t)
    (hhistory : ∀ t history, f { t with history := history } = f t)
    (hne : f (s.run r line).2 ≠ f s) :
    ∃ e ∈ s.executedIn r line, f (e.after r) ≠ f e.before := by
  cases hentered : s.entered line with
  | none =>
      rw [run_of_not_entered hentered, if_neg (by simp [hmode])] at hne
      exact absurd rfl hne
  | some entry =>
      let recorded : Session := { s with history := s.history ++ [entry] }
      let parsed := Sequence.parse recorded.world.lookup entry
      have hstart : f (recorded.note r parsed.2) = f s := (hf recorded _ _).trans (hhistory s _)
      have hrun : (s.run r line).2 = ((recorded.note r parsed.2).runPipelines r parsed.1).2 := by
        rw [run_of_entered hentered, runRecorded_eq, interpret, runSequence_eq,
          Outcome.snd_next_ok]
      rw [executedIn, hentered]
      exact exists_executedAll_of_ne hf fun heq ↦ hne (by rw [hrun, heq, hstart])

/-- A session in which nothing was collected yet.  Whatever lines are taken, the buffer is the
text among the lines of edit mode since the last one that clears it, in order and as it
stood.  A line that is taken in edit mode leaves history, directories and aliases alone,
changes files at most where the command to write names one, and ends the mode exactly if it
is the command to quit.  A line that is taken in normal mode enters edit mode only by a
stage that leads to the command for it. -/
theorem buffer_runAll {s : Session} (hfresh : s.buffer = []) (r : Runner)
    (lines : List String) :
    let t := s.runAll r lines
    t.buffer = collected (s.editLines r lines) ∧
    ∀ line,
      let t' := (t.run r line).2
      (t.mode = .edit →
        t'.history = t.history ∧ t'.current = t.current ∧ t'.previous = t.previous ∧
        t'.aliases = t.aliases ∧
        (t'.world ≠ t.world → firstWord line ∈ EditCommand.write.spellings ∧
          argument line ≠ "" ∧ ∃ loc, t.world.Names (t.resolvePath (argument line)) loc ∧
            t.world.DiffersAt loc t'.world) ∧
        (t'.mode = .normal ↔ firstWord line ∈ EditCommand.quit.spellings)) ∧
      (t.mode = .normal → t'.mode = .edit → ∃ e ∈ t.executedIn r line, e.LeadsTo .edit) := by
  intro t
  refine ⟨buffer_runAll_eq_collected hfresh r lines, fun line ↦ ⟨?_, ?_⟩⟩
  · intro hmode
    have heffect : t.EditEffect line (t.run r line).2 := by
      rw [run_of_edit hmode]
      exact t.editEffect_editLine line
    have hkept := heffect.eq_with
    refine ⟨?_, ?_, ?_, ?_, heffect.written_of_ne, heffect.mode_eq_normal_iff hmode⟩ <;> rw [hkept]
  · intro hmode hentered
    have hne : (t.run r line).2.mode ≠ t.mode := by simp [hmode, hentered]
    obtain ⟨e, he, hchanged⟩ := exists_executedIn_of_ne (f := fun u ↦ u.mode) hmode
      (fun _ _ _ ↦ rfl) (fun _ _ ↦ rfl) hne
    exact ⟨e, he, (e.stageEffect_after r).leads_edit hchanged⟩

/-- Lines that enter edit mode twice, the second time through an alias, and leave it, with
a command among them that clears the buffer. -/
def linesEdited : List String :=
  ["edit", " lost", ":clear now", " :kept\t", ":w f", ":q", "echo a", "alias e edit x",
    "e | cat; echo b", "echo c | d", " :p "]

theorem buffer_runAll_linesEdited :
    let t := inEmptyWorld.runAll .silent linesEdited
    let t' := (t.run .silent ":w f").2
    inEmptyWorld.buffer = [] ∧ t.buffer = [" :kept\t", "echo c | d"] ∧
      (t.mode = .edit ∧ t'.history = t.history ∧ t'.world ≠ t.world ∧
        ∃ loc, t.world.Names (t.resolvePath "f") loc ∧ t.world.DiffersAt loc t'.world) ∧
      (inEmptyWorld.mode = .normal ∧ (inEmptyWorld.run .silent "e; edit | cat").2.mode = .edit ∧
        ∃ e ∈ inEmptyWorld.executedIn .silent "e; edit | cat", e.LeadsTo .edit) := by
  intro t t'
  have hlines : inEmptyWorld.editLines .silent linesEdited =
      [" lost", ":clear now", " :kept\t", ":w f", ":q", "echo c | d", " :p "] := by decide +kernel
  have hcollected : collected [" lost", ":clear now", " :kept\t", ":w f", ":q", "echo c | d",
      " :p "] = [" :kept\t", "echo c | d"] := by decide +kernel
  have hmode : t.mode = .edit := by decide +kernel
  have hwritten : t'.world ≠ t.world := by decide +kernel
  have hargument : argument ":w f" = "f" := by decide +kernel
  have hentered : (inEmptyWorld.run .silent "e; edit | cat").2.mode = .edit := by decide +kernel
  obtain ⟨hbuffer, hnext⟩ := buffer_runAll (s := inEmptyWorld) rfl .silent linesEdited
  obtain ⟨hhistory, -, -, -, hworld, -⟩ := (hnext ":w f").1 hmode
  obtain ⟨-, -, hloc⟩ := hworld hwritten
  simp only [hargument] at hloc
  have hstart := (buffer_runAll (s := inEmptyWorld) rfl .silent []).2 "e; edit | cat"
  exact ⟨rfl, hbuffer.trans ((congrArg collected hlines).trans hcollected),
    ⟨hmode, hhistory, hwritten, hloc⟩, rfl, hentered, hstart.2 rfl hentered⟩

end Session
end LineShell
