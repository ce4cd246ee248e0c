import Mathlib
import LineShell.Session.Start
import LineShell.Proofs.Session.Executed
import LineShell.Proofs.Session.AliasWords
import LineShell.Proofs.History.References

/-!
# How the history grows

A line adds one entry to the history or none, and nothing that it runs touches the
history afterwards.  With expansion, every entry is a text that means itself, because
the new one is a trimmed line or an older entry with the rest of a line behind it.
-/

namespace LineShell
namespace Session

/-- A line adds to the history what is entered of it. -/
theorem history_run (s : Session) (r : Runner) (line : String) :
    (s.run r line).2.history = s.history ++ (s.entered line).toList ∧
      (s.run r line).2.historyExpansion = s.historyExpansion := by
  cases hentered : s.entered line with
  | some entry =>
      let recorded : Session := { s with history := s.history ++ [entry] }
      have huntouched := (invariant_untouched r recorded).interpret (.refl recorded) entry
      rw [run_of_entered hentered, runRecorded_eq]
      exact ⟨huntouched.history, huntouched.historyExpansion⟩
  | none =>
      rw [run_of_not_entered hentered]
      split_ifs
      · obtain ⟨mode, buffer, w, heq⟩ := s.editLine_eq_with line
        simp [heq]
      · simp

/-- The line has a reference that names no entry of the history. -/
def Misses (s : Session) (line : String) : Prop :=
  ∃ reference rest, History.Refers (Text.trim line) reference rest ∧
    History.find? s.history reference = none

/-- What is recorded of a line: the trimmed line, or an older entry with the rest of the line
behind it. -/
inductive Records (s : Session) (line : String) : String → Prop
  | literal (h : ∀ reference rest, ¬History.Refers (Text.trim line) reference rest) :
      Records s line (Text.trim line)
  | expanded {reference rest old : String} (h : History.Refers (Text.trim line) reference rest)
      (hold : History.find? s.history reference = some old) : Records s line (old ++ rest)

variable {s : Session} {line : String}

/-- With expansion, a line in normal mode that is not blank is recorded, unless its
reference is missing. -/
theorem entered_cases (hexpansion : s.historyExpansion = true) (hmode : s.mode = .normal)
    (hline : Text.trim line ≠ "") :
    (s.entered line = none ∧ s.Misses line) ∨
      ∃ entry, s.entered line = some entry ∧ s.Records line entry := by
  simp only [entered, hmode, hline, expandLine, hexpansion, if_true, ne_eq, not_false_eq_true,
    and_self]
  by_cases hrefers : ∃ reference rest, History.Refers (Text.trim line) reference rest
  · obtain ⟨reference, rest, h⟩ := hrefers
    rw [History.expand_of_refers h]
    cases hfind : History.find? s.history reference with
    | none => exact .inl ⟨rfl, reference, rest, h, hfind⟩
    | some old => exact .inr ⟨old ++ rest, rfl, .expanded h hfind⟩
  · have hnone : ∀ reference rest, ¬History.Refers (Text.trim line) reference rest := by
      simpa using hrefers
    rw [History.expand_of_plain ((History.plain_iff _).mpr hnone)]
    exact .inr ⟨Text.trim line, rfl, .literal hnone⟩

theorem entered_of_misses (hexpansion : s.historyExpansion = true) (h : s.Misses line) :
    s.entered line = none := by
  obtain ⟨reference, rest, hrefers, hfind⟩ := h
  simp [entered, expandLine, hexpansion, History.expand_of_refers hrefers, hfind, Except.map,
    Except.toOption]

/-- Nothing is recorded in edit mode, of a blank line, and if the reference is missing. -/
theorem entered_eq_none_iff (hexpansion : s.historyExpansion = true) :
    s.entered line = none ↔ s.mode = .edit ∨ Text.allBlank line = true ∨ s.Misses line := by
  rw [← Text.trim_eq_empty_iff]
  constructor
  · intro h
    cases hmode : s.mode with
    | edit => exact .inl rfl
    | normal =>
        refine .inr (or_iff_not_imp_left.mpr fun hline ↦ ?_)
        rcases entered_cases hexpansion hmode hline with ⟨-, hmisses⟩ | ⟨entry, hentry, -⟩
        · exact hmisses
        · exact absurd (h.symm.trans hentry) (by simp)
  · rintro (hmode | hblank | hmisses)
    · simp [entered, hmode]
    · simp [entered, hblank]
    · exact entered_of_misses hexpansion hmisses

theorem trim_ne_empty_of_entered {entry : String} (h : s.entered line = some entry) :
    s.mode = .normal ∧ Text.trim line ≠ "" := by
  unfold entered at h
  split_ifs at h with hline
  exact hline

theorem records_of_entered (hexpansion : s.historyExpansion = true) {entry : String}
    (h : s.entered line = some entry) : s.Records line entry := by
  obtain ⟨hmode, hline⟩ := trim_ne_empty_of_entered h
  rcases entered_cases hexpansion hmode hline with ⟨hnone, -⟩ | ⟨entry', hentry', hrecords⟩
  · exact absurd (hnone.symm.trans h) (by simp)
  · obtain rfl := Option.some.inj (hentry'.symm.trans h)
    exact hrecords

/-- A text that means itself is run and recorded as it stands, with expansion or without. -/
theorem run_of_literal {entry : String} (h : History.Literal entry) (hmode : s.mode = .normal)
    (r : Runner) : s.run r entry = s.runRecorded r entry := by
  have htrim : Text.trim entry = entry := Text.trim_of_tight h.tight
  have hne : entry ≠ "" := by simpa using h.tight.nonempty
  have hexpand : s.expandLine entry = .ok entry := by
    simp [expandLine, History.expand_of_plain h.plain, Except.map]
  have hentered : s.entered entry = some entry := by
    simp [entered, hmode, htrim, hne, hexpand, Except.toOption]
  exact run_of_entered hentered r

/-- With expansion, every entry so far means itself. -/
structure Replayable (s : Session) : Prop where
  expansion : s.historyExpansion = true
  literal : ∀ entry ∈ s.history, History.Literal entry

theorem Replayable.literal_of_records (h : s.Replayable) (hline : Text.trim line ≠ "")
    {entry : String} (hrecords : s.Records line entry) : History.Literal entry := by
  cases hrecords with
  | literal hnone => exact History.literal_trim hline hnone
  | expanded hrefers hold =>
      exact (h.literal _ (History.find?_mem hold)).append_rest (Text.tight_trim hline) hrefers

theorem Replayable.run (h : s.Replayable) (r : Runner) (line : String) :
    Replayable (s.run r line).2 := by
  obtain ⟨hhistory, hexpansion⟩ := s.history_run r line
  refine ⟨hexpansion.trans h.expansion, fun entry hentry ↦ ?_⟩
  rw [hhistory, List.mem_append] at hentry
  rcases hentry with hold | hnew
  · exact h.literal entry hold
  · have hentered : s.entered line = some entry := Option.mem_toList.mp hnew
    exact h.literal_of_records (trim_ne_empty_of_entered hentered).2
      (records_of_entered h.expansion hentered)

theorem Replayable.runAll (h : s.Replayable) (r : Runner) (lines : List String) :
    Replayable (s.runAll r lines) := by
  induction lines generalizing s with
  | nil => exact h
  | cons line rest ih => exact ih (h.run r line)

/-- From an empty history, and whatever lines were taken: every entry is tight, is no
reference, whatever the history is, and is run as it stands when it is taken again.  The
next line adds at most one entry, a trimmed line or an expanded one.  It adds none exactly
in edit mode, if it is blank, and if its reference is missing; outside edit mode such a
line leaves the session as it is. -/
theorem history_runAll {s : Session} (hempty : s.history = [])
    (hexpansion : s.historyExpansion = true) (r : Runner) (lines : List String) :
    let t := s.runAll r lines
    (∀ entry ∈ t.history,
      Text.Tight entry.toList ∧ (∀ history, History.expand history entry = .ok none) ∧
      ∀ u : Session, u.mode = .normal → u.run r entry = u.runRecorded r entry) ∧
    ∀ line, ∃ added : Option String,
      (t.run r line).2.history = t.history ++ added.toList ∧
      (added = none ↔ t.mode = .edit ∨ Text.allBlank line = true ∨ t.Misses line) ∧
      (t.mode = .normal → Text.allBlank line = true ∨ t.Misses line → (t.run r line).2 = t) ∧
      ∀ entry ∈ added, t.Records line entry := by
  intro t
  have ht : t.Replayable := Replayable.runAll ⟨hexpansion, by simp [hempty]⟩ r lines
  constructor
  · intro entry hentry
    have hliteral := ht.literal entry hentry
    exact ⟨hliteral.tight, History.expand_of_plain hliteral.plain,
      fun u hmode ↦ run_of_literal hliteral hmode r⟩
  · intro line
    have hnone : t.entered line = none ↔
        t.mode = .edit ∨ Text.allBlank line = true ∨ t.Misses line :=
      entered_eq_none_iff ht.expansion
    refine ⟨t.entered line, (t.history_run r line).1, hnone, ?_, ?_⟩
    · intro hmode hunrecorded
      rw [run_of_not_entered (hnone.mpr (.inr hunrecorded)), if_neg (by simp [hmode])]
    · intro entry hentry
      exact records_of_entered ht.expansion hentry

/-- Lines that are recorded as they stand, expanded, not found, recorded, and blank. -/
def linesTaken : List String := ["echo a", " !! b ", "!nope", "! x", " "]

theorem history_runAll_linesTaken :
    let t := inEmptyWorld.runAll .silent linesTaken
    inEmptyWorld.history = [] ∧ inEmptyWorld.historyExpansion = true ∧
      t.history = ["echo a", "echo a b", "! x"] ∧
      (∀ entry ∈ t.history, History.expand t.history entry = .ok none) ∧
      (t.mode = .normal ∧ Text.allBlank "" = true ∧ (t.run .silent "").2 = t) ∧
      ∃ added : Option String, (t.run .silent "!e c").2.history = t.history ++ added.toList ∧
        ∀ entry ∈ added, t.Records "!e c" entry := by
  have hhistory : (inEmptyWorld.runAll .silent linesTaken).history =
      ["echo a", "echo a b", "! x"] := by decide +kernel
  have hmode : (inEmptyWorld.runAll .silent linesTaken).mode = .normal := by decide +kernel
  have hblank : Text.allBlank "" = true := by decide
  obtain ⟨hentries, hnext⟩ := history_runAll (s := inEmptyWorld) rfl rfl .silent linesTaken
  obtain ⟨-, -, -, hunchanged, -⟩ := hnext ""
  obtain ⟨added, hadded, -, -, hrecords⟩ := hnext "!e c"
  exact ⟨rfl, rfl, hhistory, fun entry hentry ↦ (hentries entry hentry).2.1 _,
    ⟨hmode, hblank, hunchanged hmode (.inl hblank)⟩, added, hadded, hrecords⟩

end Session
end LineShell
