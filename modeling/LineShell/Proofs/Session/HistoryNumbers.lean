import Mathlib
import LineShell.Proofs.History.Numbers
import LineShell.Proofs.Session.HistoryGrowth
import LineShell.Proofs.Session.Directories

/-!
# Numbers stay with their entries

The history only grows, and at its end, so that the number under which an entry was
listed names the same entry ever after.  Taking the number back as a reference runs and
records that entry.
-/

namespace LineShell
namespace Session

theorem history_prefix_runAll (s : Session) (r : Runner) (lines : List String) :
    s.history <+: (s.runAll r lines).history ∧
      (s.runAll r lines).historyExpansion = s.historyExpansion := by
  induction lines generalizing s with
  | nil => exact ⟨List.prefix_rfl, rfl⟩
  | cons line rest ih =>
      obtain ⟨hhistory, hexpansion⟩ := s.history_run r line
      obtain ⟨hgrows, hkept⟩ := ih (s.run r line).2
      refine ⟨?_, hkept.trans hexpansion⟩
      rw [hhistory] at hgrows
      exact (List.prefix_append _ _).trans hgrows

/-- The stages of a line see the history with the line in it. -/
theorem history_of_mem_executedIn {s : Session} {r : Runner} {line : String} {e : Executed}
    (he : e ∈ s.executedIn r line) : e.before.history = (s.run r line).2.history := by
  obtain ⟨hhistory, -⟩ := s.history_run r line
  rw [hhistory]
  unfold executedIn at he
  cases hentered : s.entered line with
  | none => simp [hentered] at he
  | some entry =>
      simp only [hentered] at he
      let recorded : Session := { s with history := s.history ++ [entry] }
      have hinvariant := invariant_untouched r recorded
      have hstages := (hinvariant.runPipelines (hinvariant.note _ (.refl recorded)) _).2 e he
      exact hstages.1.history

theorem trim_numberLine (n : Nat) : Text.trim (History.numberLine n) = History.numberLine n := by
  have hchars : (History.numberLine n).toList = '!' :: (toString n).toList := by
    simp [History.numberLine]
  have hdigits : ∀ c ∈ (toString n).toList, Text.isBlank c = false :=
    (History.refers_numberLine n).unbroken
  apply Text.trim_of_tight
  rw [hchars]
  refine ⟨by simp, by simp [show Text.isBlank '!' = false by decide], fun c hc ↦ ?_⟩
  rcases List.mem_cons.mp (List.mem_of_getLast? hc) with rfl | hdigit
  · decide
  · exact hdigits c hdigit

theorem entered_numberLine {s : Session} (hmode : s.mode = .normal)
    (hexpansion : s.historyExpansion = true) {n : Nat} {entry : String} (hfirst : 1 ≤ n)
    (hlimit : n < Text.indexLimit) (hentry : s.history[n - 1]? = some entry) :
    s.entered (History.numberLine n) = some entry := by
  have hlast : n ≤ s.history.length := by
    have := (List.getElem?_eq_some_iff.mp hentry).1
    omega
  have hne : History.numberLine n ≠ "" := by simp [History.numberLine]
  obtain ⟨old, hold, hexpand⟩ := History.expand_of_means (History.refers_numberLine n)
    (History.means_toString hfirst hlast hlimit)
  obtain rfl := Option.some.inj (hold.symm.trans hentry)
  rw [entered, trim_numberLine, if_pos ⟨hmode, hne⟩]
  simp [expandLine, hexpansion, hexpand, Except.map, Except.toOption]

/-- What a stage saw under a number is there under this number after any further lines. -/
theorem getElem?_history_runAll {s : Session} {r : Runner} {line : String} {e : Executed}
    (he : e ∈ s.executedIn r line) {i : Nat} {entry : String}
    (hentry : e.before.history[i]? = some entry) (more : List String) :
    (s.runAll r (line :: more)).history[i]? = some entry := by
  have hlater := ((s.run r line).2.history_prefix_runAll r more).1
  rw [← history_of_mem_executedIn he, List.prefix_iff_getElem?] at hlater
  obtain ⟨hi, rfl⟩ := List.getElem?_eq_some_iff.mp hentry
  exact hlater i hi

/-- A reference means the last entry, the one with its number, or the last one that begins
with it, and there is no such event exactly if there is no such entry.  `history` lists the
last entries, each under its number.  Whatever is listed under a number by a stage of some
line is, after any further lines, what this number runs and records. -/
theorem history_numbers_agree :
    (∀ history line reference rest, History.Refers line reference rest →
      (∀ i, History.Means history reference i → ∃ entry, history[i]? = some entry ∧
        History.expand history line = .ok (some (entry ++ rest))) ∧
      (History.expand history line = .error .eventNotFound ↔
        ∀ i, ¬History.Means history reference i)) ∧
    (∀ s call count, Command.askedEntries s call = some count →
      let rows := History.lastNumbered s.history count
      Command.history s call =
        Text.joinWith "\n" (rows.map fun row ↦ toString row.1 ++ " " ++ row.2) ∧
      rows.length = min count s.history.length ∧
      ∀ j row, rows[j]? = some row → row.1 = s.history.length - count + j + 1 ∧
        s.history[row.1 - 1]? = some row.2) ∧
    ∀ s : Session, s.historyExpansion = true → ∀ r lines line,
      ∀ e ∈ (s.runAll r lines).executedIn r line, ∀ call, e.Calls .history call →
        e.before.runStage r e.stage e.input = (.ok (Command.history e.before call), e.before) ∧
        ∀ count, Command.askedEntries e.before call = some count →
          ∀ row ∈ History.lastNumbered e.before.history count, ∀ more,
            let later := s.runAll r (lines ++ line :: more)
            later.mode = .normal → later.history.length < Text.indexLimit →
              later.run r (History.numberLine row.1) = later.runRecorded r row.2 ∧
              (later.run r (History.numberLine row.1)).2.history =
                later.history ++ [row.2] := by
  refine ⟨fun history line reference rest hrefers ↦ ?_, fun s call count hcount ↦ ?_,
    fun s hexpansion r lines line e he call hcall ↦ ?_⟩
  · exact ⟨fun i hmeans ↦ History.expand_of_means hrefers hmeans,
      History.expand_eq_eventNotFound_iff hrefers history⟩
  · exact ⟨Command.history_eq hcount, History.length_lastNumbered _ _,
      fun j row hrow ↦ History.lastNumbered_row hrow⟩
  · refine ⟨hcall.runStage_eq r, ?_⟩
    intro count _ row hrow more later hmode hlimit
    obtain ⟨j, hj⟩ := List.mem_iff_getElem?.mp hrow
    obtain ⟨hnumber, hentry⟩ := History.lastNumbered_row hj
    have hlater : later = (s.runAll r lines).runAll r (line :: more) := by
      simp only [later, runAll, List.foldl_append]
    have hkept : later.history[row.1 - 1]? = some row.2 := by
      rw [hlater]
      exact getElem?_history_runAll he hentry more
    have hon : later.historyExpansion = true := (s.history_prefix_runAll r _).2.trans hexpansion
    have hplace := (List.getElem?_eq_some_iff.mp hkept).1
    have hentered : later.entered (History.numberLine row.1) = some row.2 :=
      entered_numberLine hmode hon (by omega) (by omega) hkept
    refine ⟨run_of_entered hentered r, ?_⟩
    rw [(later.history_run r _).1, hentered, Option.toList_some]

/-- A session with an entry that begins with the number of another one. -/
def withDigits : Session :=
  inEmptyWorld.runAll .silent ["echo a", "1 x"]

theorem history_numbers_agree_withDigits :
    (History.Refers "!1 b" "1" " b" ∧ History.Means withDigits.history "1" 0 ∧
      History.expand withDigits.history "!1 b" = .ok (some "echo a b")) ∧
    ∃ e ∈ withDigits.executedIn .silent "history 2",
      e.Calls .history ⟨"history", ["2"], none⟩ ∧
      Command.askedEntries e.before ⟨"history", ["2"], none⟩ = some 2 ∧
      Command.history e.before ⟨"history", ["2"], none⟩ = "2 1 x\n3 history 2" ∧
      (2, "1 x") ∈ History.lastNumbered e.before.history 2 ∧
      let later := inEmptyWorld.runAll .silent (["echo a", "1 x"] ++ "history 2" :: ["echo c"])
      later.mode = .normal ∧ later.history.length < Text.indexLimit ∧
        later.run .silent (History.numberLine 2) = later.runRecorded .silent "1 x" := by
  obtain ⟨hexpand, hlisting, hlater⟩ := history_numbers_agree
  have hhistory : withDigits.history = ["echo a", "1 x"] := by decide +kernel
  have hrefers : History.Refers "!1 b" "1" " b" := by
    refine ⟨by decide, by decide, ?_, ?_⟩
    · simp [show Text.isBlank '1' = false by decide]
    · simp [show Text.isBlank ' ' = true by decide]
  have hmeans : History.Means withDigits.history "1" 0 :=
    .number (n := 1) (by decide) (by decide) le_rfl (by rw [hhistory]; decide)
  obtain ⟨entry, hentry, hexpanded⟩ := (hexpand _ _ _ _ hrefers).1 0 hmeans
  obtain rfl : "echo a" = entry := by simpa [hhistory] using hentry
  refine ⟨⟨hrefers, hmeans, hexpanded⟩, ?_⟩
  have hlength : (withDigits.executedIn .silent "history 2").length = 1 := by decide +kernel
  obtain ⟨e, hran⟩ := List.length_eq_one_iff.mp hlength
  have hseen : (withDigits.executedIn .silent "history 2").map (fun e ↦
      (e.before.registry.builtin? e.stage.name, e.stage, e.input, e.before.history)) =
        [(some .history, ⟨"history", ["2"], {}⟩, none, ["echo a", "1 x", "history 2"])] := by
    decide +kernel
  simp only [hran, List.map_cons, List.map_nil, List.cons.injEq, Prod.mk.injEq, and_true]
    at hseen
  obtain ⟨hbuiltin, hstage, hinput, hbefore⟩ := hseen
  have hmem : e ∈ withDigits.executedIn .silent "history 2" := by simp [hran]
  have hcall : e.Calls .history ⟨"history", ["2"], none⟩ := by
    have hdirect := Executed.Calls.direct hbuiltin
    rwa [hstage, hinput] at hdirect
  have hasked : Command.askedEntries e.before ⟨"history", ["2"], none⟩ = some 2 := by
    simp only [Command.askedEntries]
    decide
  have hrow : (2, "1 x") ∈ History.lastNumbered e.before.history 2 := by
    rw [hbefore]
    decide
  have hmode : (inEmptyWorld.runAll .silent
      (["echo a", "1 x"] ++ "history 2" :: ["echo c"])).mode = .normal := by decide +kernel
  have hlimit : (inEmptyWorld.runAll .silent
      (["echo a", "1 x"] ++ "history 2" :: ["echo c"])).history.length < Text.indexLimit := by
    decide +kernel
  have hlisted := (hlisting e.before _ 2 hasked).1
  rw [hbefore] at hlisted
  exact ⟨e, hmem, hcall, hasked, hlisted, hrow, hmode, hlimit,
    ((hlater inEmptyWorld rfl .silent ["echo a", "1 x"] "history 2" e hmem _ hcall).2 2 hasked
      (2, "1 x") hrow ["echo c"] hmode hlimit).1⟩

end Session
end LineShell
