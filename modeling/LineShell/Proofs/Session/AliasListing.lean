import Mathlib
import LineShell.Session.Start
import LineShell.Proofs.Table
import LineShell.Proofs.Session.AliasForms
import LineShell.Proofs.Session.Effect

/-!
# Definitions that are stated again

`alias` shows each definition as `name=expansion`, and takes this text as a definition.
It is the same one again if the name has no equals sign and neither the name nor the
expansion is empty.  Whatever commands are called, no definition of another kind is made.
-/

namespace LineShell

namespace Text

variable {sep : Char} {s : String}

theorem hasChar_of_cutOnce_eq_some {before after : String}
    (h : cutOnce sep s = some (before, after)) : hasChar before sep = false := by
  have hbefore : before = String.ofList (s.toList.takeWhile (· != sep)) := by
    unfold cutOnce at h
    split at h
    · cases h
    · exact (congrArg Prod.fst (Option.some.inj h)).symm
  have hkept : sep ∉ s.toList.takeWhile (· != sep) := by
    intro hmem
    simpa using List.mem_takeWhile_imp hmem
  simpa [hbefore, hasChar] using hkept

theorem hasChar_of_cutOnce_eq_none (h : cutOnce sep s = none) : hasChar s sep = false := by
  have hdrop : s.toList.dropWhile (· != sep) = [] := by
    unfold cutOnce at h
    split at h
    · assumption
    · cases h
  have hall := List.dropWhile_eq_nil_iff.mp hdrop
  have hkept : sep ∉ s.toList := by
    intro hmem
    simpa using hall sep hmem
  simpa [hasChar] using hkept

end Text

theorem Table.insert_eq_self {α : Type} {t : Table α} {name : String} {value : α}
    (h : t.get? name = some value) : t.insert name value = t := by
  apply ext_get?
  intro k
  rw [get?_insert]
  split_ifs with hk
  · rw [← hk, h]
  · rfl

namespace Command

/-- Every definition can be stated again as `name=expansion`. -/
def Restatable (aliases : Table String) : Prop :=
  ∀ e ∈ aliases.entries, e.1 ≠ "" ∧ Text.hasChar e.1 '=' = false ∧ e.2 ≠ ""

instance (aliases : Table String) : Decidable (Restatable aliases) :=
  inferInstanceAs (Decidable (∀ e ∈ aliases.entries, _))

theorem Restatable.insert {aliases : Table String} (h : Restatable aliases)
    {name expansion : String} (hname : name ≠ "") (hsep : Text.hasChar name '=' = false)
    (hexpansion : expansion ≠ "") : Restatable (aliases.insert name expansion) := by
  intro e he
  rcases Table.mem_place he with rfl | he
  · exact ⟨hname, hsep, hexpansion⟩
  · exact h e he

theorem Restatable.erase {aliases : Table String} (h : Restatable aliases) (name : String) :
    Restatable (aliases.erase name) :=
  fun e he ↦ h e (List.mem_of_mem_filter he)

theorem restatable_removeAliases {aliases : Table String} (h : Restatable aliases)
    (names : List String) : Restatable (removeAliases aliases names).2 := by
  induction names generalizing aliases with
  | nil => exact h
  | cons name rest ih =>
      rw [removeAliases]
      split_ifs
      · exact ih (h.erase name)
      · exact ih (h.erase name)

variable {s : Session}

theorem restatable_unalias (h : Restatable s.aliases) (call : Invocation) :
    Restatable (unalias s call).2.aliases := by
  unfold unalias
  split_ifs
  · exact h
  · exact restatable_removeAliases h call.args

theorem restatable_defineAlias (h : Restatable s.aliases) {name : String}
    (hsep : Text.hasChar name '=' = false) (expansion : String) :
    Restatable (defineAlias s name expansion).2.aliases := by
  unfold defineAlias
  by_cases hempty : name = "" ∨ expansion = ""
  · rw [if_pos hempty]
    exact h
  · rw [if_neg hempty]
    obtain ⟨hname, hexpansion⟩ := not_or.mp hempty
    exact h.insert hname hsep hexpansion

theorem restatable_aliases (h : Restatable s.aliases) (call : Invocation) :
    Restatable (aliases s call).2.aliases := by
  -- Either the name is what stands before the first equals sign, or there is no such sign.
  unfold aliases
  cases call.args with
  | nil => exact h
  | cons first rest =>
      cases hcut : Text.cutOnce '=' first with
      | some parts =>
          simp only [hcut]
          exact restatable_defineAlias h (Text.hasChar_of_cutOnce_eq_some hcut) _
      | none =>
          simp only [hcut]
          split_ifs
          · split <;> exact h
          · exact restatable_defineAlias h (Text.hasChar_of_cutOnce_eq_none hcut) _

theorem restatable_run (h : Restatable s.aliases) (b : Builtin) (call : Invocation) :
    Restatable (b.run s call).2.aliases := by
  by_cases hb : b = .alias ∨ b = .unalias
  · rcases hb with rfl | rfl
    · exact restatable_aliases h call
    · exact restatable_unalias h call
  · have heffect := b.effect_run s call
    generalize (b.run s call).2 = t at heffect ⊢
    cases heffect with
    | define hdefines => exact absurd hdefines hb
    | nothing | move | enterEdit | files => exact h

theorem aliases_shows {name expansion : String} (hsep : Text.hasChar name '=' = false)
    (h : s.aliases.get? name = some expansion) (caller : String) (input : Option String) :
    aliases s ⟨caller, [name], input⟩ = (showAlias name expansion, s) := by
  simp [aliases, Text.cutOnce_eq_none hsep, h]

theorem aliases_showAlias {name : String} (hsep : Text.hasChar name '=' = false)
    {expansion : String} (hexpansion : expansion ≠ "") (caller : String)
    (input : Option String) :
    aliases s ⟨caller, [showAlias name expansion], input⟩ = defineAlias s name expansion := by
  have hdefines : aliases s ⟨caller, [name ++ "=" ++ expansion], input⟩ =
      defineAlias s name (joinWords ([expansion].filter (· ≠ ""))) :=
    aliases_equals_form hsep caller input
  rw [List.filter_cons_of_pos (by simpa using hexpansion)] at hdefines
  exact hdefines

theorem defineAlias_eq_self {name expansion : String} (hname : name ≠ "")
    (hexpansion : expansion ≠ "") (h : s.aliases.get? name = some expansion) :
    (defineAlias s name expansion).2 = s := by
  rw [defineAlias, if_neg (not_or.mpr ⟨hname, hexpansion⟩), Table.insert_eq_self h]

end Command

namespace Session

/-- The session after calls of built-in commands, one after the other. -/
def runCalls (s : Session) (calls : List (Builtin × Invocation)) : Session :=
  calls.foldl (fun t call ↦ (call.1.run t call.2).2) s

theorem restatable_runCalls {s : Session} (h : Command.Restatable s.aliases)
    (calls : List (Builtin × Invocation)) :
    Command.Restatable (s.runCalls calls).aliases := by
  induction calls generalizing s with
  | nil => exact h
  | cons call rest ih => exact ih (Command.restatable_run h call.1 call.2)

/-- `alias` lists the definitions of a session, shows each of them alone in the same words,
and takes these words as a definition that leaves the session as it is. -/
structure FeedsBack (s : Session) : Prop where
  listed : ∀ caller input, Builtin.alias.run s ⟨caller, [], input⟩ =
    (Text.joinWith "\n" (s.aliases.entries.map fun e ↦ e.1 ++ "=" ++ e.2), s)
  shown : ∀ e ∈ s.aliases.entries, ∀ caller input,
    Builtin.alias.run s ⟨caller, [e.1], input⟩ = (e.1 ++ "=" ++ e.2, s)
  taken : ∀ e ∈ s.aliases.entries, ∀ caller input,
    (Builtin.alias.run s ⟨caller, [e.1 ++ "=" ++ e.2], input⟩).2 = s

theorem feedsBack_of_restatable {s : Session} (h : Command.Restatable s.aliases) :
    s.FeedsBack where
  listed _ _ := rfl
  shown e he caller input := by
    have hget : s.aliases.get? e.1 = some e.2 := Table.get?_eq_some_iff_mem.mpr he
    exact Command.aliases_shows (h e he).2.1 hget caller input
  taken e he caller input := by
    obtain ⟨hname, hsep, hexpansion⟩ := h e he
    have hget : s.aliases.get? e.1 = some e.2 := Table.get?_eq_some_iff_mem.mpr he
    have hdefines : Builtin.alias.run s ⟨caller, [e.1 ++ "=" ++ e.2], input⟩ =
        Command.defineAlias s e.1 e.2 := Command.aliases_showAlias hsep hexpansion caller input
    rw [hdefines]
    exact Command.defineAlias_eq_self hname hexpansion hget

/-- Built-in commands, however they are called, leave only definitions that can be stated
again: the text that `alias` shows of each of them, it takes as the same definition. -/
theorem alias_listing_feeds_back {s : Session} (h : Command.Restatable s.aliases)
    (calls : List (Builtin × Invocation)) :
    Command.Restatable (s.runCalls calls).aliases ∧ (s.runCalls calls).FeedsBack := by
  have hafter := restatable_runCalls h calls
  exact ⟨hafter, feedsBack_of_restatable hafter⟩

/-- Definitions in both forms, a refused one, a removal, and an expansion full of marks. -/
theorem alias_listing_feeds_back_marks :
    let s := start Config.default inEmptyWorld.world
    let t := s.runCalls
      [(.alias, ⟨"alias", ["q=echo 'a=b';\n\"\\ "], none⟩),
        (.alias, ⟨"alias", ["ll", "ls", "-l", "a b"], none⟩),
        (.alias, ⟨"alias", ["=ls", "-l"], none⟩),
        (.unalias, ⟨"unalias", ["dir", "cls", "gone"], none⟩)]
    Command.Restatable s.aliases ∧ Command.Restatable t.aliases ∧
      t.aliases.entries = [("del", "rm"), ("ll", "ls -l 'a b'"), ("q", "echo 'a=b';\n\"\\ "),
        ("type", "cat")] ∧
      Builtin.alias.run t ⟨"alias", ["q"], none⟩ = ("q=echo 'a=b';\n\"\\ ", t) ∧
      (Builtin.alias.run t ⟨"alias", ["q=echo 'a=b';\n\"\\ "], none⟩).2 = t := by
  intro s t
  have hdefaults : Command.Restatable s.aliases := by decide +kernel
  have hentries : t.aliases.entries = [("del", "rm"), ("ll", "ls -l 'a b'"),
      ("q", "echo 'a=b';\n\"\\ "), ("type", "cat")] := by decide +kernel
  have hq : ("q", "echo 'a=b';\n\"\\ ") ∈ t.aliases.entries := by simp [hentries]
  obtain ⟨hafter, hback⟩ := alias_listing_feeds_back hdefaults
    [(.alias, ⟨"alias", ["q=echo 'a=b';\n\"\\ "], none⟩),
      (.alias, ⟨"alias", ["ll", "ls", "-l", "a b"], none⟩),
      (.alias, ⟨"alias", ["=ls", "-l"], none⟩),
      (.unalias, ⟨"unalias", ["dir", "cls", "gone"], none⟩)]
  exact ⟨hdefaults, hafter, hentries, hback.shown _ hq "alias" none, hback.taken _ hq "alias" none⟩

end Session
end LineShell
