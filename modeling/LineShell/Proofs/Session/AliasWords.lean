import Mathlib
import LineShell.Command.Run
import LineShell.Proofs.PosixWords.Rereading

/-!
# The words of a defined alias

An alias that is defined with several words stands for a command and arguments
later on.  The definition quotes the words for a portable shell, and the expansion
reads them in the plain way.  The arguments come back exactly when the quoting of
no word took an escape; a word with a backslash, or with both kinds of quotes in
one chunk, comes back changed.
-/

namespace LineShell

namespace Text

theorem cutOnce_eq_none {sep : Char} {s : String} (h : hasChar s sep = false) :
    cutOnce sep s = none := by
  have hdrop : s.toList.dropWhile (· != sep) = [] := by
    rw [List.dropWhile_eq_nil_iff]
    intro c hc
    have hne : c ≠ sep := by
      rintro rfl
      simp [hasChar, hc] at h
    simpa using hne
  simp [cutOnce, hdrop]

end Text

theorem Table.size_insert_pos {α : Type} (t : Table α) (name : String) (value : α) :
    0 < (t.insert name value).size := by
  obtain ⟨entries, hsorted⟩ := t
  cases entries with
  | nil => simp [insert, size, place]
  | cons e rest =>
      simp only [insert, size, place]
      split_ifs <;> simp

namespace Builtin

theorem unescaped_name (b : Builtin) : PosixWords.Unescaped b.name := by
  cases b <;> decide

end Builtin

theorem Registry.name_of_builtin? {r : Registry} {name : String} {b : Builtin}
    (h : r.builtin? name = some b) : b.name = name := by
  obtain ⟨entry, hfind, rfl⟩ := Option.map_eq_some_iff.mp h
  simpa using List.find?_some hfind

namespace Session

theorem expandAlias_of_builtin {s : Session} {name expansion : String} {words : List String}
    {b : Builtin} (halias : s.aliases.get? name = some expansion) (hsize : 0 < s.aliases.size)
    (hwords : Words.split expansion = b.name :: words)
    (hb : s.registry.builtin? b.name = some b) (args : List String) :
    s.expandAlias name args = .ok ⟨b, words ++ args⟩ := by
  obtain ⟨steps, hsteps⟩ := Nat.exists_eq_add_of_lt hsize
  have hcommand : SimpleCommand.ofText expansion = ⟨b.name, words⟩ := by
    rw [SimpleCommand.ofText, hwords]
    rfl
  rw [expandAlias, halias]
  simp only [hsteps, Nat.zero_add, expandAliasFrom, hcommand, hb]

/-- Several words after a fresh name are quoted and kept. -/
theorem run_alias_define {s : Session} {name first second : String} {rest : List String}
    (hname : name ≠ "") (hsep : Text.hasChar name '=' = false)
    (hnul : ∀ w ∈ first :: second :: rest, Text.hasNul w = false) (input : Option String) :
    (Builtin.alias.run s ⟨"alias", name :: first :: second :: rest, input⟩).2 =
      { s with aliases := s.aliases.insert name (PosixWords.join (first :: second :: rest)) } := by
  have hjoin : PosixWords.join (first :: second :: rest) ≠ "" := by
    rw [PosixWords.join_eq_line hnul]
    simpa using (PosixWords.tight_line first (second :: rest)).nonempty
  simp [Builtin.run, Command.aliases, Text.cutOnce_eq_none hsep, Command.joinWords,
    Command.defineAlias, hname, hjoin]

/-- What an alias stands for after its definition with several words, of which the
first names a command: the rest is as the plain reading finds it. -/
theorem expandAlias_run_alias {s : Session} {name first second : String} {rest : List String}
    {b : Builtin} (hname : name ≠ "") (hsep : Text.hasChar name '=' = false)
    (hnul : ∀ w ∈ first :: second :: rest, Text.hasNul w = false)
    (hb : s.registry.builtin? first = some b) (input : Option String) (args : List String) :
    (Builtin.alias.run s ⟨"alias", name :: first :: second :: rest, input⟩).2.expandAlias
        name args =
      .ok ⟨b, Words.splitFrom .outside none (PosixWords.line (second :: rest)) ++ args⟩ := by
  obtain rfl := Registry.name_of_builtin? hb
  rw [run_alias_define hname hsep hnul]
  have hwords : Words.split (PosixWords.join (b.name :: second :: rest)) =
      b.name :: Words.splitFrom .outside none (PosixWords.line (second :: rest)) := by
    rw [PosixWords.split_join hnul, PosixWords.splitFrom_line_cons b.unescaped_name]
  have hget : (s.aliases.insert name (PosixWords.join (b.name :: second :: rest))).get? name =
      some (PosixWords.join (b.name :: second :: rest)) := by simp
  let defined : Session :=
    { s with aliases := s.aliases.insert name (PosixWords.join (b.name :: second :: rest)) }
  exact expandAlias_of_builtin (s := defined) hget (Table.size_insert_pos ..) hwords hb args

/-- An alias defined with several words stands for these words exactly when none of
them was quoted with an escape. -/
theorem expandAlias_eq_words_iff_unescaped {s : Session} {name first second : String}
    {rest : List String} (hname : name ≠ "") (hsep : Text.hasChar name '=' = false)
    (hnul : ∀ w ∈ first :: second :: rest, Text.hasNul w = false)
    (hfirst : s.registry.contains first = true) (input : Option String) (args : List String) :
    (∃ target, (Builtin.alias.run s
        ⟨"alias", name :: first :: second :: rest, input⟩).2.expandAlias name args = .ok target ∧
      target.builtin.name = first ∧ target.args = second :: rest ++ args) ↔
      ∀ w ∈ first :: second :: rest, PosixWords.Unescaped w := by
  obtain ⟨b, hb⟩ := Option.isSome_iff_exists.mp hfirst
  have hbname := Registry.name_of_builtin? hb
  have hexpand := expandAlias_run_alias hname hsep hnul hb input args
  -- The first word names a command, so that only the others can take an escape.
  have hrest : (∀ w ∈ first :: second :: rest, PosixWords.Unescaped w) ↔
      ∀ w ∈ second :: rest, PosixWords.Unescaped w := by
    rw [List.forall_mem_cons]
    exact and_iff_right (hbname ▸ b.unescaped_name)
  rw [hexpand, hrest, ← PosixWords.splitFrom_line_eq_self_iff]
  constructor
  · rintro ⟨target, htarget, -, hargs⟩
    obtain rfl := Except.ok.inj htarget
    exact List.append_cancel_right hargs
  · intro hread
    exact ⟨_, rfl, hbname, by rw [hread]⟩

/-- A session in an empty world. -/
def inEmptyWorld : Session where
  world := { tree := default, here := [], clock := 0, environment := .empty, accountHome := "/" }
  current := "/"
  previous := "/"
  external := default

theorem expandAlias_apostrophe_and_blanks :
    (∀ w ∈ ["echo", "it's", "", "a  b"], Text.hasNul w = false) ∧
      inEmptyWorld.registry.contains "echo" = true ∧
      (∃ target, (Builtin.alias.run inEmptyWorld
          ⟨"alias", ["hi", "echo", "it's", "", "a  b"], none⟩).2.expandAlias "hi" ["x"] =
            .ok target ∧
        target.builtin.name = "echo" ∧ target.args = ["it's", "", "a  b", "x"]) := by
  have hnul : ∀ w ∈ ["echo", "it's", "", "a  b"], Text.hasNul w = false := by decide
  have hfirst : inEmptyWorld.registry.contains "echo" = true := by decide
  have hchunks : PosixWords.chunks "it's" = [(.double, "it's")] := by decide
  have hapostrophe : PosixWords.Unescaped "it's" := by
    simp [PosixWords.Unescaped, hchunks, PosixWords.isEscaped]
  have hunescaped : ∀ w ∈ ["echo", "it's", "", "a  b"], PosixWords.Unescaped w := by
    simp only [List.forall_mem_cons]
    exact ⟨by decide, hapostrophe, by decide, by decide, by simp⟩
  exact ⟨hnul, hfirst, (expandAlias_eq_words_iff_unescaped (by decide) (by decide) hnul hfirst
    none ["x"]).mpr hunescaped⟩

/-- A word of both kinds of quotes loses the second one, and a backslash stands in its
place. -/
theorem expandAlias_both_quotes :
    (Builtin.alias.run inEmptyWorld ⟨"alias", ["q", "echo", "'\""], none⟩).2.expandAlias "q" [] =
        .ok ⟨.echo, ["'\\"]⟩ ∧
      ¬∃ target, (Builtin.alias.run inEmptyWorld
          ⟨"alias", ["q", "echo", "'\""], none⟩).2.expandAlias "q" [] = .ok target ∧
        target.builtin.name = "echo" ∧ target.args = ["'\""] := by
  have hexpand : (Builtin.alias.run inEmptyWorld
      ⟨"alias", ["q", "echo", "'\""], none⟩).2.expandAlias "q" [] = .ok ⟨.echo, ["'\\"]⟩ := by
    have hb : inEmptyWorld.registry.builtin? "echo" = some .echo := by decide
    have hread : Words.splitFrom .outside none (PosixWords.line ["'\""]) = ["'\\"] := by decide
    rw [expandAlias_run_alias (by decide) (by decide) (by decide) hb, hread]
    rfl
  refine ⟨hexpand, ?_⟩
  rw [hexpand]
  rintro ⟨target, htarget, -, hargs⟩
  obtain rfl := Except.ok.inj htarget
  exact absurd hargs (by decide)

end Session
end LineShell
