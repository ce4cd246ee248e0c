import LineShell.Proofs.Session.AliasWords

/-!
# The two forms of a definition

An alias is defined with `name expansion` or with `name=expansion`.  The second form
drops empty words before the expansion is made.  An empty word behind the equals sign
is so left out, as if the first word of the expansion were the next one; otherwise the
forms do the same for words that are not empty.
-/

namespace LineShell

theorem Text.cutOnce_append {sep : Char} {s : String} (h : hasChar s sep = false)
    (rest : String) : cutOnce sep (s ++ sep.toString ++ rest) = some (s, rest) := by
  have hkeep : ∀ c ∈ s.toList, (c != sep) = true := by
    intro c hc
    rw [bne_iff_ne]
    rintro rfl
    simp [hasChar, hc] at h
  have htext : (s ++ sep.toString ++ rest).toList = s.toList ++ sep :: rest.toList := by simp
  rw [cutOnce, htext, List.dropWhile_append_of_pos hkeep, List.takeWhile_append_of_pos hkeep]
  simp

namespace Command

variable {s : Session} {name head : String} {rest : List String}

theorem aliases_equals_form (hsep : Text.hasChar name '=' = false) (caller : String)
    (input : Option String) :
    aliases s ⟨caller, (name ++ "=" ++ head) :: rest, input⟩ =
      defineAlias s name (joinWords ((head :: rest).filter (· ≠ ""))) := by
  have hcut : Text.cutOnce '=' (name ++ "=" ++ head) = some (name, head) :=
    Text.cutOnce_append hsep head
  simp only [aliases, hcut]

theorem aliases_words_form (hsep : Text.hasChar name '=' = false) (hrest : rest ≠ [])
    (caller : String) (input : Option String) :
    aliases s ⟨caller, name :: rest, input⟩ = defineAlias s name (joinWords rest) := by
  simp only [aliases, Text.cutOnce_eq_none hsep, if_neg hrest]

end Command

namespace Session

/-- Both forms of a definition do the same for words that are not empty; an empty word right
behind the equals sign is left out if other words follow it. -/
theorem run_alias_equals_form {name : String} (hsep : Text.hasChar name '=' = false)
    {rest : List String} (hrest : "" ∉ rest) (s : Session) (head : String)
    (input : Option String) :
    (head ≠ "" ∨ rest = [] →
        Builtin.alias.run s ⟨"alias", (name ++ "=" ++ head) :: rest, input⟩ =
          Builtin.alias.run s ⟨"alias", name :: head :: rest, input⟩) ∧
      (head = "" ∧ rest ≠ [] →
        Builtin.alias.run s ⟨"alias", (name ++ "=" ++ head) :: rest, input⟩ =
          Builtin.alias.run s ⟨"alias", name :: rest, input⟩) := by
  have hkept : rest.filter (· ≠ "") = rest := by
    rw [List.filter_eq_self]
    intro w hw
    have hne : w ≠ "" := by
      rintro rfl
      exact hrest hw
    simpa using hne
  have hequals : Builtin.alias.run s ⟨"alias", (name ++ "=" ++ head) :: rest, input⟩ =
      Command.defineAlias s name (Command.joinWords ((head :: rest).filter (· ≠ ""))) :=
    Command.aliases_equals_form hsep "alias" input
  constructor
  · intro h
    have hwords : Builtin.alias.run s ⟨"alias", name :: head :: rest, input⟩ =
        Command.defineAlias s name (Command.joinWords (head :: rest)) :=
      Command.aliases_words_form hsep (by simp) "alias" input
    rw [hequals, hwords]
    by_cases hhead : head = ""
    · obtain rfl : rest = [] := h.resolve_left (absurd hhead)
      subst hhead
      rfl
    · rw [List.filter_cons_of_pos (by simpa using hhead), hkept]
  · rintro ⟨rfl, hne⟩
    have hwords : Builtin.alias.run s ⟨"alias", name :: rest, input⟩ =
        Command.defineAlias s name (Command.joinWords rest) :=
      Command.aliases_words_form hsep hne "alias" input
    rw [hequals, hwords, List.filter_cons_of_neg (by simp), hkept]

/-- Two definitions of a greeting, and one whose first word is missing. -/
theorem run_alias_equals_form_greeting :
    Text.hasChar "hi" '=' = false ∧ "" ∉ ["it's", "me"] ∧
      Builtin.alias.run inEmptyWorld ⟨"alias", ["hi=echo", "it's", "me"], none⟩ =
        Builtin.alias.run inEmptyWorld ⟨"alias", ["hi", "echo", "it's", "me"], none⟩ ∧
      Builtin.alias.run inEmptyWorld ⟨"alias", ["hi=", "it's", "me"], none⟩ =
        Builtin.alias.run inEmptyWorld ⟨"alias", ["hi", "it's", "me"], none⟩ := by
  have hsep : Text.hasChar "hi" '=' = false := by decide
  have hrest : "" ∉ ["it's", "me"] := by decide
  exact ⟨hsep, hrest,
    (run_alias_equals_form hsep hrest inEmptyWorld "echo" none).1 (.inl (by decide)),
    (run_alias_equals_form hsep hrest inEmptyWorld "" none).2 ⟨rfl, by decide⟩⟩

/-- Where a word of the expansion is empty and not the only one, the forms differ. -/
theorem run_alias_empty_words :
    (Builtin.alias.run inEmptyWorld ⟨"alias", ["x=", "ls"], none⟩).2.aliases ≠
        (Builtin.alias.run inEmptyWorld ⟨"alias", ["x", "", "ls"], none⟩).2.aliases ∧
      (Builtin.alias.run inEmptyWorld ⟨"alias", ["x=echo", "", "b"], none⟩).2.aliases ≠
        (Builtin.alias.run inEmptyWorld ⟨"alias", ["x", "echo", "", "b"], none⟩).2.aliases := by
  constructor
  · intro h
    have hget := congrArg (Table.get? · "x") h
    exact absurd hget (by decide)
  · intro h
    have hget := congrArg (Table.get? · "x") h
    exact absurd hget (by decide)

end Session
end LineShell
