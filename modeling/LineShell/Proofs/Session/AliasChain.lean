import Mathlib
import LineShell.Command.Run
import LineShell.Proofs.Table
import LineShell.Proofs.Session.AliasWords

/-!
# The chain of an alias

The expansion of an alias is a loop that follows what users have typed: the first word of
each text is the name of the next one.  The names form a chain, and the loop ends at the
first of them that is a built-in command, has come up before, or has no text.  Up to there
the names are distinct and all of them aliases, so that the loop takes at most as many rounds
as there are aliases, whatever the table holds.
-/

namespace LineShell

theorem SimpleCommand.ofText_eq (text : String) :
    ofText text = ⟨(Words.split text).headD "", (Words.split text).tail⟩ := by
  unfold ofText
  cases Words.split text <;> rfl

namespace Session

/-! ## The loop -/

/-- What an expansion has at hand: the names on its way, the text that is read next, and the
arguments so far. -/
structure Expansion where
  chain : List String
  text : String
  args : List String

/-- One round of the loop: a result, or what is at hand for the next round. -/
def Expansion.round (s : Session) (x : Expansion) : Except ShellError AliasTarget ⊕ Expansion :=
  let command := SimpleCommand.ofText x.text
  match s.registry.builtin? command.name with
  | some builtin => .inl (.ok ⟨builtin, command.args ++ x.args⟩)
  | none =>
      if command.name ∈ x.chain then .inl (.error (.aliasCycle (x.chain ++ [command.name])))
      else
        match s.aliases.get? command.name with
        | some next => .inr ⟨x.chain ++ [command.name], next, command.args ++ x.args⟩
        | none => .inl (.error (.aliasTarget command.name))

/-- The loop ends with a result in exactly so many rounds. -/
inductive Ends (s : Session) : Nat → Expansion → Except ShellError AliasTarget → Prop
  | last {x : Expansion} {result : Except ShellError AliasTarget}
      (h : x.round s = .inl result) : Ends s 1 x result
  | more {rounds : Nat} {x y : Expansion} {result : Except ShellError AliasTarget}
      (h : x.round s = .inr y) (hrest : Ends s rounds y result) : Ends s (rounds + 1) x result

theorem expandAliasFrom_succ (s : Session) (steps : Nat) (x : Expansion) :
    s.expandAliasFrom (steps + 1) x.chain x.text x.args =
      (x.round s).elim id fun y ↦ s.expandAliasFrom steps y.chain y.text y.args := by
  rw [expandAliasFrom, Expansion.round]
  cases s.registry.builtin? (SimpleCommand.ofText x.text).name with
  | some builtin => rfl
  | none =>
      by_cases hmem : (SimpleCommand.ofText x.text).name ∈ x.chain
      · simp [hmem]
      · cases s.aliases.get? (SimpleCommand.ofText x.text).name <;> simp [hmem]

theorem Ends.expandAliasFrom_eq {s : Session} {rounds steps : Nat} {x : Expansion}
    {result : Except ShellError AliasTarget} (h : s.Ends rounds x result)
    (hsteps : rounds ≤ steps) : s.expandAliasFrom steps x.chain x.text x.args = result := by
  induction h generalizing steps with
  | last h =>
      obtain ⟨steps, rfl⟩ := Nat.exists_eq_add_of_le' hsteps
      rw [expandAliasFrom_succ, h]
      rfl
  | more h hrest ih =>
      obtain ⟨steps, rfl⟩ := Nat.exists_eq_add_of_le' (Nat.le_of_add_left_le hsteps)
      rw [expandAliasFrom_succ, h]
      exact ih (Nat.le_of_succ_le_succ hsteps)

/-! ## The chain -/

/-- The words of the text of an alias; a name without text has none. -/
def aliasWords (s : Session) (name : String) : List String :=
  Words.split ((s.aliases.get? name).getD "")

/-- The name that a name leads to in so many rounds. -/
def nameAfter (s : Session) (name : String) : Nat → String
  | 0 => name
  | i + 1 => (s.aliasWords (s.nameAfter name i)).headD ""

/-- The words that so many rounds put before the arguments: those of a later round stand
before those of an earlier one. -/
def wordsWithin (s : Session) (name : String) : Nat → List String
  | 0 => []
  | i + 1 => (s.aliasWords (s.nameAfter name i)).tail ++ s.wordsWithin name i

/-- The names of the chain before a place. -/
def namesBefore (s : Session) (name : String) (i : Nat) : List String :=
  (List.range i).map (s.nameAfter name)

/-- The chain does not go on from the name at this place: it is a built-in command, or has
come up before, or has no text. -/
def StopsAt (s : Session) (name : String) (i : Nat) : Prop :=
  s.registry.contains (s.nameAfter name i) = true ∨
    s.nameAfter name i ∈ s.namesBefore name i ∨ s.aliases.get? (s.nameAfter name i) = none

/-- What the loop has at hand at a place of the chain. -/
def atPlace (s : Session) (name : String) (args : List String) (i : Nat) : Expansion where
  chain := s.namesBefore name (i + 1)
  text := (s.aliases.get? (s.nameAfter name i)).getD ""
  args := s.wordsWithin name i ++ args

/-- The result of a chain that ends at a place. -/
def outcomeAt (s : Session) (name : String) (args : List String) (i : Nat) :
    Except ShellError AliasTarget :=
  match s.registry.builtin? (s.nameAfter name i) with
  | some builtin => .ok ⟨builtin, s.wordsWithin name i ++ args⟩
  | none =>
      if s.nameAfter name i ∈ s.namesBefore name i then
        .error (.aliasCycle (s.namesBefore name (i + 1)))
      else .error (.aliasTarget (s.nameAfter name i))

variable {s : Session} {name : String}

theorem namesBefore_succ (s : Session) (name : String) (i : Nat) :
    s.namesBefore name (i + 1) = s.namesBefore name i ++ [s.nameAfter name i] := by
  simp [namesBefore, List.range_succ]

theorem nodup_namesBefore {k : Nat} (hgoes : ∀ i, 1 ≤ i → i < k → ¬s.StopsAt name i) :
    (s.namesBefore name k).Nodup := by
  induction k with
  | zero => simp [namesBefore]
  | succ k ih =>
      have hinit := ih fun i hpos hi ↦ hgoes i hpos (by omega)
      -- A name that had come up before would have ended the chain here.
      have hfresh : s.nameAfter name k ∉ s.namesBefore name k := by
        cases k with
        | zero => simp [namesBefore]
        | succ k => exact fun hmem ↦ hgoes (k + 1) (by omega) (by omega) (.inr (.inl hmem))
      rw [namesBefore_succ, List.nodup_append]
      refine ⟨hinit, List.nodup_singleton _, ?_⟩
      rintro n hn m hm rfl
      exact hfresh (List.mem_singleton.mp hm ▸ hn)

theorem isSome_get?_of_mem_namesBefore {k : Nat} (hname : (s.aliases.get? name).isSome)
    (hgoes : ∀ i, 1 ≤ i → i < k → ¬s.StopsAt name i) {n : String}
    (hn : n ∈ s.namesBefore name k) : (s.aliases.get? n).isSome := by
  obtain ⟨i, hi, rfl⟩ := List.mem_map.mp hn
  cases i with
  | zero => exact hname
  | succ i =>
      rw [Option.isSome_iff_ne_none]
      exact fun hnone ↦ hgoes (i + 1) (by omega) (List.mem_range.mp hi) (.inr (.inr hnone))

/-- A chain is at most as long as the table: before its end it goes through distinct
aliases. -/
theorem le_size_of_goes {k : Nat} (hname : (s.aliases.get? name).isSome)
    (hgoes : ∀ i, 1 ≤ i → i < k → ¬s.StopsAt name i) : k ≤ s.aliases.size := by
  have hsubset : s.namesBefore name k ⊆ s.aliases.names := by
    intro n hn
    obtain ⟨text, htext⟩ :=
      Option.isSome_iff_exists.mp (isSome_get?_of_mem_namesBefore hname hgoes hn)
    exact List.mem_map.mpr ⟨(n, text), Table.get?_eq_some_iff_mem.mp htext, rfl⟩
  have hlength := (nodup_namesBefore hgoes).length_le_of_subset hsubset
  simpa [namesBefore, Table.names, Table.size] using hlength

theorem exists_isLeast_stopsAt (hname : (s.aliases.get? name).isSome) :
    ∃ k, IsLeast {i | 1 ≤ i ∧ s.StopsAt name i} k := by
  -- A chain that never ended would have more places than the table has names.
  have hstops : ∃ k, 1 ≤ k ∧ s.StopsAt name k := by
    by_contra hnever
    have hle := le_size_of_goes (k := s.aliases.size + 1) hname
      fun i hpos _ hstop ↦ hnever ⟨i, hpos, hstop⟩
    omega
  classical
  exact ⟨Nat.find hstops, Nat.find_spec hstops, fun i hi ↦ Nat.find_min' hstops hi⟩

/-! ## The loop follows the chain -/

theorem ofText_text_atPlace (args : List String) (i : Nat) :
    SimpleCommand.ofText (s.atPlace name args i).text =
      ⟨s.nameAfter name (i + 1), (s.aliasWords (s.nameAfter name i)).tail⟩ :=
  SimpleCommand.ofText_eq _

theorem round_of_stopsAt {i : Nat} (h : s.StopsAt name (i + 1)) (args : List String) :
    (s.atPlace name args i).round s = .inl (s.outcomeAt name args (i + 1)) := by
  rw [Expansion.round, ofText_text_atPlace, outcomeAt]
  simp only
  cases hbuiltin : s.registry.builtin? (s.nameAfter name (i + 1)) with
  | some b => simp [atPlace, wordsWithin]
  | none =>
      by_cases hmem : s.nameAfter name (i + 1) ∈ s.namesBefore name (i + 1)
      · simp [atPlace, hmem, namesBefore_succ s name (i + 1)]
      · have hnone : s.aliases.get? (s.nameAfter name (i + 1)) = none := by
          rcases h with hcommand | hseen | hnone
          · simp [Registry.contains, hbuiltin] at hcommand
          · exact absurd hseen hmem
          · exact hnone
        simp [atPlace, hmem, hnone]

theorem round_of_not_stopsAt {i : Nat} (h : ¬s.StopsAt name (i + 1)) (args : List String) :
    (s.atPlace name args i).round s = .inr (s.atPlace name args (i + 1)) := by
  obtain ⟨hcommand, hmem, htext⟩ : s.registry.builtin? (s.nameAfter name (i + 1)) = none ∧
      s.nameAfter name (i + 1) ∉ s.namesBefore name (i + 1) ∧
      s.aliases.get? (s.nameAfter name (i + 1)) ≠ none := by
    simpa [StopsAt, Registry.contains] using h
  obtain ⟨text, htext⟩ := Option.ne_none_iff_exists'.mp htext
  rw [Expansion.round, ofText_text_atPlace]
  simp [hcommand, atPlace, hmem, htext, wordsWithin, namesBefore_succ s name (i + 1)]

theorem ends_atPlace {k : Nat} (h : IsLeast {i | 1 ≤ i ∧ s.StopsAt name i} k)
    (args : List String) {i rounds : Nat} (hi : i + (rounds + 1) = k) :
    s.Ends (rounds + 1) (s.atPlace name args i) (s.outcomeAt name args k) := by
  -- The induction is on the rounds that are left, so it starts at the end of the chain.
  induction rounds generalizing i with
  | zero =>
      obtain rfl : i + 1 = k := hi
      exact .last (round_of_stopsAt h.1.2 args)
  | succ rounds ih =>
      have hgoes : ¬s.StopsAt name (i + 1) := by
        intro hstop
        have hle : k ≤ i + 1 := h.2 ⟨by omega, hstop⟩
        omega
      exact .more (round_of_not_stopsAt hgoes args) (ih (by omega))

instance (s : Session) (name : String) (i : Nat) : Decidable (s.StopsAt name i) :=
  inferInstanceAs (Decidable (_ ∨ _ ∨ _))

/-- The expansion of an alias is what its chain of names says.  The chain ends at some least
place after the first, which is no further off than the table is long; the loop takes one round
for each place up to there, through distinct names; and its result is read off the name at the
end: the built-in command with the words of the chain before the arguments, the chain as a
cycle, or a missing target.  The handler of an alias does what that command does, or shows
the error and changes nothing. -/
theorem expandAlias_eq_outcomeAt (s : Session) (name : String) (args : List String) :
    (s.aliases.get? name = none → s.expandAlias name args = .error (.aliasTarget name)) ∧
    ∀ text, s.aliases.get? name = some text →
      ∃ k, IsLeast {i | 1 ≤ i ∧ s.StopsAt name i} k ∧ k ≤ s.aliases.size ∧
        s.Ends k ⟨[name], text, args⟩ (s.outcomeAt name args k) ∧
        (s.namesBefore name k).Nodup ∧
        s.expandAlias name args = s.outcomeAt name args k ∧
        (∀ e, s.expandAlias name args = .error e → e.render =
          if s.nameAfter name k ∈ s.namesBefore name k then
            "alias: cycle detected: " ++ Text.joinWith " -> " (s.namesBefore name (k + 1))
          else "alias: target command not found: " ++ s.nameAfter name k) ∧
        (s.registry.builtin? name = none → ∃ handler, s.handler? name = some handler ∧
          ∀ input, s.runHandler handler ⟨name, args, input⟩ =
            match s.outcomeAt name args k with
            | .ok target => target.builtin.run s ⟨s.nameAfter name k, target.args, input⟩
            | .error e => (e.render, s)) := by
  constructor
  · intro hnone
    rw [expandAlias, hnone]
  intro text htext
  have hname : (s.aliases.get? name).isSome := by simp [htext]
  obtain ⟨k, hk⟩ := exists_isLeast_stopsAt hname
  have hgoes : ∀ i, 1 ≤ i → i < k → ¬s.StopsAt name i := by
    intro i hpos hi hstop
    exact absurd (hk.2 ⟨hpos, hstop⟩) (by omega)
  have hsize := le_size_of_goes hname hgoes
  have hends : s.Ends k ⟨[name], text, args⟩ (s.outcomeAt name args k) := by
    obtain ⟨rounds, rfl⟩ := Nat.exists_eq_add_of_le' hk.1.1
    have hstart : s.atPlace name args 0 = ⟨[name], text, args⟩ := by
      simp [atPlace, namesBefore, nameAfter, wordsWithin, htext]
    exact hstart ▸ ends_atPlace hk args (Nat.zero_add _)
  have hexpand : s.expandAlias name args = s.outcomeAt name args k := by
    rw [expandAlias, htext]
    exact hends.expandAliasFrom_eq hsize
  refine ⟨k, hk, hsize, hends, nodup_namesBefore hgoes, hexpand, ?_, ?_⟩
  · intro e he
    rw [hexpand, outcomeAt] at he
    split at he
    · cases he
    · split_ifs at he ⊢ <;> cases he <;> rfl
  · intro hbuiltin
    refine ⟨.alias text, by simp [handler?, hbuiltin, htext], ?_⟩
    intro input
    rw [runHandler, runAlias, hexpand, outcomeAt]
    cases hend : s.registry.builtin? (s.nameAfter name k) with
    | some b => simp only [Registry.name_of_builtin? hend]
    | none => split_ifs <;> rfl

/-- A session with a chain of two aliases and two aliases that lead to each other. -/
def withChains : Session :=
  { inEmptyWorld with
    aliases := .ofList [("a", "b one"), ("b", "echo zero"), ("p", "q 'x y'"), ("q", "p")] }

theorem expandAlias_withChains :
    withChains.expandAlias "a" ["two"] = .ok ⟨.echo, ["zero", "one", "two"]⟩ ∧
      withChains.expandAlias "p" [] = .error (.aliasCycle ["p", "q", "p"]) ∧
      withChains.expandAlias "none" [] = .error (.aliasTarget "none") := by
  have htwo : ∀ name, withChains.StopsAt name 2 → ¬withChains.StopsAt name 1 →
      IsLeast {i | 1 ≤ i ∧ withChains.StopsAt name i} 2 := by
    intro name hstop hgoes
    refine ⟨⟨by decide, hstop⟩, fun i hi ↦ ?_⟩
    have hne : i ≠ 1 := fun hone ↦ hgoes (hone ▸ hi.2)
    have hpos : 1 ≤ i := hi.1
    omega
  refine ⟨?_, ?_, ?_⟩
  · obtain ⟨k, hk, -, -, -, hexpand, -⟩ :=
      (expandAlias_eq_outcomeAt withChains "a" ["two"]).2 "b one" (by decide +kernel)
    obtain rfl := hk.unique (htwo "a" (by decide +kernel) (by decide +kernel))
    rw [hexpand]
    decide +kernel
  · obtain ⟨k, hk, -, -, -, hexpand, -⟩ :=
      (expandAlias_eq_outcomeAt withChains "p" []).2 "q 'x y'" (by decide +kernel)
    obtain rfl := hk.unique (htwo "p" (by decide +kernel) (by decide +kernel))
    rw [hexpand]
    decide +kernel
  · exact (expandAlias_eq_outcomeAt withChains "none" []).1 (by decide +kernel)

end Session
end LineShell
