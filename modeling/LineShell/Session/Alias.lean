import LineShell.Session.Basic

/-!
# Alias expansion

An alias is expanded until its first word names a built-in command.  Each step
puts the words of the expansion before the arguments at hand.  A name that
comes up twice is a cycle.
-/

namespace LineShell
namespace Session

structure AliasTarget where
  builtin : Builtin
  args : List String
deriving DecidableEq, Repr, Inhabited

/-- Expands an alias text, given the names on the way to it.  Every step visits
a new alias, so that as many steps suffice as there are aliases. -/
def expandAliasFrom (s : Session) :
    Nat → List String → String → List String → Except ShellError AliasTarget
  | 0, chain, _, _ => .error (.aliasCycle chain)
  | steps + 1, chain, expansion, args =>
      let command := SimpleCommand.ofText expansion
      match s.registry.builtin? command.name with
      | some builtin => .ok ⟨builtin, command.args ++ args⟩
      | none =>
          if command.name ∈ chain then .error (.aliasCycle (chain ++ [command.name]))
          else
            match s.aliases.get? command.name with
            | some next =>
                expandAliasFrom s steps (chain ++ [command.name]) next (command.args ++ args)
            | none => .error (.aliasTarget command.name)

/-- Expands an alias called with arguments down to a built-in command. -/
def expandAlias (s : Session) (name : String) (args : List String) :
    Except ShellError AliasTarget :=
  match s.aliases.get? name with
  | some expansion => s.expandAliasFrom s.aliases.size [name] expansion args
  | none => .error (.aliasTarget name)

end Session
end LineShell
