import LineShell.Session.Basic
import LineShell.Invocation

/-!
# Commands on aliases

`alias` lists, shows and defines; `unalias` removes.
-/

namespace LineShell
namespace Command

/-- The text that is kept for the words of an alias: a single word as it stands,
several ones quoted. -/
def joinWords : List String → String
  | [word] => word
  | words => PosixWords.join words

def showAlias (name expansion : String) : String :=
  name ++ "=" ++ expansion

def listAliases (aliases : Table String) : String :=
  Text.joinWith "\n" (aliases.entries.map fun e => showAlias e.1 e.2)

def defineAlias (s : Session) (name expansion : String) : String × Session :=
  if name = "" ∨ expansion = "" then ("alias: usage: alias name expansion", s)
  else
    (if s.registry.contains name then
        "alias: " ++ name ++ " is a built-in command; the built-in takes precedence"
      else "",
      { s with aliases := s.aliases.insert name expansion })

/-- Lists all aliases, shows one, or defines one, in one of the two forms
`name=expansion` and `name expansion`. -/
def aliases (s : Session) (call : Invocation) : String × Session :=
  match call.args with
  | [] => (listAliases s.aliases, s)
  | first :: rest =>
      match Text.cutOnce '=' first with
      | some (name, head) =>
          defineAlias s name (joinWords ((head :: rest).filter (· ≠ "")))
      | none =>
          if rest = [] then
            match s.aliases.get? first with
            | some expansion => (showAlias first expansion, s)
            | none => ("alias: " ++ first ++ ": not found", s)
          else defineAlias s first (joinWords rest)

/-- Removes aliases one after the other: the messages for those that are not
there, and the table afterwards. -/
def removeAliases (aliases : Table String) : List String → List String × Table String
  | [] => ([], aliases)
  | name :: rest =>
      let tail := removeAliases (aliases.erase name) rest
      if aliases.contains name then tail
      else (("unalias: " ++ name ++ ": not found") :: tail.1, tail.2)

def unalias (s : Session) (call : Invocation) : String × Session :=
  if call.args = [] then ("unalias: missing operand", s)
  else
    let removed := removeAliases s.aliases call.args
    (Text.joinWith "\n" removed.1, { s with aliases := removed.2 })

end Command
end LineShell
