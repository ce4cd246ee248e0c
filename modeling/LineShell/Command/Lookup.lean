import LineShell.Session.Basic
import LineShell.Invocation

/-!
# Commands that look things up

`which` tells what a name stands for, `help` describes the commands, and
`history` lists the lines that were run.
-/

namespace LineShell
namespace Command

inductive Meaning where
  | builtin
  | alias (expansion : String)
  | program (path : String)
  | unknown
deriving DecidableEq, Repr, Inhabited

def Meaning.line (name : String) : Meaning → String
  | .builtin => name ++ ": shell built-in command"
  | .alias expansion => name ++ ": aliased to " ++ expansion
  | .program path => path
  | .unknown => "which: no such command: " ++ name

def meaning (s : Session) (name : String) : Meaning :=
  if s.registry.contains name then .builtin
  else
    match s.aliases.get? name with
    | some expansion => .alias expansion
    | none =>
        match s.whichResolver.resolve s.world s.current name with
        | some path => .program path
        | none => .unknown

def whichLine (s : Session) (name : String) : String :=
  (meaning s name).line name

def which (s : Session) (call : Invocation) : String :=
  if call.args = [] then "which: missing operand"
  else Text.joinWith "\n" (call.args.map (whichLine s))

def help (s : Session) (call : Invocation) : String :=
  match call.args with
  | [] => Text.joinWith "\n" ("Available commands:" :: s.registry.names)
  | name :: _ =>
      match s.registry.description? name with
      | some description => name ++ ": " ++ description
      | none =>
          match s.aliases.get? name with
          | some expansion => name ++ ": alias for \x27" ++ expansion ++ "\x27"
          | none => "help: no such command: " ++ name

/-- The entries of the history with their numbers, without the first ones. -/
def numberedFrom (skip : Nat) (history : List String) : List String :=
  (history.zipIdx.drop skip).map fun e => toString (e.2 + 1) ++ " " ++ e.1

def history (s : Session) (call : Invocation) : String :=
  match call.args with
  | [] => Text.joinWith "\n" (numberedFrom 0 s.history)
  | count :: _ =>
      match Text.index? count with
      | some n => Text.joinWith "\n" (numberedFrom (s.history.length - n) s.history)
      | none => "history: numeric argument required: " ++ count

end Command
end LineShell
