import LineShell.Text.Basic
import LineShell.SystemError

/-!
# Errors of a session

What can stop a line.  Errors about names the user chose are shown as they are;
those of the system are marked as errors.
-/

namespace LineShell

inductive ShellError where
  | io (context : String) (cause : SystemError)
  | spawn (path : String) (cause : SystemError)
  | eventNotFound
  | aliasCycle (chain : List String)
  | aliasTarget (name : String)
deriving DecidableEq, Repr, Inhabited

namespace ShellError

def message : ShellError → String
  | .io context cause => context ++ ": " ++ cause.message
  | .spawn path cause => "failed to start " ++ path ++ ": " ++ cause.message
  | .eventNotFound => "history: event not found"
  | .aliasCycle chain => "alias: cycle detected: " ++ Text.joinWith " -> " chain
  | .aliasTarget name => "alias: target command not found: " ++ name

/-- What the user sees in place of output. -/
def render (e : ShellError) : String :=
  match e with
  | .io _ _ | .spawn _ _ => "Error: " ++ e.message
  | .eventNotFound | .aliasCycle _ | .aliasTarget _ => e.message

end ShellError
end LineShell
