import LineShell.Session.Basic
import LineShell.Invocation

/-!
# Commands on the current directory

`pwd` shows it and `cd` changes it, for the session only.
-/

namespace LineShell
namespace Command

def pwd (s : Session) : String :=
  s.current

/-- The directory that `cd` is asked for: home, the previous one, or a path. -/
def cdTarget (s : Session) (arg : Option String) : String :=
  match arg with
  | none => s.resolvePath "~"
  | some path => if path = "-" then s.previous else s.resolvePath path

def cd (s : Session) (call : Invocation) : String × Session :=
  let arg := call.args.head?
  let target := cdTarget s arg
  if s.world.isDirectory target then ("", s.changeDirectory target)
  else ("cd: no such file or directory: " ++ arg.getD "~", s)

end Command
end LineShell
