import LineShell.Command.Output
import LineShell.Command.Directory
import LineShell.Command.Listing
import LineShell.Command.Files
import LineShell.Command.Aliases
import LineShell.Command.Lookup
import LineShell.Session.Alias

/-!
# Running a built-in command or an alias

A call of a built-in command always yields a text; failures are texts too.
-/

namespace LineShell

def Command.clearScreen : String :=
  "\x1b[2J\x1b[H"

def Builtin.run (b : Builtin) (s : Session) (call : Invocation) : String × Session :=
  match b with
  | .help => (Command.help s call, s)
  | .clear => (Command.clearScreen, s)
  | .edit => ("Entering edit mode. Type :q to leave.", { s with mode := .edit })
  | .cd => Command.cd s call
  | .ls => (Command.ls s call, s)
  | .pwd => (Command.pwd s, s)
  | .echo => (Command.echo call, s)
  | .cat => (Command.cat s call, s)
  | .touch => Command.changeOperands "touch" Command.touchOne s call
  | .rm => Command.changeOperands "rm" Command.rmOne s call
  | .mkdir => Command.changeOperands "mkdir" Command.mkdirOne s call
  | .rmdir => Command.changeOperands "rmdir" Command.rmdirOne s call
  | .which => (Command.which s call, s)
  | .alias => Command.aliases s call
  | .unalias => Command.unalias s call
  | .history => (Command.history s call, s)

namespace Session

/-- Runs what an alias stands for, or shows why it stands for nothing. -/
def runAlias (s : Session) (call : Invocation) : String × Session :=
  match s.expandAlias call.name call.args with
  | .ok target =>
      target.builtin.run s { call with name := target.builtin.name, args := target.args }
  | .error e => (e.render, s)

inductive Handler where
  | builtin (b : Builtin)
  | alias (expansion : String)
deriving DecidableEq, Repr, Inhabited

/-- The handler of a name; a built-in command goes before an alias. -/
def handler? (s : Session) (name : String) : Option Handler :=
  match s.registry.builtin? name with
  | some b => some (.builtin b)
  | none => (s.aliases.get? name).map .alias

def runHandler (s : Session) (handler : Handler) (call : Invocation) : String × Session :=
  match handler with
  | .builtin b => b.run s call
  | .alias _ => s.runAlias call

end Session
end LineShell
