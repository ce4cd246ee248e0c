import LineShell.Text.Basic

/-!
# Built-in commands

The commands that the shell carries out itself, each under a fixed name, and the
registry of those that a session offers.
-/

namespace LineShell

inductive Builtin where
  | help
  | clear
  | edit
  | cd
  | ls
  | pwd
  | echo
  | cat
  | touch
  | rm
  | mkdir
  | rmdir
  | which
  | alias
  | unalias
  | history
deriving DecidableEq, Repr, Inhabited

namespace Builtin

def name : Builtin → String
  | .help => "help"
  | .clear => "clear"
  | .edit => "edit"
  | .cd => "cd"
  | .ls => "ls"
  | .pwd => "pwd"
  | .echo => "echo"
  | .cat => "cat"
  | .touch => "touch"
  | .rm => "rm"
  | .mkdir => "mkdir"
  | .rmdir => "rmdir"
  | .which => "which"
  | .alias => "alias"
  | .unalias => "unalias"
  | .history => "history"

def description : Builtin → String
  | .help => "Show help for commands."
  | .clear => "Clear the screen."
  | .edit => "Enter line edit mode."
  | .cd => "Change directory."
  | .ls => "List directory contents."
  | .pwd => "Print working directory."
  | .echo => "Print arguments."
  | .cat => "Print file contents."
  | .touch => "Create a file or update its modification time."
  | .rm => "Remove files."
  | .mkdir => "Create directories."
  | .rmdir => "Remove empty directories."
  | .which => "Show how a command name resolves."
  | .alias => "List or define aliases."
  | .unalias => "Remove aliases."
  | .history => "Show command history."

def all : List Builtin :=
  [.help, .clear, .edit, .cd, .ls, .pwd, .echo, .cat, .touch, .rm, .mkdir, .rmdir, .which,
    .alias, .unalias, .history]

def ofName? (name : String) : Option Builtin :=
  all.find? (·.name == name)

end Builtin

/-- The commands that a session offers, each with its description. -/
structure Registry where
  commands : List (Builtin × String)
deriving DecidableEq, Repr, Inhabited

namespace Registry

def empty : Registry :=
  ⟨[]⟩

/-- Adds a command; an earlier entry for it gives way. -/
def register (r : Registry) (b : Builtin) (description : String) : Registry :=
  ⟨r.commands.filter (·.1 != b) ++ [(b, description)]⟩

def full : Registry :=
  ⟨Builtin.all.map fun b => (b, b.description)⟩

def find? (r : Registry) (name : String) : Option (Builtin × String) :=
  r.commands.find? (·.1.name == name)

def builtin? (r : Registry) (name : String) : Option Builtin :=
  (r.find? name).map (·.1)

def description? (r : Registry) (name : String) : Option String :=
  (r.find? name).map (·.2)

def contains (r : Registry) (name : String) : Bool :=
  (r.builtin? name).isSome

def names (r : Registry) : List String :=
  (r.commands.map (·.1.name)).mergeSort Text.le

end Registry
end LineShell
