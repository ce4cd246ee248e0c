import LineShell.Script.Process
import LineShell.Script.Builtin.Directory
import LineShell.Script.Builtin.Output
import LineShell.Script.Builtin.Settings

/-!
# The shell's own commands

Those commands that need nothing but the state of the script.
-/

namespace LineShell
namespace Script
namespace Shell

def runPlain (name : String) (args : List String) : Act Unit :=
  match name with
  | ":" | "true" => setStatus 0
  | "false" => setStatus 1
  | "[" => conditionCommand (Condition.evaluateBracketed · args)
  | "alias" => aliasCommand args
  | "bg" | "fg" => foregroundCommand args
  | "break" => leaveLoops .leave args
  | "cd" => changeDirectory args
  | "continue" => leaveLoops .again args
  | "echo" => echo args
  | "exit" => exitCommand args
  | "export" => declareAll name ({ · with exported := true }) (·.exported) args
  | "getopts" => getOptions args
  | "hash" => hashCommand args
  | "jobs" => listJobs args
  | "kill" => killCommand args
  | "local" => localAll args
  | "printf" => printFormatted args
  | "pwd" => printDirectory args
  | "read" => readLine args
  | "readonly" => declareAll name ({ · with readOnly := true }) (·.readOnly) args
  | "return" => returnCommand args
  | "set" => setCommand args
  | "shift" => shift args
  | "test" => conditionCommand (Condition.evaluate · args)
  | "times" => timesCommand
  | "trap" => trapCommand args
  | "type" => typeCommand args
  | "ulimit" => limitCommand args
  | "umask" => maskCommand args
  | "unalias" => unaliasCommand args
  | "unset" => unset args
  | "wait" => waitCommand args
  | _ => setStatus 0

end Shell
end Script
end LineShell
